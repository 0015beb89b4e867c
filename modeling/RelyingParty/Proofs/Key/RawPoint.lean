import RelyingParty.Proofs.Assertion.Tampering

namespace RelyingParty

open Certificate (SubjectKey)

namespace PublicKey

/-- The point of a key as it is written uncompressed. -/
def pointBytes? : PublicKey → Option Bytes
  | ec2 _ _ x y => some (uncompressed x y)
  | rsa .. => none
  | okp .. => none

variable {bs : Bytes} {key : PublicKey} {algorithm : Algorithm} {subject : SubjectKey}

theorem pointBytes?_of_ofRawPoint (h : ofRawPoint bs = .ok key) : key.pointBytes? = some bs := by
  obtain ⟨x, y, rfl, _, _, rfl⟩ := ofRawPoint_eq_ok.mp h
  rfl

theorem ofRawPoint_of_ofCoordinates {x y : Bytes} (h : ofCoordinates algorithm .p256 x y = .ok key) :
    key.pointBytes? = some (uncompressed x y) ∧ ofRawPoint (uncompressed x y) = .ok key := by
  obtain ⟨rfl, hx, hy, rfl⟩ := ofCoordinates_eq_ok.mp h
  exact ⟨rfl, ofRawPoint_eq_ok.mpr ⟨x, y, rfl, hx, hy, rfl⟩⟩

theorem pointBytes?_of_ofEcSubject {curve : EcCurve} (h : ofEcSubject algorithm curve subject = .ok key) :
    key.pointBytes? = some subject.bytes := by
  obtain ⟨_, x, y, hpoint, hkey⟩ := ofEcSubject_eq_ok.mp h
  obtain ⟨_, _, _, rfl⟩ := ofCoordinates_eq_ok.mp hkey
  rw [hpoint]
  rfl

theorem pointBytes?_of_ofSubjectKey (halgorithm : algorithm ∈ [Algorithm.es256, .es384, .es512])
    (h : ofSubjectKey algorithm subject = .ok key) : key.pointBytes? = some subject.bytes := by
  simp only [List.mem_cons, List.not_mem_nil, or_false] at halgorithm
  rcases halgorithm with rfl | rfl | rfl
  · exact pointBytes?_of_ofEcSubject h
  · exact pointBytes?_of_ofEcSubject h
  · exact pointBytes?_of_ofEcSubject h

end PublicKey

namespace AssertionRequest

variable {request other : AssertionRequest} {challenge challenge' : Bytes} {credential : Credential}
  {party party' : Party} {policy policy' : Policy} {verified verified' : VerifiedAssertion}

theorem key_of_verify (h : request.verify challenge credential party policy = .ok verified) :
    ∃ key, (request.keyForm credential).read credential.publicKey = .ok key := by
  obtain ⟨_, _, _, hsigned⟩ := isSigned_of_verifyUsing h
  obtain ⟨key, hkey, _⟩ := bind_eq_ok.mp hsigned
  exact ⟨key, hkey⟩

theorem keyForm_of_former (h : credential.attestationType = .fidoU2f) :
    request.keyForm credential = if request.appIdExtension then .rawPoint else .cose := by
  unfold keyForm
  rw [h]

/-- Logins with a credential of the former kind agree on which identifier of the party they use. -/
theorem appIdExtension_eq_of_verify (hformer : credential.attestationType = .fidoU2f)
    (h : request.verify challenge credential party policy = .ok verified)
    (h' : other.verify challenge' credential party' policy' = .ok verified') :
    request.appIdExtension = other.appIdExtension := by
  obtain ⟨key, hkey⟩ := key_of_verify h
  obtain ⟨key', hkey'⟩ := key_of_verify h'
  have hform := KeyForm.eq_of_read hkey hkey'
  rw [keyForm_of_former hformer, keyForm_of_former hformer] at hform
  cases hone : request.appIdExtension <;> cases htwo : other.appIdExtension
  case false.false => rfl
  case true.true => rfl
  all_goals simp [hone, htwo] at hform

end AssertionRequest

namespace PublicKey

/-- The points of P-256, as apps and credentials of the former kind write them, are the strings of 65 bytes
that start with the mark, and the key of one is written as the same bytes. A key that is made of two
coordinates is read back from the bytes that it is written as, and the key of a certificate is written as the
bytes that the certificate holds, for every curve. No bytes are a key both as a point and as a map; so all
logins that are accepted with one credential of the former kind use the same identifier of the party. -/
theorem raw_points_are_exact_and_no_maps :
    (∀ bs, ((∃ key, ofRawPoint bs = .ok key) ↔ bs.length = 65 ∧ bs.head? = some 0x04) ∧
      ∀ key, ofRawPoint bs = .ok key → key.pointBytes? = some bs) ∧
    (∀ algorithm x y key, ofCoordinates algorithm .p256 x y = .ok key →
      ∃ point, key.pointBytes? = some point ∧ ofRawPoint point = .ok key) ∧
    (∀ algorithm ∈ [Algorithm.es256, .es384, .es512], ∀ subject key,
      ofSubjectKey algorithm subject = .ok key → key.pointBytes? = some subject.bytes) ∧
    (∀ bs key other, ofRawPoint bs = .ok key → ofCose bs ≠ .ok other) ∧
    ∀ credential : Credential, credential.attestationType = .fidoU2f →
      ∀ (request other : AssertionRequest) (challenge challenge' : Bytes) (party party' : Party)
        (policy policy' : Policy) (verified verified' : VerifiedAssertion),
        request.verify challenge credential party policy = .ok verified →
        other.verify challenge' credential party' policy' = .ok verified' →
          request.appIdExtension = other.appIdExtension := by
  refine ⟨fun bs => ⟨exists_ofRawPoint_eq_ok, fun key => pointBytes?_of_ofRawPoint⟩, ?_, ?_, ?_, ?_⟩
  · intro algorithm x y key h
    exact ⟨_, ofRawPoint_of_ofCoordinates h⟩
  · intro algorithm halgorithm subject key h
    exact pointBytes?_of_ofSubjectKey halgorithm h
  · intro bs key other h
    exact ofCose_ne_ok_of_ofRawPoint h other
  · intro credential hformer request other _ _ _ _ _ _ _ _ h h'
    exact AssertionRequest.appIdExtension_eq_of_verify hformer h h'

open Store (sampleAnswer sampleCounting sampleStrict)

def sampleFormer : Credential := { sampleCounting with attestationType := .fidoU2f }

/-- The base point of P-256 is the key of its bytes, which are no map, and the credential that logs in
without the former identifier never does so with it. -/
theorem raw_points_are_exact_and_no_maps_sample :
    (∃ key, ofRawPoint AssertionRequest.samplePoint = .ok key ∧
      key.pointBytes? = some AssertionRequest.samplePoint ∧
      ∀ other, ofCose AssertionRequest.samplePoint ≠ .ok other) ∧
    sampleAnswer.verify [2] sampleFormer ⟨"a", "b", none⟩ sampleStrict = .ok ⟨6, true, false⟩ ∧
    ∀ verified, { sampleAnswer with appIdExtension := true }.verify [2] sampleFormer ⟨"a", "b", none⟩
      sampleStrict ≠ .ok verified := by
  obtain ⟨exact, _, _, apart, former⟩ := raw_points_are_exact_and_no_maps
  have hverified : sampleAnswer.verify [2] sampleFormer ⟨"a", "b", none⟩ sampleStrict =
      .ok ⟨6, true, false⟩ := by decide +kernel
  obtain ⟨key, hkey⟩ := (exact AssertionRequest.samplePoint).1.mpr (by decide +kernel)
  refine ⟨⟨key, hkey, (exact _).2 key hkey, fun other => apart _ _ other hkey⟩, hverified, ?_⟩
  intro verified h
  cases former sampleFormer rfl _ _ _ _ _ _ _ _ _ _ hverified h

end PublicKey

end RelyingParty
