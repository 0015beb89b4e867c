import RelyingParty.Key.Verify
import RelyingParty.Proofs.Key.Made

namespace RelyingParty

open Certificate (SubjectKey)

variable {key : PublicKey} {algorithm : Algorithm} {curve : EcCurve} {entries : Cbor.Entries}

def Ecdsa.check (curve : EcCurve) (hash : HashFunction) (x y message signature : Bytes) :
    Except KeyError Bool :=
  match curve.equation.point? x.toNat y.toNat with
  | some point => .ok (Ecdsa.verify curve.equation point (hash.digest message) signature)
  | none => .error (.invalid (.notOnCurve curve))

def Rsa.check (hash : HashFunction) (modulus exponent message signature : Bytes) : Except KeyError Bool :=
  match Rsa.Key.ofNumbers modulus.toNat exponent.toNat with
  | .ok key => .ok (Rsa.verify key hash message signature)
  | .error fault => .error (.invalid (.rsa fault))

def Ed25519.check (x message signature : Bytes) : Except KeyError Bool :=
  match Ed25519.Key.ofBytes? x with
  | some key => .ok (Ed25519.verify key message signature)
  | none => .error (.invalid .notEdwardsPoint)

namespace Algorithm

/-- The scheme that an algorithm names, on the parts of a key. The algorithm and the curve that the key
itself has are not looked at; there is no answer for a key of another kind. -/
def check? (algorithm : Algorithm) (key : PublicKey) (message signature : Bytes) :
    Option (Except KeyError Bool) :=
  match algorithm, key with
  | .es256, .ec2 _ _ x y => some (Ecdsa.check .p256 .sha256 x y message signature)
  | .es384, .ec2 _ _ x y => some (Ecdsa.check .p384 .sha384 x y message signature)
  | .es512, .ec2 _ _ x y => some (Ecdsa.check .p521 .sha512 x y message signature)
  | .edDsa, .okp _ x => some (Ed25519.check x message signature)
  | .rs256, .rsa _ modulus exponent => some (Rsa.check .sha256 modulus exponent message signature)
  | _, _ => none

def keyType : Algorithm → Int
  | es256 | es384 | es512 => Cose.ec2Type
  | edDsa => Cose.okpType
  | rs256 => Cose.rsaType

def curveNumber? : Algorithm → Option Int
  | es256 => some EcCurve.p256.id
  | es384 => some EcCurve.p384.id
  | es512 => some EcCurve.p521.id
  | edDsa => some Cose.ed25519Curve
  | rs256 => none

/-- The kind of keys in certificates that an algorithm works with. -/
def subjectKind : Algorithm → List Nat
  | es256 | es384 | es512 => PublicKey.ecKind
  | edDsa => PublicKey.ed25519Kind
  | rs256 => PublicKey.rsaKind.arcs

end Algorithm

namespace Cose

/-- The entries of a map that say what kind of key it holds: the type of the key, its algorithm and,
where the algorithm has one, its curve are those of the key. -/
structure Declares (entries : Cbor.Entries) (key : PublicKey) : Prop where
  keyType : entries.Labels keyTypeLabel (.ofInt key.algorithm.keyType)
  algorithm : entries.Labels algorithmLabel (.ofInt key.algorithm.id)
  curve : ∀ curve ∈ key.algorithm.curveNumber?, entries.Labels curveLabel (.ofInt curve)

theorem declares_of_readEntries (h : readEntries entries = .ok key) : Declares entries key := by
  obtain ⟨hkey, hlabels⟩ := readEntries_eq_ok.mp h
  cases hkey with
  | @ec2 curve x y hx hy =>
    simp only [parameters, List.forall_mem_cons] at hlabels
    obtain ⟨htype, halgorithm, hcurve, _⟩ := hlabels
    cases curve <;> exact ⟨htype, halgorithm, by rintro _ ⟨⟩; exact hcurve⟩
  | rsa modulus exponent =>
    simp only [parameters, List.forall_mem_cons] at hlabels
    obtain ⟨htype, halgorithm, _⟩ := hlabels
    exact ⟨htype, halgorithm, by rintro _ ⟨⟩⟩
  | okp hx =>
    simp only [parameters, List.forall_mem_cons] at hlabels
    obtain ⟨htype, halgorithm, hcurve, _⟩ := hlabels
    exact ⟨htype, halgorithm, by rintro _ ⟨⟩; exact hcurve⟩

end Cose

namespace PublicKey

theorem verify_ec2 {x y : Bytes} (hx : x.length = curve.width) (hy : y.length = curve.width)
    (message signature : Bytes) : (ec2 algorithm curve x y).verify message signature =
      Ecdsa.check curve (Verifier.hash curve) x y message signature := by
  have hpoint : point? curve x y = curve.equation.point? x.toNat y.toNat := by
    simp [point?, coordinates?_eq_some.mpr ⟨rfl, hx, hy⟩]
  unfold verify verifier Ecdsa.check
  simp only [hpoint]
  cases curve.equation.point? x.toNat y.toNat <;> rfl

theorem verify_rsa (modulus exponent message signature : Bytes) :
    (rsa algorithm modulus exponent).verify message signature =
      Rsa.check .sha256 modulus exponent message signature := by
  unfold verify verifier Rsa.check
  cases h : Rsa.Key.ofNumbers modulus.toNat exponent.toNat <;> simp only [h] <;> rfl

theorem verify_okp {x : Bytes} (hx : x.length = 32) (message signature : Bytes) :
    (okp algorithm x).verify message signature = Ed25519.check x message signature := by
  unfold verify verifier Ed25519.check
  simp only [if_neg (not_not.mpr hx)]
  cases Ed25519.Key.ofBytes? x <;> rfl

theorem WellFormed.check?_algorithm (h : key.WellFormed) (message signature : Bytes) :
    key.algorithm.check? key message signature = some (key.verify message signature) := by
  cases h with
  | ec2 curve hx hy =>
    rw [verify_ec2 hx hy]
    cases curve <;> rfl
  | rsa modulus exponent =>
    rw [verify_rsa]
    rfl
  | okp hx =>
    rw [verify_okp hx]
    rfl

theorem ofEcSubject_algorithm {subject : SubjectKey} (h : ofEcSubject algorithm curve subject = .ok key) :
    key.algorithm = algorithm ∧ subject.algorithm.id.arcs = ecKind := by
  obtain ⟨hkind, x, y, _, h⟩ := ofEcSubject_eq_ok.mp h
  obtain ⟨_, _, _, rfl⟩ := ofCoordinates_eq_ok.mp h
  exact ⟨rfl, hkind⟩

theorem ofSubjectKey_algorithm {subject : SubjectKey} (h : ofSubjectKey algorithm subject = .ok key) :
    key.algorithm = algorithm ∧ subject.algorithm.id.arcs = algorithm.subjectKind := by
  cases algorithm with
  | es256 => exact ofEcSubject_algorithm h
  | es384 => exact ofEcSubject_algorithm h
  | es512 => exact ofEcSubject_algorithm h
  | edDsa =>
    obtain ⟨hkind, _, rfl⟩ := ofEdwardsSubject_eq_ok.mp h
    exact ⟨rfl, hkind⟩
  | rs256 =>
    obtain ⟨hkind, _, _, _, _, rfl⟩ := ofRsaSubject_eq_ok.mp h
    exact ⟨rfl, congrArg Der.ObjectId.arcs hkind⟩

/-- The algorithm of a key decides everything else: the keys that can be made have the algorithm, the
curve and the sizes of their kind, so that verification runs the scheme of the algorithm; and the
algorithm is the one that was asked for or that stands in the map, beside the type and the curve that go
with it. -/
theorem scheme_of_algorithm :
    (∀ key : PublicKey, key.Made → key.WellFormed ∧ Cose.keyType key = key.algorithm.keyType ∧
      ∀ message signature,
        key.algorithm.check? key message signature = some (key.verify message signature)) ∧
    (∀ bs key, ofCose bs = .ok key →
      ∃ entries, Cbor.decodeMap bs = .ok entries ∧ Cose.Declares entries key) ∧
    (∀ item key, Cose.readItem item = .ok key →
      ∃ entries, item = .map entries ∧ Cose.Declares entries key) ∧
    (∀ algorithm curve x y key, ofCoordinates algorithm curve x y = .ok key →
      key.algorithm = algorithm ∧ algorithm.curve? = some curve) ∧
    (∀ bs key, ofRawPoint bs = .ok key → key.algorithm = .es256) ∧
    (∀ algorithm subject key, ofSubjectKey algorithm subject = .ok key →
      key.algorithm = algorithm ∧ subject.algorithm.id.arcs = algorithm.subjectKind) := by
  refine ⟨fun key hmade => ?_, fun bs key h => ?_, fun item key h => ?_,
    fun algorithm curve x y key h => ?_, fun bs key h => ?_,
    fun algorithm subject key h => ofSubjectKey_algorithm h⟩
  · have hkey := hmade.wellFormed
    refine ⟨hkey, ?_, hkey.check?_algorithm⟩
    cases hkey with
    | ec2 curve => cases curve <;> rfl
    | rsa => rfl
    | okp => rfl
  · obtain ⟨entries, hentries, h⟩ := ofCose_eq_ok.mp h
    exact ⟨entries, hentries, Cose.declares_of_readEntries h⟩
  · obtain ⟨entries, hentries, h⟩ := readItem_eq_ok.mp h
    exact ⟨entries, hentries, Cose.declares_of_readEntries h⟩
  · obtain ⟨hcurve, _, _, rfl⟩ := ofCoordinates_eq_ok.mp h
    exact ⟨rfl, Algorithm.curve?_eq_some_iff.mpr hcurve⟩
  · obtain ⟨_, _, _, _, _, rfl⟩ := ofRawPoint_eq_ok.mp h
    rfl

theorem scheme_of_rsa : Cose.readItem (.map [(.unsigned 1, .unsigned 3), (.unsigned 3, .negative 256),
      (.negative 0, .bytes [0x8f]), (.negative 1, .bytes [0x03])]) = .ok (rsa .rs256 [0x8f] [0x03]) ∧
    Algorithm.rs256.check? (rsa .rs256 [0x8f] [0x03]) [0x01] [0x02] =
      some ((rsa .rs256 [0x8f] [0x03]).verify [0x01] [0x02]) := by
  have h : Cose.readItem (.map [(.unsigned 1, .unsigned 3), (.unsigned 3, .negative 256),
      (.negative 0, .bytes [0x8f]), (.negative 1, .bytes [0x03])]) = .ok (rsa .rs256 [0x8f] [0x03]) := rfl
  exact ⟨h, (scheme_of_algorithm.1 _ (.item h)).2.2 _ _⟩

end PublicKey

end RelyingParty
