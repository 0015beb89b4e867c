import RelyingParty.Key.Certified
import RelyingParty.Proofs.Access.Authenticator

namespace RelyingParty

namespace PublicKey

open Certificate (SubjectKey)

/-- Whether a byte string is a mark with two coordinates. The mark is asked for only where the length is
right. -/
def isPointByPlace (width : Nat) (bs : Bytes) : Access Bool :=
  if bs.length ≠ 1 + 2 * width then .ok false
  else do
    let mark ← bs.byteAt 0
    .ok (mark = uncompressedMark)

def ofRawPointByPlace (bs : Bytes) : Access (Except KeyError PublicKey) := do
  let isPoint ← isPointByPlace 32 bs
  if isPoint then do
    let x ← bs.slice 1 33
    let y ← bs.slice 33 65
    .ok (ofCoordinates .es256 .p256 x y)
  else .ok (.error (.invalid (.notRawPoint bs.length)))

def ofEcSubjectByPlace (algorithm : Algorithm) (curve : EcCurve) (key : SubjectKey) :
    Access (Except KeyError PublicKey) :=
  if key.algorithm.id.arcs ≠ ecKind then .ok (.error (.invalid (.notEc key.algorithm.id)))
  else do
    let isPoint ← isPointByPlace curve.width key.bytes
    if isPoint then do
      let x ← key.bytes.slice 1 (1 + curve.width)
      let y ← key.bytes.sliceFrom (1 + curve.width)
      .ok (ofCoordinates algorithm curve x y)
    else .ok (.error (.invalid (.notUncompressed (1 + 2 * curve.width))))

/-- The key of a certificate's subject for an algorithm. Only points are read by places. -/
def ofSubjectKeyByPlace (algorithm : Algorithm) (key : SubjectKey) : Access (Except KeyError PublicKey) :=
  match algorithm with
  | .es256 => ofEcSubjectByPlace .es256 .p256 key
  | .es384 => ofEcSubjectByPlace .es384 .p384 key
  | .es512 => ofEcSubjectByPlace .es512 .p521 key
  | .edDsa => .ok (ofEdwardsSubject key)
  | .rs256 => .ok (ofRsaSubject key)

variable {bs x y : Bytes} {width : Nat}

theorem isPointByPlace_eq : isPointByPlace width bs = .ok (coordinates? width bs).isSome := by
  unfold isPointByPlace
  cases bs with
  | nil =>
    have hempty : List.length ([] : Bytes) ≠ 1 + 2 * width := by
      rw [List.length_nil]
      omega
    exact if_pos hempty
  | cons mark bs =>
    rw [coordinates?]
    by_cases hlength : bs.length = 2 * width
    · have hwhole : ¬ (mark :: bs).length ≠ 1 + 2 * width := by
        rw [List.length_cons]
        omega
      have hmark : Bytes.byteAt (mark :: bs) 0 = .ok mark := Bytes.byteAt_eq_ok.mpr rfl
      rw [if_neg hwhole, hmark, ok_bind]
      by_cases hpoint : mark = uncompressedMark
      · have hroom : width ≤ bs.length := by omega
        rw [if_pos ⟨hpoint, hlength⟩, Bytes.split?, if_pos hroom, decide_eq_true hpoint]
        rfl
      · rw [if_neg (fun h => hpoint h.1), decide_eq_false hpoint]
        rfl
    · have hwhole : (mark :: bs).length ≠ 1 + 2 * width := by
        rw [List.length_cons]
        omega
      rw [if_pos hwhole, if_neg (fun h => hlength h.2)]
      rfl

/-- Both ways in which the second coordinate is cut out. -/
theorem slices_of_coordinates? (h : coordinates? width bs = some (x, y)) :
    bs.slice 1 (1 + width) = .ok x ∧ bs.slice (1 + width) (1 + 2 * width) = .ok y ∧
      bs.sliceFrom (1 + width) = .ok y := by
  obtain ⟨rfl, hx, hy⟩ := coordinates?_eq_some.mp h
  have hfront : (uncompressedMark :: x).length = 1 + width := by
    rw [List.length_cons, hx, Nat.add_comm]
  refine ⟨Bytes.slice_eq_ok.mpr ⟨[uncompressedMark], y, rfl, rfl, by rw [hx]⟩,
    Bytes.slice_eq_ok.mpr ⟨uncompressedMark :: x, [], ?_, hfront, by omega⟩,
    Bytes.sliceFrom_eq_ok.mpr ⟨uncompressedMark :: x, rfl, hfront⟩⟩
  rw [List.append_nil]
  rfl

theorem ofRawPointByPlace_eq (bs : Bytes) : ofRawPointByPlace bs = .ok (ofRawPoint bs) := by
  rw [ofRawPointByPlace, isPointByPlace_eq, ok_bind, ofRawPoint, EcCurve.width]
  cases hpoint : coordinates? 32 bs with
  | none => rfl
  | some point =>
    obtain ⟨x, y⟩ := point
    obtain ⟨hx, hy, _⟩ := slices_of_coordinates? hpoint
    rw [Option.isSome_some, if_pos rfl, hx, ok_bind, hy, ok_bind]

theorem ofEcSubjectByPlace_eq (algorithm : Algorithm) (curve : EcCurve) (key : SubjectKey) :
    ofEcSubjectByPlace algorithm curve key = .ok (ofEcSubject algorithm curve key) := by
  unfold ofEcSubjectByPlace ofEcSubject
  by_cases hkind : key.algorithm.id.arcs ≠ ecKind
  · rw [if_pos hkind, if_pos hkind]
  · rw [if_neg hkind, if_neg hkind, isPointByPlace_eq, ok_bind]
    cases hpoint : coordinates? curve.width key.bytes with
    | none => rfl
    | some point =>
      obtain ⟨x, y⟩ := point
      obtain ⟨hx, _, hy⟩ := slices_of_coordinates? hpoint
      rw [Option.isSome_some, if_pos rfl, hx, ok_bind, hy, ok_bind]

theorem ofSubjectKeyByPlace_eq (algorithm : Algorithm) (key : SubjectKey) :
    ofSubjectKeyByPlace algorithm key = .ok (ofSubjectKey algorithm key) := by
  cases algorithm with
  | es256 => exact ofEcSubjectByPlace_eq .es256 .p256 key
  | es384 => exact ofEcSubjectByPlace_eq .es384 .p384 key
  | es512 => exact ofEcSubjectByPlace_eq .es512 .p521 key
  | edDsa => rfl
  | rs256 => rfl

end PublicKey

/-- No byte string and no flag takes a reader out of range. Authenticator data, points, the keys of
certificates, elements and items are read by places as they are read by cuts, so that nowhere a byte, a slice
or a difference of lengths is asked for that there is not; and the place up to which authenticator data has
been read is within it or at its end. Only the reader of attested credential data by itself leans on its
caller: it is in range exactly if it is given 18 bytes, which the test of the whole length provides. -/
theorem readers_stay_in_range (bs : Bytes) :
    (∀ mayBeMissing, AuthenticatorData.parseByPlace bs mayBeMissing =
      .ok (AuthenticatorData.parse bs mayBeMissing)) ∧
    (∀ flags mayBeMissing attested place, AuthenticatorData.fixedLength ≤ bs.length →
      AuthenticatorData.readAttestedByPlace flags mayBeMissing bs = .ok (.ok (attested, place)) →
        AuthenticatorData.fixedLength ≤ place ∧ place ≤ bs.length ∧
        ∀ extensions stop, AuthenticatorData.readExtensionsByPlace flags bs place =
          .ok (.ok (extensions, stop)) → place ≤ stop ∧ stop ≤ bs.length) ∧
    ((∃ outcome, AttestedCredential.readByPlace bs = .ok outcome) ↔
      AttestedCredential.minLength ≤ bs.length) ∧
    (AttestedCredential.minLength ≤ bs.length →
      AttestedCredential.readByPlace bs = .ok (bs.placed (AttestedCredential.read bs))) ∧
    PublicKey.ofRawPointByPlace bs = .ok (PublicKey.ofRawPoint bs) ∧
    (∀ algorithm id, PublicKey.ofSubjectKeyByPlace algorithm ⟨id, bs⟩ =
      .ok (PublicKey.ofSubjectKey algorithm ⟨id, bs⟩)) ∧
    Der.Element.readByPlace bs = .ok (Der.Element.read? bs) ∧
    Cbor.decodeFirstByPlace bs = .ok (Cbor.decodeFirst bs) ∧
    Cbor.decodeByPlace bs = .ok (Cbor.decode bs) := by
  refine ⟨AuthenticatorData.parseByPlace_eq bs, ?_, AttestedCredential.readByPlace_inRange_iff,
    AttestedCredential.readByPlace_eq, PublicKey.ofRawPointByPlace_eq bs, ?_,
    Der.Element.readByPlace_eq bs, Cbor.decodeFirstByPlace_eq bs, Cbor.decodeByPlace_eq bs⟩
  · intro flags mayBeMissing attested place hlength h
    obtain ⟨hstart, hplace⟩ := AuthenticatorData.place_of_readAttestedByPlace hlength h
    refine ⟨hstart, hplace, fun extensions stop hextensions => ?_⟩
    exact AuthenticatorData.place_of_readExtensionsByPlace hplace hextensions
  · intro algorithm id
    exact PublicKey.ofSubjectKeyByPlace_eq algorithm ⟨id, bs⟩

open Cbor (sampleKeyed sampleKeyedData)

/-- A credential behind the fixed bytes ends at place 58, where one byte of extensions begins; the credential
alone is in range, and the first 17 of its bytes are not. -/
theorem readers_stay_in_range_sample :
    AuthenticatorData.readAttestedByPlace ⟨0xc1⟩ false sampleKeyedData =
      .ok (.ok (some sampleKeyed, 58)) ∧
    (37 ≤ 58 ∧ 58 ≤ sampleKeyedData.length) ∧
    AuthenticatorData.readExtensionsByPlace ⟨0xc1⟩ sampleKeyedData 58 = .ok (.ok (some [0xa0], 59)) ∧
    (58 ≤ 59 ∧ 59 ≤ sampleKeyedData.length) ∧
    AttestedCredential.readByPlace (sampleKeyedData.drop 37) = .ok (.ok (sampleKeyed, 21)) ∧
    ¬ ∃ outcome, AttestedCredential.readByPlace ((sampleKeyedData.drop 37).take 17) = .ok outcome := by
  have hattested : AuthenticatorData.readAttestedByPlace ⟨0xc1⟩ false sampleKeyedData =
      .ok (.ok (some sampleKeyed, 58)) := by decide +kernel
  have hextensions : AuthenticatorData.readExtensionsByPlace ⟨0xc1⟩ sampleKeyedData 58 =
      .ok (.ok (some [0xa0], 59)) := by decide +kernel
  have hread : Bytes.placed (sampleKeyedData.drop 37) (AttestedCredential.read (sampleKeyedData.drop 37)) =
      .ok (sampleKeyed, 21) := by decide +kernel
  obtain ⟨hstart, hplace, hstop⟩ :=
    (readers_stay_in_range sampleKeyedData).2.1 _ _ _ _ (by decide) hattested
  have halone := (readers_stay_in_range (sampleKeyedData.drop 37)).2.2.2.1 (by decide)
  refine ⟨hattested, ⟨hstart, hplace⟩, hextensions, hstop _ _ hextensions, hread ▸ halone, ?_⟩
  rw [(readers_stay_in_range ((sampleKeyedData.drop 37).take 17)).2.2.1]
  decide

end RelyingParty
