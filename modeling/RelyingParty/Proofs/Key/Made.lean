import RelyingParty.Key.Certified
import RelyingParty.Proofs.Key.Parameters

namespace RelyingParty.PublicKey

open Certificate (SubjectKey)

variable {bs : Bytes} {key : PublicKey} {algorithm : Algorithm} {curve : EcCurve} {subject : SubjectKey}

theorem ofRawPoint_eq_ok : ofRawPoint bs = .ok key ↔ ∃ x y, bs = uncompressed x y ∧
    x.length = EcCurve.p256.width ∧ y.length = EcCurve.p256.width ∧ key = .ec2 .es256 .p256 x y := by
  unfold ofRawPoint
  constructor
  · intro h
    split at h
    next x y hpoint =>
      obtain ⟨hbs, hx, hy⟩ := coordinates?_eq_some.mp hpoint
      obtain ⟨_, _, _, hkey⟩ := ofCoordinates_eq_ok.mp h
      exact ⟨x, y, hbs, hx, hy, hkey⟩
    next => cases h
  · rintro ⟨x, y, hbs, hx, hy, hkey⟩
    rw [coordinates?_eq_some.mpr ⟨hbs, hx, hy⟩]
    exact ofCoordinates_eq_ok.mpr ⟨rfl, hx, hy, hkey⟩

/-- The points of P-256 are told by their length and their first byte alone. -/
theorem exists_ofRawPoint_eq_ok : (∃ key, ofRawPoint bs = .ok key) ↔
    bs.length = 65 ∧ bs.head? = some uncompressedMark := by
  simp only [ofRawPoint_eq_ok]
  constructor
  · rintro ⟨_, x, y, rfl, hx, hy, _⟩
    refine ⟨?_, rfl⟩
    simp [uncompressed, hx, hy, EcCurve.width]
  · rintro ⟨hlength, hmark⟩
    obtain ⟨coordinates, rfl⟩ := List.head?_eq_some_iff.mp hmark
    have hcoordinates : coordinates.length = 64 := by simpa using hlength
    refine ⟨_, coordinates.take 32, coordinates.drop 32, ?_, ?_, ?_, rfl⟩
    · rw [uncompressed, List.cons_append, List.take_append_drop]
    · simp [hcoordinates, EcCurve.width]
    · simp [hcoordinates, EcCurve.width]

theorem ofEcSubject_eq_ok : ofEcSubject algorithm curve subject = .ok key ↔
    subject.algorithm.id.arcs = ecKind ∧ ∃ x y, subject.bytes = uncompressed x y ∧
      ofCoordinates algorithm curve x y = .ok key := by
  unfold ofEcSubject
  rw [refuse_eq_ensure (q := subject.algorithm.id.arcs = ecKind) (by simp), ensure_bind_eq_ok]
  refine and_congr_right fun _ => ?_
  constructor
  · intro h
    split at h
    next x y hpoint =>
      obtain ⟨hbs, _, _⟩ := coordinates?_eq_some.mp hpoint
      exact ⟨x, y, hbs, h⟩
    next => cases h
  · rintro ⟨x, y, hbs, h⟩
    obtain ⟨_, hx, hy, _⟩ := ofCoordinates_eq_ok.mp h
    rw [coordinates?_eq_some.mpr ⟨hbs, hx, hy⟩]
    exact h

theorem ofRsaSubject_eq_ok : ofRsaSubject subject = .ok key ↔ subject.algorithm.id = rsaKind ∧
    ∃ modulus exponent rest, Certificate.rsaNumbers subject.bytes = some ((modulus, exponent), rest) ∧
      key = .rsa .rs256 modulus exponent := by
  unfold ofRsaSubject
  rw [refuse_eq_ensure (q := subject.algorithm.id.arcs = rsaKind.arcs) (by simp),
    refuse_eq_ensure (q := subject.algorithm.id = rsaKind) (by simp), ensure_bind_eq_ok, ensure_bind_eq_ok]
  constructor
  · rintro ⟨_, hid, h⟩
    split at h
    next modulus exponent rest hnumbers =>
      exact ⟨hid, modulus, exponent, rest, hnumbers, (Except.ok.inj h).symm⟩
    next => cases h
  · rintro ⟨hid, modulus, exponent, rest, hnumbers, rfl⟩
    refine ⟨congrArg _ hid, hid, ?_⟩
    rw [hnumbers]

theorem ofEdwardsSubject_eq_ok : ofEdwardsSubject subject = .ok key ↔
    subject.algorithm.id.arcs = ed25519Kind ∧ subject.bytes.length = 32 ∧
      key = .okp .edDsa subject.bytes := by
  unfold ofEdwardsSubject
  rw [refuse_eq_ensure (q := subject.algorithm.id.arcs = ed25519Kind ∧ subject.bytes.length = 32)
    (by simp; tauto), ensure_bind_eq_ok, and_assoc, Except.ok.injEq, eq_comm (a := key)]

theorem wellFormed_of_readEntries {entries : Cbor.Entries} (h : Cose.readEntries entries = .ok key) :
    key.WellFormed := (Cose.readEntries_eq_ok.mp h).1

theorem wellFormed_of_ofSubjectKey (h : ofSubjectKey algorithm subject = .ok key) : key.WellFormed := by
  have ofEc {algorithm : Algorithm} {curve : EcCurve}
      (h : ofEcSubject algorithm curve subject = .ok key) : key.WellFormed := by
    obtain ⟨_, x, y, _, h⟩ := ofEcSubject_eq_ok.mp h
    exact wellFormed_of_ofCoordinates h
  cases algorithm with
  | es256 => exact ofEc h
  | es384 => exact ofEc h
  | es512 => exact ofEc h
  | edDsa =>
    obtain ⟨_, hx, rfl⟩ := ofEdwardsSubject_eq_ok.mp h
    exact .okp hx
  | rs256 =>
    obtain ⟨_, modulus, exponent, _, _, rfl⟩ := ofRsaSubject_eq_ok.mp h
    exact .rsa modulus exponent

/-- A key that one of the constructors returns. -/
inductive Made (key : PublicKey) : Prop
  | coordinates {algorithm : Algorithm} {curve : EcCurve} {x y : Bytes}
    (h : ofCoordinates algorithm curve x y = .ok key)
  | rawPoint {bs : Bytes} (h : ofRawPoint bs = .ok key)
  | cose {bs : Bytes} (h : ofCose bs = .ok key)
  | item {item : Cbor.Item} (h : Cose.readItem item = .ok key)
  | subject {algorithm : Algorithm} {subject : SubjectKey} (h : ofSubjectKey algorithm subject = .ok key)

theorem ofCose_eq_ok : ofCose bs = .ok key ↔
    ∃ entries, Cbor.decodeMap bs = .ok entries ∧ Cose.readEntries entries = .ok key := by
  unfold ofCose
  cases Cbor.decodeMap bs <;> simp

theorem readItem_eq_ok {item : Cbor.Item} : Cose.readItem item = .ok key ↔
    ∃ entries, item = .map entries ∧ Cose.readEntries entries = .ok key := by
  cases item <;> simp [Cose.readItem]

theorem Made.wellFormed (h : key.Made) : key.WellFormed := by
  cases h with
  | coordinates h => exact wellFormed_of_ofCoordinates h
  | rawPoint h =>
    obtain ⟨x, y, _, hx, hy, rfl⟩ := ofRawPoint_eq_ok.mp h
    exact .ec2 .p256 hx hy
  | cose h =>
    obtain ⟨entries, _, h⟩ := ofCose_eq_ok.mp h
    exact wellFormed_of_readEntries h
  | item h =>
    obtain ⟨entries, _, h⟩ := readItem_eq_ok.mp h
    exact wellFormed_of_readEntries h
  | subject h => exact wellFormed_of_ofSubjectKey h

end RelyingParty.PublicKey
