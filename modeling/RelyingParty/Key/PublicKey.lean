import RelyingParty.Key.Error

namespace RelyingParty

/-- A public key with the algorithm that it declares. The parts are the bytes that were given; only
verification asks whether they are a key. -/
inductive PublicKey where
  | ec2 (algorithm : Algorithm) (curve : EcCurve) (x y : Bytes)
  | rsa (algorithm : Algorithm) (modulus exponent : Bytes)
  | okp (algorithm : Algorithm) (x : Bytes)
  deriving DecidableEq

def uncompressedMark : UInt8 := 0x04

namespace PublicKey

def algorithm : PublicKey → Algorithm
  | ec2 algorithm _ _ _ => algorithm
  | rsa algorithm _ _ => algorithm
  | okp algorithm _ => algorithm

/-- An ECDSA key whose algorithm is the one of its curve and whose coordinates have its width. -/
def ofCoordinates (algorithm : Algorithm) (curve : EcCurve) (x y : Bytes) : Except KeyError PublicKey :=
  if curve.algorithm ≠ algorithm then .error (.mismatchedAlgorithm algorithm (.ec curve))
  else if x.length ≠ curve.width ∨ y.length ≠ curve.width then
    .error (.invalid (.coordinateWidth curve))
  else .ok (.ec2 algorithm curve x y)

def uncompressed (x y : Bytes) : Bytes := uncompressedMark :: x ++ y

def coordinates? (width : Nat) : Bytes → Option (Bytes × Bytes)
  | mark :: bs =>
    if mark = uncompressedMark ∧ bs.length = 2 * width then Bytes.split? width bs else none
  | [] => none

theorem coordinates?_eq_some {width : Nat} {bs x y : Bytes} :
    coordinates? width bs = some (x, y) ↔
      bs = uncompressed x y ∧ x.length = width ∧ y.length = width := by
  cases bs with
  | nil => simp [coordinates?, uncompressed]
  | cons mark bs =>
    simp only [coordinates?, uncompressed, List.cons_append, List.cons.injEq]
    constructor
    · intro h
      split at h
      next hm =>
        obtain ⟨rfl, hx⟩ := Bytes.split?_eq_some.mp h
        have hl := hm.2
        simp only [List.length_append] at hl
        exact ⟨⟨hm.1, rfl⟩, hx, by omega⟩
      next => simp at h
    · rintro ⟨⟨rfl, rfl⟩, rfl, hy⟩
      simp [hy, Nat.two_mul]

def ofRawPoint (bs : Bytes) : Except KeyError PublicKey :=
  match coordinates? EcCurve.p256.width bs with
  | some (x, y) => ofCoordinates .es256 .p256 x y
  | none => .error (.invalid (.notRawPoint bs.length))

end PublicKey

end RelyingParty
