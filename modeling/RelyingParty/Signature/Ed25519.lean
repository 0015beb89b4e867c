import RelyingParty.Curve.Edwards
import RelyingParty.Hash.Sha2

namespace RelyingParty.Ed25519

open Curve (Edwards.Point)

structure Key where
  point : Edwards.Point
  bytes : Bytes

def Key.ofBytes? (bs : Bytes) : Option Key :=
  (Edwards.Point.decompress? bs).map (⟨·, bs⟩)

def littleEndian (bs : Bytes) : Nat := Bytes.toNat bs.reverse

/-- Whether `signature` is one of `message`: the point in it is the one that the number, the key and
the digest give, compared by its bytes. -/
def verify (key : Key) (message signature : Bytes) : Bool :=
  match Bytes.split? 32 signature with
  | none => false
  | some (point, number) =>
    let s := littleEndian number
    if number.length = 32 ∧ s < Curve.Edwards.order then
      let digest := littleEndian (sha512 (point ++ key.bytes ++ message))
      let expected := Curve.combination Edwards.Point.add .zero Edwards.Point.base key.point.neg
        s (digest % Curve.Edwards.order)
      expected.compress == point
    else false

end RelyingParty.Ed25519
