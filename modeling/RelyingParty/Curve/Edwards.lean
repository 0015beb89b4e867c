import RelyingParty.Number.Modular
import RelyingParty.Curve.Combination
import RelyingParty.Bytes

namespace RelyingParty.Curve.Edwards

def modulus : Nat := 0x7fffffffffffffffffffffffffffffffffffffffffffffffffffffffffffffed

instance : @NeZero Nat Zero.ofOfNat0 modulus := ⟨by decide⟩

abbrev Scalar := Fin modulus

def div (x y : Scalar) : Scalar := x * Fin.ofNat _ (Modular.inverse modulus y.val)

def pow (x : Scalar) (e : Nat) : Scalar := Fin.ofNat _ (Modular.pow modulus x.val e)

def d : Scalar := Fin.ofNat _ 0x52036cee2b6ffe738cc740797779e89800700a4d4141d8ab75eb4dca135978a3

def order : Nat := 0x1000000000000000000000000000000014def9dea2f79cd65812631a5cf5d3ed

structure Point where
  (x y z : Scalar)

namespace Point

def zero : Point := ⟨0, 1, 1⟩

def neg (p : Point) : Point := ⟨-p.x, p.y, p.z⟩

def add (p q : Point) : Point :=
  let zz := p.z * q.z
  let xx := p.x * q.x
  let yy := p.y * q.y
  let t := d * xx * yy
  let minus := zz * zz - t
  let plus := zz * zz + t
  ⟨zz * minus * ((p.x + p.y) * (q.x + q.y) - xx - yy), zz * plus * (yy + xx), minus * plus⟩

def signBit : Nat := 1 <<< 255

/-- The 32 bytes of a point: the second coordinate, least significant byte first, with the lowest
bit of the first coordinate in the highest bit. -/
def compress (p : Point) : Bytes :=
  let x := div p.x p.z
  let y := div p.y p.z
  (Bytes.ofNat 32 (y.val + x.val % 2 * signBit)).reverse

def rootOfMinusOne : Scalar := pow 2 ((modulus - 1) / 4)

def squareRootOfQuotient? (u v : Scalar) : Option Scalar :=
  let candidate := u * pow v 3 * pow (u * pow v 7) ((modulus - 5) / 8)
  let square := v * candidate * candidate
  let root? :=
    if square = u then some candidate
    else if square = -u then some (candidate * rootOfMinusOne)
    else none
  root?.map fun root => if root.val % 2 = 0 then root else -root

/-- The point of 32 bytes. The second coordinate may be written by a number above the modulus, and
a first coordinate of zero may have either sign. -/
def decompress? (bs : Bytes) : Option Point := do
  let n := Bytes.toNat bs.reverse
  let y : Scalar := Fin.ofNat _ (n % signBit)
  let x ← squareRootOfQuotient? (y * y - 1) (d * y * y + 1)
  some ⟨if n / signBit = 0 then x else -x, y, 1⟩

def base : Point :=
  ⟨Fin.ofNat _ 0x216936d3cd6e53fec0a4e231fdd6dc5c692cc7609525a7b2c9562d608f25d51a,
    Fin.ofNat _ 0x6666666666666666666666666666666666666666666666666666666666666658, 1⟩

end Point

end RelyingParty.Curve.Edwards
