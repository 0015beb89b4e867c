import RelyingParty.Number.Modular
import RelyingParty.Curve.Combination

namespace RelyingParty.Curve

/-- A curve of prime order with a base point, and the number of bytes that write a coordinate. -/
structure Weierstrass where
  modulus : Nat
  modulus_pos : 0 < modulus := by decide
  b : Nat
  baseX : Nat
  baseY : Nat
  order : Nat
  width : Nat

namespace Weierstrass

variable (c : Weierstrass)

instance : @NeZero Nat Zero.ofOfNat0 c.modulus := ⟨Nat.ne_of_gt c.modulus_pos⟩

abbrev Scalar := Fin c.modulus

/-- A point by three coordinates, not all zero, that count up to a factor. -/
structure Point where
  (x y z : c.Scalar)

variable {c}

namespace Point

def infinity : c.Point := ⟨0, 1, 0⟩

def ofAffine (x y : c.Scalar) : c.Point := ⟨x, y, 1⟩

def add (p q : c.Point) : c.Point :=
  let b : c.Scalar := Fin.ofNat _ c.b
  let xx := p.x * q.x
  let yy := p.y * q.y
  let zz := p.z * q.z
  let xy := p.x * q.y + q.x * p.y
  let xz := p.x * q.z + q.x * p.z
  let yz := p.y * q.z + q.y * p.z
  let s := 3 * (b * zz - xz)
  let t := 3 * (b * xz - xx - 3 * zz)
  let u := 3 * (xx - zz)
  ⟨xy * (yy - s) - yz * t, u * t + (yy + s) * (yy - s), yz * (yy + s) + xy * u⟩

def affineX? (p : c.Point) : Option Nat :=
  if p.z = 0 then none else some (p.x.val * Modular.inverse c.modulus p.z.val % c.modulus)

end Point

def isOnCurve (x y : c.Scalar) : Bool :=
  y * y == x * x * x - 3 * x + Fin.ofNat _ c.b

def point? (c : Weierstrass) (x y : Nat) : Option c.Point :=
  if hx : x < c.modulus then
    if hy : y < c.modulus then
      let x : c.Scalar := ⟨x, hx⟩
      let y : c.Scalar := ⟨y, hy⟩
      if isOnCurve x y then some (.ofAffine x y) else none
    else none
  else none

def base (c : Weierstrass) : c.Point :=
  .ofAffine (Fin.ofNat _ c.baseX) (Fin.ofNat _ c.baseY)

end Weierstrass

end RelyingParty.Curve
