import RelyingParty.Curve.Weierstrass
import RelyingParty.Der.Writer

namespace RelyingParty.Ecdsa

open Curve (Weierstrass)

structure Signature where
  r : Nat
  s : Nat

namespace Signature

def encode (sig : Signature) : Bytes :=
  (Der.Element.ofList [.ofNat sig.r, .ofNat sig.s]).encode

def numbers? (bs : Bytes) : Option Signature := do
  let (sequence, _) ← Der.Element.read? bs
  let (r, rest) ← Der.Element.read? sequence.content
  let (s, _) ← Der.Element.read? rest
  some ⟨r.content.toNat, s.content.toNat⟩

/-- The signature that a byte string writes; every signature has one form. -/
def decode? (bs : Bytes) : Option Signature :=
  (numbers? bs).filter fun sig => sig.encode == bs

end Signature

def digestNumber (c : Weierstrass) (digest : Bytes) : Nat :=
  Bytes.toNat (digest.take c.width)

/-- Whether a signature is one of `digest` under the key `key`. Both numbers must be between one
and the order of the curve. -/
def accepts (c : Weierstrass) (key : c.Point) (digest : Bytes) (sig : Signature) : Bool :=
  if 0 < sig.r ∧ sig.r < c.order ∧ 0 < sig.s ∧ sig.s < c.order then
    let inverse := Modular.inverse c.order sig.s
    let u := digestNumber c digest * inverse % c.order
    let v := sig.r * inverse % c.order
    let point := Curve.combination Weierstrass.Point.add .infinity c.base key u v
    point.affineX?.any fun x => x % c.order == sig.r
  else false

def verify (c : Weierstrass) (key : c.Point) (digest signature : Bytes) : Bool :=
  (Signature.decode? signature).any (accepts c key digest)

end RelyingParty.Ecdsa
