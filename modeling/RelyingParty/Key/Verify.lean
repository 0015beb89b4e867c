import RelyingParty.Key.PublicKey
import RelyingParty.Signature.Ecdsa
import RelyingParty.Signature.Ed25519
import RelyingParty.Signature.Rsa

namespace RelyingParty

inductive Verifier where
  | ec2 (curve : EcCurve) (point : curve.equation.Point)
  | rsa (key : Rsa.Key)
  | okp (key : Ed25519.Key)

namespace Verifier

def hash : EcCurve → HashFunction
  | .p256 => .sha256
  | .p384 => .sha384
  | .p521 => .sha512

def accepts (message signature : Bytes) : Verifier → Bool
  | ec2 curve point => Ecdsa.verify curve.equation point ((hash curve).digest message) signature
  | rsa key => Rsa.verify key .sha256 message signature
  | okp key => Ed25519.verify key message signature

end Verifier

namespace PublicKey

def point? (curve : EcCurve) (x y : Bytes) : Option curve.equation.Point := do
  let (x, y) ← coordinates? curve.width (uncompressed x y)
  curve.equation.point? x.toNat y.toNat

def verifier : PublicKey → Except KeyError Verifier
  | ec2 _ curve x y =>
    match point? curve x y with
    | some point => .ok (.ec2 curve point)
    | none => .error (.invalid (.notOnCurve curve))
  | rsa _ modulus exponent =>
    match Rsa.Key.ofNumbers modulus.toNat exponent.toNat with
    | .ok key => .ok (.rsa key)
    | .error fault => .error (.invalid (.rsa fault))
  | okp _ x =>
    if x.length ≠ 32 then .error (.invalid .edwardsWidth)
    else
      match Ed25519.Key.ofBytes? x with
      | some key => .ok (.okp key)
      | none => .error (.invalid .notEdwardsPoint)

abbrev Check := PublicKey → (message signature : Bytes) → Except KeyError Bool

def verify (key : PublicKey) (message signature : Bytes) : Except KeyError Bool := do
  let verifier ← key.verifier
  .ok (verifier.accepts message signature)

end PublicKey

end RelyingParty
