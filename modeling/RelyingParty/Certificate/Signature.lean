import RelyingParty.Certificate.Basic
import RelyingParty.Curve.Nist
import RelyingParty.Signature.Ecdsa
import RelyingParty.Signature.Ed25519
import RelyingParty.Signature.Rsa

namespace RelyingParty.Certificate

open Asn1 (Reader)
open Curve (Weierstrass)

inductive SignatureScheme where
  | rsa (hash : HashFunction) (minBits : Nat)
  | rsaSalted (hash : HashFunction)
  | ecdsa (curve : Weierstrass) (hash : HashFunction)
  | ed25519

def issuerCurve? (id : Der.ObjectId) : Option Weierstrass :=
  if id = ⟨[0x2a, 0x86, 0x48, 0xce, 0x3d, 0x03, 0x01, 0x07]⟩ then some .p256
  else if id = ⟨[0x2b, 0x81, 0x04, 0x00, 0x22]⟩ then some .p384
  else none

def saltedHash? (id : Der.ObjectId) : Option HashFunction :=
  match id.content with
  | [0x60, 0x86, 0x48, 0x01, 0x65, 0x03, 0x04, 0x02, 0x01] => some .sha256
  | [0x60, 0x86, 0x48, 0x01, 0x65, 0x03, 0x04, 0x02, 0x02] => some .sha384
  | [0x60, 0x86, 0x48, 0x01, 0x65, 0x03, 0x04, 0x02, 0x03] => some .sha512
  | _ => none

def saltedParameters? (algorithm : AlgorithmId) : Option HashFunction := do
  let parameters ← algorithm.parameters
  let (tagged, _) ← Reader.element parameters.content
  if parameters.number = Asn1.sequenceNumber ∧ tagged.number = 0 then do
    let (hash, _) ← AlgorithmId.read tagged.content
    saltedHash? hash.id
  else none

def scheme? (algorithm : AlgorithmId) (issuerKey : SubjectKey) : Option SignatureScheme :=
  let curve? := issuerKey.algorithm.curve?.bind issuerCurve?
  match algorithm.id.content with
  | [0x2a, 0x86, 0x48, 0x86, 0xf7, 0x0d, 0x01, 0x01, 0x05] => some (.rsa .sha1 1024)
  | [0x2a, 0x86, 0x48, 0x86, 0xf7, 0x0d, 0x01, 0x01, 0x0b] => some (.rsa .sha256 2048)
  | [0x2a, 0x86, 0x48, 0x86, 0xf7, 0x0d, 0x01, 0x01, 0x0c] => some (.rsa .sha384 2048)
  | [0x2a, 0x86, 0x48, 0x86, 0xf7, 0x0d, 0x01, 0x01, 0x0d] => some (.rsa .sha512 2048)
  | [0x2a, 0x86, 0x48, 0x86, 0xf7, 0x0d, 0x01, 0x01, 0x0a] =>
    (saltedParameters? algorithm).map .rsaSalted
  | [0x2a, 0x86, 0x48, 0xce, 0x3d, 0x04, 0x03, 0x02] => curve?.map (.ecdsa · .sha256)
  | [0x2a, 0x86, 0x48, 0xce, 0x3d, 0x04, 0x03, 0x03] => curve?.map (.ecdsa · .sha384)
  | [0x2b, 0x65, 0x70] => some .ed25519
  | _ => none

/-- The RSA key of an issuer: an odd modulus of `minBits` to 8192 bits and an odd exponent from 3 to
`2^33`, in their one written form. -/
def issuerRsaKey? (minBits : Nat) (bs : Bytes) : Option Rsa.Key := do
  let ((modulus, exponent), _) ← rsaNumbers bs
  let n := modulus.toNat
  let e := exponent.toNat
  let isFit := (Der.Element.ofList [.ofNat n, .ofNat e]).encode == bs
    && minBits ≤ (Rsa.bitLength n + 7) / 8 * 8 && Rsa.bitLength n ≤ 8192
    && n % 2 = 1 && e % 2 = 1 && 3 ≤ e && e < 1 <<< 33
  if isFit then some ⟨n, e⟩ else none

def issuerPoint? (curve : Weierstrass) : Bytes → Option curve.Point
  | 0x04 :: bs =>
    if bs.length = 2 * curve.width then
      curve.point? (Bytes.toNat (bs.take curve.width)) (Bytes.toNat (bs.drop curve.width))
    else none
  | _ => none

def SignatureScheme.accepts (key message signature : Bytes) : SignatureScheme → Bool
  | rsa hash minBits => (issuerRsaKey? minBits key).any fun key => Rsa.verify key hash message signature
  | rsaSalted hash => (issuerRsaKey? 2048 key).any fun key => Rsa.verifySalted key hash message signature
  | ecdsa curve hash =>
    (issuerPoint? curve key).any fun point => Ecdsa.verify curve point (hash.digest message) signature
  | ed25519 =>
    key.length = 32 && (Ed25519.Key.ofBytes? key).any fun key => Ed25519.verify key message signature

end RelyingParty.Certificate
