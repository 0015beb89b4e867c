import RelyingParty.Cbor.Decoder
import RelyingParty.Der.ObjectId
import RelyingParty.Key.Algorithm
import RelyingParty.Signature.Rsa

namespace RelyingParty

inductive KeyFault where
  | coordinateWidth (curve : EcCurve)
  | notOnCurve (curve : EcCurve)
  | edwardsWidth
  | notEdwardsPoint
  | rsa (fault : Rsa.KeyFault)
  | notRawPoint (length : Nat)
  /-- The key of a certificate is of another kind than the algorithm asks for. -/
  | notEc (kind : Der.ObjectId)
  | notRsa (kind : Der.ObjectId)
  | notEd25519
  /-- The key of a certificate is not an uncompressed point of this number of bytes. -/
  | notUncompressed (length : Nat)
  | malformedRsa
  | described (text : String)
  deriving DecidableEq

def KeyFault.message : KeyFault → String
  | coordinateWidth curve => curve.name ++ " coordinates must be " ++ toString curve.width ++ " bytes"
  | notOnCurve curve => curve.name ++ ": signature error"
  | edwardsWidth => "Ed25519 key must be 32 bytes"
  | notEdwardsPoint => "Ed25519: signature error: Cannot decompress Edwards point"
  | rsa fault => "RSA: " ++ fault.message
  | notRawPoint length =>
    "expected 65-byte uncompressed P-256 point, got " ++ toString length ++ " bytes"
  | notEc kind => kind.toText ++ " is not an EC key"
  | notRsa kind => kind.toText ++ " is not an RSA key"
  | notEd25519 => "certificate key is not Ed25519"
  | notUncompressed length =>
    "certificate key is not an uncompressed point of " ++ toString length ++ " bytes"
  | malformedRsa => "malformed RSA public key"
  | described text => text

inductive KeyFamily where
  | ec (curve : EcCurve)
  | rsa
  | ed25519
  deriving DecidableEq

def KeyFamily.name : KeyFamily → String
  | ec curve => curve.name
  | rsa => "RSA"
  | ed25519 => "Ed25519"

inductive KeyError where
  | unsupportedAlgorithm (id : Int)
  | unsupportedKeyType (id : Int)
  | unsupportedCurve (id : Int)
  | mismatchedAlgorithm (algorithm : Algorithm) (family : KeyFamily)
  | missingParameter (label : Int)
  | invalid (fault : KeyFault)
  | undecodable (cause : Cbor.DecodeError)
  | notMap
  deriving DecidableEq

def KeyError.message : KeyError → String
  | unsupportedAlgorithm id => "unsupported algorithm: " ++ toString id
  | unsupportedKeyType id => "unsupported key type: " ++ toString id
  | unsupportedCurve id => "unsupported curve: " ++ toString id
  | mismatchedAlgorithm algorithm family =>
    "algorithm " ++ algorithm.name ++ " cannot be used with " ++ family.name
  | missingParameter label => "missing COSE key parameter " ++ toString label
  | invalid fault => "invalid key: " ++ fault.message
  | undecodable cause => "cbor: " ++ cause.message
  | notMap => "cbor: COSE_Key must be a map"

end RelyingParty
