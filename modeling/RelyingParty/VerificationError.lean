import RelyingParty.Certificate.Calendar
import RelyingParty.Json.Reader
import RelyingParty.Key.Error

namespace RelyingParty

inductive ClientDataFault where
  | json (cause : Json.ReadError)
  | challenge
  deriving DecidableEq

def ClientDataFault.message : ClientDataFault → String
  | json cause => cause.message
  | challenge => "challenge is not base64url"

inductive CertificateFault where
  | notCertificate
  | listNotArray
  | noLeaf
  | entryNotBytes
  | emptyList
  | aaguidNotOctets
  | nonceNotOctets
  deriving DecidableEq

def CertificateFault.message : CertificateFault → String
  | notCertificate => "x509"
  | listNotArray => "x5c is not an array"
  | noLeaf => "x5c has no leaf certificate"
  | entryNotBytes => "x5c entry is not bytes"
  | emptyList => "x5c is empty"
  | aaguidNotOctets => "AAGUID extension is not an OCTET STRING"
  | nonceNotOctets => "nonce extension is not an OCTET STRING"

inductive UnfitCertificate where
  | key (cause : KeyError)
  | notVersion3
  | noCountry
  | noOrganization
  | isAuthority
  deriving DecidableEq

def UnfitCertificate.message : UnfitCertificate → String
  | key cause => cause.message
  | notVersion3 => "not a version 3 certificate"
  | noCountry => "subject has no country"
  | noOrganization => "subject has no organization"
  | isAuthority => "attestation certificate is a CA"

/-- Why a chain of certificates is refused; certificates are counted from the leaf. -/
inductive ChainFault where
  | noRoot
  | beforeEpoch
  | dateOutOfRange
  | notValidAt (index : Nat) (time : Timestamp)
  | notIssuedBy (index : Nat) (issuer : String)
  | signature (index : Nat)
  | signatureAlgorithm (index : Nat)
  | notAuthority (index : Nat)
  deriving DecidableEq

def ChainFault.message : ChainFault → String
  | noRoot => "pinned root: x509"
  | beforeEpoch => "second time provided was later than self"
  | dateOutOfRange => "invalid date"
  | notValidAt index time =>
    "certificate " ++ toString index ++ " is not valid at " ++ Calendar.toText time
  | notIssuedBy index issuer => "certificate " ++ toString index ++ " is not issued by " ++ issuer
  | signature index => "certificate " ++ toString index ++ ": signature verification error"
  | signatureAlgorithm index => "certificate " ++ toString index ++ ": signature unsupported algorithm"
  | notAuthority index => "certificate " ++ toString index ++ " is not a CA"

inductive VerificationError where
  -- malformed input
  | malformedCbor (cause : Cbor.DecodeError)
  | malformedClientData (fault : ClientDataFault)
  | missingField (name : String)
  | tooShort
  | credentialIdTooLong (length : Nat)
  | unexpectedTrailingBytes
  | extensionDataMissing
  | malformedCertificate (fault : CertificateFault)
  | key (cause : KeyError)
  -- client data of another ceremony
  | ceremonyTypeMismatch (expected found : String)
  | challengeMismatch
  | originMismatch (expected found : String)
  | tokenBindingInvalid
  -- authenticator data
  | attestedDataMissing
  | rpIdMismatch
  | userPresenceRequired
  | userVerificationRequired
  | counterRegression (stored received : UInt32)
  -- attestation
  | unexpectedStatement
  | credentialIdMismatch
  | algorithmMismatch (stated own : Int)
  | attestationSignatureInvalid
  | certificateInvalid (cause : UnfitCertificate)
  | aaguidMismatch
  | counterMustBeZero
  | chainInvalid (fault : ChainFault)
  | nonceMismatch
  | keyIdMismatch
  -- assertion
  | signatureInvalid
  -- not supported
  | notImplemented (feature : String)
  | unsupportedFormat (name : String)
  deriving DecidableEq

inductive ErrorKind where
  | malformedInput
  | clientDataMismatch
  | authenticatorDataInvalid
  | attestationInvalid
  | assertionSignatureInvalid
  | unsupportedFeature
  deriving DecidableEq

def ErrorKind.status : ErrorKind → Nat
  | malformedInput => 400
  | clientDataMismatch => 400
  | unsupportedFeature => 400
  | authenticatorDataInvalid => 401
  | attestationInvalid => 401
  | assertionSignatureInvalid => 401

namespace VerificationError

def message : VerificationError → String
  | malformedCbor cause => "cbor: " ++ cause.message
  | malformedClientData fault => "client data: " ++ fault.message
  | missingField name => "missing field: " ++ name
  | tooShort => "authenticator data too short"
  | credentialIdTooLong length => "credential id too long: " ++ toString length ++ " bytes"
  | unexpectedTrailingBytes => "unexpected trailing bytes"
  | extensionDataMissing => "extension data missing"
  | malformedCertificate fault => "certificate: " ++ fault.message
  | key cause => "key: " ++ cause.message
  | ceremonyTypeMismatch expected found =>
    "ceremony type mismatch: expected " ++ expected ++ ", got " ++ found
  | challengeMismatch => "challenge mismatch"
  | originMismatch expected found => "origin mismatch: expected " ++ expected ++ ", got " ++ found
  | tokenBindingInvalid => "invalid token binding"
  | attestedDataMissing => "attested credential data missing"
  | rpIdMismatch => "RP ID hash mismatch"
  | userPresenceRequired => "user presence required"
  | userVerificationRequired => "user verification required"
  | counterRegression stored received =>
    "signature counter went from " ++ toString stored.toNat ++ " to " ++ toString received.toNat
  | unexpectedStatement => "attestation statement must be empty"
  | credentialIdMismatch => "credential id mismatch"
  | algorithmMismatch stated own =>
    "statement alg " ++ toString stated ++ " does not match key alg " ++ toString own
  | attestationSignatureInvalid => "attestation signature invalid"
  | certificateInvalid cause => "attestation certificate: " ++ cause.message
  | aaguidMismatch => "AAGUID mismatch"
  | counterMustBeZero => "signature counter must be zero"
  | chainInvalid fault => "certificate chain: " ++ fault.message
  | nonceMismatch => "nonce mismatch"
  | keyIdMismatch => "key id mismatch"
  | signatureInvalid => "assertion signature invalid"
  | notImplemented feature => "not implemented: " ++ feature
  | unsupportedFormat name => "unsupported attestation format: " ++ name

def kind : VerificationError → ErrorKind
  | malformedCbor _ => .malformedInput
  | malformedClientData _ => .malformedInput
  | missingField _ => .malformedInput
  | tooShort => .malformedInput
  | credentialIdTooLong _ => .malformedInput
  | unexpectedTrailingBytes => .malformedInput
  | extensionDataMissing => .malformedInput
  | malformedCertificate _ => .malformedInput
  | key (.unsupportedAlgorithm _) => .unsupportedFeature
  | key (.unsupportedKeyType _) => .unsupportedFeature
  | key (.unsupportedCurve _) => .unsupportedFeature
  | key _ => .malformedInput
  | ceremonyTypeMismatch _ _ => .clientDataMismatch
  | challengeMismatch => .clientDataMismatch
  | originMismatch _ _ => .clientDataMismatch
  | tokenBindingInvalid => .clientDataMismatch
  | attestedDataMissing => .authenticatorDataInvalid
  | rpIdMismatch => .authenticatorDataInvalid
  | userPresenceRequired => .authenticatorDataInvalid
  | userVerificationRequired => .authenticatorDataInvalid
  | counterRegression _ _ => .authenticatorDataInvalid
  | unexpectedStatement => .attestationInvalid
  | credentialIdMismatch => .attestationInvalid
  | algorithmMismatch _ _ => .attestationInvalid
  | attestationSignatureInvalid => .attestationInvalid
  | certificateInvalid _ => .attestationInvalid
  | aaguidMismatch => .attestationInvalid
  | counterMustBeZero => .attestationInvalid
  | chainInvalid _ => .attestationInvalid
  | nonceMismatch => .attestationInvalid
  | keyIdMismatch => .attestationInvalid
  | signatureInvalid => .assertionSignatureInvalid
  | notImplemented _ => .unsupportedFeature
  | unsupportedFormat _ => .unsupportedFeature

end VerificationError

end RelyingParty
