import RelyingParty.Attestation.AppleRoot
import RelyingParty.Attestation.Statement
import RelyingParty.Certificate.Chain
import RelyingParty.Hash.Sha2
import RelyingParty.Key.PublicKey

namespace RelyingParty.Attestation.AppleAppAttest

def nonceExtension : List Nat := [1, 2, 840, 113635, 100, 8, 2]

def certificate (item : Cbor.Item) : Except VerificationError Certificate :=
  match item.bytes? with
  | none => .error (.malformedCertificate .entryNotBytes)
  | some bs =>
    match Certificate.ofBytes? bs with
    | none => .error (.malformedCertificate .notCertificate)
    | some c => .ok c

def checkChain (time : Timestamp) (certificates : List Certificate) : Except ChainFault Unit := do
  match root? with
  | none => .error .noRoot
  | some root =>
    let time ← Certificate.checkTime time
    Certificate.checkChain time root 0 certificates

def checkNonce (nonce : Bytes) (c : Certificate) : Except VerificationError Unit :=
  match c.extension? nonceExtension with
  | none => .error .nonceMismatch
  | some extension =>
    match Der.unwrapOctets? extension.value with
    | none => .error (.malformedCertificate .nonceNotOctets)
    | some embedded => if embedded = nonce then .ok () else .error .nonceMismatch

/-- Checks that the key in a certificate is a point after whose digest the credential is named. -/
def checkKey (credentialId : Bytes) (c : Certificate) : Except VerificationError Bytes := do
  let point := c.subjectKey.bytes
  let _key ← (PublicKey.ofRawPoint point).mapError (.certificateInvalid ∘ .key)
  if (sha256 point).bytes = credentialId then .ok point else .error .keyIdMismatch

def check (settings : RegistrationSettings) (s : Statement) : Except VerificationError Contribution := do
  if s.signCounter ≠ 0 then .error .counterMustBeZero
  else if s.attested.aaguid ≠ settings.environment.aaguid then .error .aaguidMismatch
  else
    let items ← s.entries.member Cbor.Item.array? "x5c"
    let receipt ← s.entries.member Cbor.Item.bytes? "receipt"
    let certificates ← items.mapM certificate
    match certificates with
    | [] => .error (.malformedCertificate .emptyList)
    | leaf :: _ =>
      (checkChain settings.time certificates).mapError .chainInvalid
      checkNonce (sha256 s.signedData).bytes leaf
      let point ← checkKey s.attested.credentialId leaf
      .ok { publicKey := some point, receipt := some receipt }

end RelyingParty.Attestation.AppleAppAttest
