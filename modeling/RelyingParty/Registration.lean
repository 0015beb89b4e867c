import RelyingParty.Attestation.AppleAppAttest
import RelyingParty.Attestation.Object
import RelyingParty.Attestation.Packed
import RelyingParty.Authenticator.Expectation
import RelyingParty.ClientData
import RelyingParty.Credential

namespace RelyingParty

structure RegistrationRequest where
  clientData : Bytes
  attestationObject : Bytes
  signedClientData : Option Bytes
  credentialId : Option Bytes
  sessionId : String

namespace Attestation

def checkStatement (settings : RegistrationSettings) (format : AttestationFormat) (s : Statement) :
    Except VerificationError Contribution :=
  match format with
  | .none => checkNone s
  | .packed => Packed.check s
  | .appleAppAttest => AppleAppAttest.check settings s

end Attestation

namespace RegistrationRequest

def expectation (party : Party) (policy : Policy) : Expectation where
  rpId := party.id
  appId := none
  requireUserPresence := policy.requireUserPresence
  requireUserVerification := policy.requireUserVerification
  lastSignCounter := 0
  counterPolicy := policy.counter

/-- The credential of a registration, if it passes every check; `challenge` is the one that was handed
to the client. -/
def verify (request : RegistrationRequest) (challenge : Bytes) (party : Party)
    (settings : RegistrationSettings) (now : UInt64) : Except VerificationError Credential := do
  let clientData ← ClientData.ofJson request.clientData
  clientData.check challenge .create party.origin
  let object ← Attestation.Object.ofCbor request.attestationObject
  let authData ← object.authData.check (expectation party settings.policy) none
  match authData.attested with
  | none => .error .attestedDataMissing
  | some attested =>
    if request.credentialId.any (· ≠ attested.credentialId) then .error .credentialIdMismatch
    else
      let contribution ← Attestation.checkStatement settings object.format {
        rawAuthData := object.rawAuthData
        signCounter := authData.signCounter
        attested := attested
        clientDataHash := clientDataHash request.clientData request.signedClientData
        entries := object.entries }
      .ok { Credential.ofAttested attested authData.signCounter request.sessionId now with
        attestationType := object.format.type
        receipt := contribution.receipt
        publicKey := contribution.publicKey.getD attested.publicKey }

end RegistrationRequest

end RelyingParty
