import RelyingParty.Assertion
import RelyingParty.Registration
import RelyingParty.ServiceError

namespace RelyingParty.Store

def register (s : Store) (now : UInt64) (challengeId : Bytes) (request : RegistrationRequest)
    (party : Party) (settings : RegistrationSettings) : Except ServiceError (Store × Credential) := do
  let ceremony ← (s.liveCeremony now challengeId).mapError .store
  let credential ← (request.verify ceremony.challengeId party settings now).mapError .verification
  let s ← (s.writeCredential now ceremony credential).mapError .store
  .ok (s, credential)

/-- Logs in with a stored credential and the ceremony of a challenge. The store changes also where a
counter went down. -/
def login (s : Store) (now : UInt64) (challengeId : Bytes) (request : AssertionRequest) (party : Party)
    (policy : Policy) : Store × Except ServiceError VerifiedAssertion :=
  match s.ceremonyAndCredential now challengeId request.credentialId with
  | .error e => (s, .error (.store e))
  | .ok (ceremony, credential) =>
    match request.verify ceremony.challengeId credential party policy with
    | .error e => (s, .error (.verification e))
    | .ok verified =>
      match s.moveCounter now request.credentialId verified.signCounter challengeId with
      | (s, .error e) => (s, .error (.store e))
      | (s, .ok ()) => (s, .ok verified)

end RelyingParty.Store
