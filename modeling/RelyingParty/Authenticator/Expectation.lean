import RelyingParty.Authenticator.Data
import RelyingParty.Hash.Sha2
import RelyingParty.Policy

namespace RelyingParty

structure Expectation where
  rpId : String
  appId : Option String
  requireUserPresence : Bool
  requireUserVerification : Bool
  lastSignCounter : UInt32
  counterPolicy : CounterPolicy

def idHash (id : String) : FixedBytes 32 := sha256 (Bytes.ofText id)

namespace Expectation

def acceptsHash (expectation : Expectation) (hash : FixedBytes 32) : Bool :=
  hash = idHash expectation.rpId || expectation.appId.any fun id => hash = idHash id

end Expectation

namespace AuthenticatorData

/-- Checks the identifier, the flags and the counter. Where the data holds no attested credential,
`injected` takes its place; without it the flag that announces one must not be set. -/
def check (data : AuthenticatorData) (expectation : Expectation)
    (injected : Option AttestedCredential) : Except VerificationError AuthenticatorData :=
  if !expectation.acceptsHash data.rpIdHash then .error .rpIdMismatch
  else if expectation.requireUserPresence && !data.flags.userPresent then
    .error .userPresenceRequired
  else if expectation.requireUserVerification && !data.flags.userVerified then
    .error .userVerificationRequired
  else if !expectation.counterPolicy.accepts expectation.lastSignCounter data.signCounter then
    .error (.counterRegression expectation.lastSignCounter data.signCounter)
  else
    match data.attested, injected with
    | some _, _ => .ok data
    | none, some attested => .ok { data with attested := some attested }
    | none, none => if data.flags.attestedData then .error .attestedDataMissing else .ok data

/-- The check of data that is held in place: every refusal leaves it as it is, and an injected credential
is put into it. -/
def checkInPlace (expectation : Expectation) (injected : Option AttestedCredential) :
    ExceptT VerificationError (StateM AuthenticatorData) Unit := do
  let data ← get
  if !expectation.acceptsHash data.rpIdHash then
    throw .rpIdMismatch
  if expectation.requireUserPresence && !data.flags.userPresent then
    throw .userPresenceRequired
  if expectation.requireUserVerification && !data.flags.userVerified then
    throw .userVerificationRequired
  if !expectation.counterPolicy.accepts expectation.lastSignCounter data.signCounter then
    throw (.counterRegression expectation.lastSignCounter data.signCounter)
  if data.attested.isNone then
    match injected with
    | some attested => set { data with attested := some attested }
    | none => if data.flags.attestedData then throw .attestedDataMissing

end AuthenticatorData

end RelyingParty
