import RelyingParty.Authenticator.Expectation
import RelyingParty.Cbor.Member
import RelyingParty.ClientData
import RelyingParty.Credential
import RelyingParty.Key.Cose
import RelyingParty.Key.Verify

namespace RelyingParty

inductive AssertionPayload where
  | split (authData signature : Bytes)
  | combined (bs : Bytes)

namespace AssertionPayload

def parts : AssertionPayload → Except VerificationError (Bytes × Bytes)
  | split authData signature => .ok (authData, signature)
  | combined bs => do
    let entries ← (Cbor.decodeMap bs).mapError .malformedCbor
    let authData ← entries.member Cbor.Item.bytes? "authenticatorData"
    let signature ← entries.member Cbor.Item.bytes? "signature"
    .ok (authData, signature)

end AssertionPayload

structure AssertionRequest where
  clientData : Bytes
  payload : AssertionPayload
  signedClientData : Option Bytes
  credentialId : Bytes
  useSavedAttestedData : Bool
  appIdExtension : Bool

structure VerifiedAssertion where
  signCounter : UInt32
  userPresent : Bool
  userVerified : Bool
  deriving DecidableEq

def VerifiedAssertion.toJson (v : VerifiedAssertion) : Json.Value :=
  .object [("sign_count", .number v.signCounter.toNat), ("user_present", .bool v.userPresent),
    ("user_verified", .bool v.userVerified)]

namespace AssertionRequest

def appId? (request : AssertionRequest) (credential : Credential) (party : Party) : Option String :=
  if credential.attestationType = .fidoU2f ∧ request.appIdExtension then some party.legacyAppId
  else none

def expectation (request : AssertionRequest) (credential : Credential) (party : Party)
    (policy : Policy) : Expectation where
  rpId := party.id
  appId := request.appId? credential party
  requireUserPresence := policy.requireUserPresence
  requireUserVerification := policy.requireUserVerification
  lastSignCounter := credential.signCounter
  counterPolicy := policy.counter

def injected (request : AssertionRequest) (credential : Credential) : Option AttestedCredential :=
  if request.useSavedAttestedData then some credential.attested else none

inductive KeyForm where
  | cose
  | rawPoint
  deriving DecidableEq

/-- How the key of a credential is written: those of apps, and former ones that the client used under
the former identifier, are points. -/
def keyForm (request : AssertionRequest) (credential : Credential) : KeyForm :=
  match credential.attestationType with
  | .appleAppAttest => .rawPoint
  | .fidoU2f => if request.appIdExtension then .rawPoint else .cose
  | .none => .cose
  | .packed => .cose

def KeyForm.read : KeyForm → Bytes → Except KeyError PublicKey
  | cose, bs => PublicKey.ofCose bs
  | rawPoint, bs => PublicKey.ofRawPoint bs

def signedMessage (credential : Credential) (base : Bytes) : Bytes :=
  if credential.attestationType = .appleAppAttest then (sha256 base).bytes else base

def isSignedUsing (check : PublicKey.Check) (request : AssertionRequest) (credential : Credential)
    (base signature : Bytes) : Except KeyError Bool := do
  let key ← (request.keyForm credential).read credential.publicKey
  check key (signedMessage credential base) signature

def isSigned (request : AssertionRequest) (credential : Credential) (base signature : Bytes) :
    Except KeyError Bool :=
  request.isSignedUsing PublicKey.verify credential base signature

/-- What an assertion tells, if it passes every check; `challenge` is the one that was handed to the
client, and `credential` the one that is stored. -/
def verifyUsing (check : PublicKey.Check) (request : AssertionRequest) (challenge : Bytes)
    (credential : Credential) (party : Party) (policy : Policy) :
    Except VerificationError VerifiedAssertion := do
  if request.credentialId ≠ credential.rawId then .error .credentialIdMismatch
  else
    let (rawAuthData, signature) ← request.payload.parts
    let clientData ← ClientData.ofJson request.clientData
    clientData.check challenge .get party.origin
    let parsed ← AuthenticatorData.parse rawAuthData request.useSavedAttestedData
    let authData ←
      parsed.check (request.expectation credential party policy) (request.injected credential)
    let hash := clientDataHash request.clientData request.signedClientData
    let isSigned ←
      (request.isSignedUsing check credential (signedBytes rawAuthData hash) signature).mapError .key
    if isSigned then
      .ok ⟨authData.signCounter, authData.flags.userPresent, authData.flags.userVerified⟩
    else .error .signatureInvalid

def verify (request : AssertionRequest) (challenge : Bytes) (credential : Credential) (party : Party)
    (policy : Policy) : Except VerificationError VerifiedAssertion :=
  request.verifyUsing PublicKey.verify challenge credential party policy

end AssertionRequest

end RelyingParty
