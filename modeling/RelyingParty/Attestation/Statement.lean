import RelyingParty.Authenticator.Data
import RelyingParty.Cbor.Member
import RelyingParty.ClientData
import RelyingParty.Policy

namespace RelyingParty

structure RegistrationSettings where
  environment : AppEnvironment
  time : Timestamp
  policy : Policy

namespace Attestation

structure Statement where
  rawAuthData : Bytes
  signCounter : UInt32
  attested : AttestedCredential
  clientDataHash : FixedBytes 32
  entries : Cbor.Entries

def Statement.signedData (s : Statement) : Bytes := signedBytes s.rawAuthData s.clientDataHash

/-- What a statement contributes to the credential: a key in place of the stated one, and a
receipt. -/
structure Contribution where
  publicKey : Option Bytes := none
  receipt : Option Bytes := none
  deriving DecidableEq

def checkNone (s : Statement) : Except VerificationError Contribution :=
  if s.entries.isEmpty then .ok {} else .error .unexpectedStatement

end Attestation

end RelyingParty
