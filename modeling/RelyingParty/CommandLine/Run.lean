import RelyingParty.Assertion
import RelyingParty.CommandLine.Base64File
import RelyingParty.CommandLine.Invocation
import RelyingParty.Registration

namespace RelyingParty.CommandLine

abbrev Files := String → Except String Bytes

inductive Failure where
  | unreadable (reason : String)
  | notUtf8
  | fileNotBase64 (path : String)
  | challengeNotBase64
  | credential (cause : Json.ReadError)
  | incompleteAssertion
  | timeOutOfRange
  | verification (cause : VerificationError)
  deriving DecidableEq

namespace Failure

def message : Failure → String
  | unreadable reason => reason
  | notUtf8 => "stream did not contain valid UTF-8"
  | fileNotBase64 path => path ++ ": invalid base64"
  | challengeNotBase64 => "invalid --challenge"
  | credential cause => "json: " ++ cause.message
  | incompleteAssertion => "either --assertion or --authenticator-data with --signature is required"
  | timeOutOfRange => "time out of range"
  | verification cause => cause.message

/-- A time that cannot be told stops the program; every other failure is an answer. -/
def exitCode : Failure → Nat
  | timeOutOfRange => 101
  | _ => 1

end Failure

namespace Files

variable (files : Files)

def read (path : String) : Except Failure Bytes := (files path).mapError .unreadable

def readOptional : Option String → Except Failure (Option Bytes)
  | none => .ok none
  | some path => some <$> files.read path

def readBase64 (path : String) : Except Failure Bytes := do
  let content ← files.read path
  match Bytes.toText? content with
  | none => .error .notUtf8
  | some text =>
    match base64Text? text with
    | none => .error (.fileNotBase64 path)
    | some bs => .ok bs

end Files

def readChallenge (text : String) : Except Failure Bytes :=
  match Base64.decodeUrl? text with
  | none => .error .challengeNotBase64
  | some bs => .ok bs

def AttestationCommand.run (command : AttestationCommand) (invocation : Invocation) (now : UInt64)
    (files : Files) : Except Failure Credential := do
  let clientData ← files.read command.clientData
  let attestationObject ← files.readBase64 command.attestationObject
  let signedClientData ← files.readOptional command.signedClientData
  let challenge ← readChallenge command.challenge
  let request : RegistrationRequest := {
    clientData, attestationObject, signedClientData
    credentialId := none
    sessionId := command.sessionId }
  match invocation.settings? now with
  | none => .error .timeOutOfRange
  | some settings => (request.verify challenge invocation.party settings now).mapError .verification

def AssertionCommand.payload (command : AssertionCommand) (files : Files) :
    Except Failure AssertionPayload :=
  match command.assertion, command.authenticatorData, command.signature with
  | some path, _, _ => .combined <$> files.readBase64 path
  | none, some authenticatorData, some signature => do
    let authenticatorData ← files.readBase64 authenticatorData
    let signature ← files.readBase64 signature
    .ok (.split authenticatorData signature)
  | none, _, _ => .error .incompleteAssertion

def AssertionCommand.run (command : AssertionCommand) (invocation : Invocation) (files : Files) :
    Except Failure VerifiedAssertion := do
  let clientData ← files.read command.clientData
  let credential ← (Credential.ofJson (← files.read command.credential)).mapError .credential
  let signedClientData ← files.readOptional command.signedClientData
  let challenge ← readChallenge command.challenge
  let payload ← command.payload files
  let request : AssertionRequest := {
    clientData, payload, signedClientData
    credentialId := credential.rawId
    useSavedAttestedData := command.useSavedAttestedData
    appIdExtension := command.appIdExtension }
  (request.verify challenge credential invocation.party invocation.policy).mapError .verification

def Command.paths : Command → List String
  | attestation c => [c.clientData, c.attestationObject] ++ c.signedClientData.toList
  | assertion c =>
    [c.clientData, c.credential] ++ c.signedClientData.toList ++ c.assertion.toList
      ++ c.authenticatorData.toList ++ c.signature.toList

def Invocation.run (invocation : Invocation) (now : UInt64) (files : Files) : Except Failure String := do
  let answer ←
    match invocation.command with
    | .attestation command => Credential.toJson <$> command.run invocation now files
    | .assertion command => VerifiedAssertion.toJson <$> command.run invocation files
  .ok answer.pretty

end RelyingParty.CommandLine
