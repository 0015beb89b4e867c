import RelyingParty.Attestation.Statement
import RelyingParty.CommandLine.Options

namespace RelyingParty.CommandLine

structure AttestationCommand where
  clientData : String
  attestationObject : String
  challenge : String
  sessionId : String
  signedClientData : Option String
  deriving DecidableEq

structure AssertionCommand where
  clientData : String
  authenticatorData : Option String
  signature : Option String
  assertion : Option String
  credential : String
  challenge : String
  signedClientData : Option String
  useSavedAttestedData : Bool
  appIdExtension : Bool
  deriving DecidableEq

inductive Command where
  | attestation (command : AttestationCommand)
  | assertion (command : AssertionCommand)
  deriving DecidableEq

structure Invocation where
  verbosity : Nat
  party : Party
  environment : AppEnvironment
  /-- The time at which certificates have to be valid, in seconds since the beginning of 1970. -/
  time : Option UInt64
  policy : Policy
  command : Command

def sharedOptions : List OptionSpec :=
  [⟨"verbose", some 'v', .counter⟩, ⟨"help", some 'h', .help⟩]

def topLevel : Level where
  options := [
    ⟨"rp-id", none, .value .text⟩,
    ⟨"rp-origin", none, .value .text⟩,
    ⟨"app-id", none, .value .text⟩,
    ⟨"app-attest-production", none, .flag⟩,
    ⟨"at", none, .value .number⟩,
    ⟨"require-user-presence", none, .flag⟩,
    ⟨"require-user-verification", none, .flag⟩,
    ⟨"strict-counter", none, .flag⟩] ++ sharedOptions
  commands := ["attestation", "assertion", "help"]

def attestationLevel : Level where
  options := [
    ⟨"client-data", none, .value .path⟩,
    ⟨"attestation-object", none, .value .path⟩,
    ⟨"challenge", none, .value .text⟩,
    ⟨"session-id", none, .value .text⟩,
    ⟨"signed-client-data", none, .value .path⟩] ++ sharedOptions
  commands := []

def assertionLevel : Level where
  options := [
    ⟨"client-data", none, .value .path⟩,
    ⟨"authenticator-data", none, .value .path⟩,
    ⟨"signature", none, .value .path⟩,
    ⟨"assertion", none, .value .path⟩,
    ⟨"credential", none, .value .path⟩,
    ⟨"challenge", none, .value .text⟩,
    ⟨"signed-client-data", none, .value .path⟩,
    ⟨"use-saved-attested-data", none, .flag⟩,
    ⟨"appid-extension", none, .flag⟩] ++ sharedOptions
  commands := []

def AttestationCommand.ofGiven (given : Given) : Except UsageError AttestationCommand := do
  let clientData ← given.required "client-data"
  let attestationObject ← given.required "attestation-object"
  let challenge ← given.required "challenge"
  .ok {
    clientData, attestationObject, challenge
    sessionId := (given.value? "session-id").getD "cli"
    signedClientData := given.value? "signed-client-data" }

/-- The login that options describe. Authenticator data stands in a file of its own or in the one of
the whole assertion; a signature without either is incomplete. -/
def AssertionCommand.ofGiven (given : Given) : Except UsageError AssertionCommand := do
  let authenticatorData := given.value? "authenticator-data"
  let assertion := given.value? "assertion"
  if authenticatorData.isSome && assertion.isSome then .error .conflict
  else
    let clientData ← given.required "client-data"
    let credential ← given.required "credential"
    let challenge ← given.required "challenge"
    let signature := given.value? "signature"
    if signature.isSome && authenticatorData.isNone && assertion.isNone then .error .missingOption
    else
      .ok {
        clientData, authenticatorData, signature, assertion, credential, challenge
        signedClientData := given.value? "signed-client-data"
        useSavedAttestedData := given.has "use-saved-attested-data"
        appIdExtension := given.has "appid-extension" }

def readLevel (level : Level) (describe : Given → Except UsageError α) (args : List String) :
    Except UsageError (Given × α) := do
  let (progress, _) ← level.scan {} args
  let given ← progress.settle
  let described ← describe given
  .ok (given, described)

def readCommand (name : String) (args : List String) : Except UsageError (Given × Command) :=
  if name = "attestation" then
    readLevel attestationLevel (fun given => .attestation <$> AttestationCommand.ofGiven given) args
  else if name = "assertion" then
    readLevel assertionLevel (fun given => .assertion <$> AssertionCommand.ofGiven given) args
  else
    match args with
    | [] => .error .help
    | [topic] => .error (if topLevel.commands.contains topic then .help else .unknownCommand)
    | _ => .error .unknownCommand

/-- How often the output is asked to be more verbose: what stands after the command counts if
anything does. -/
def verbosity (given commandGiven : Given) : Nat :=
  let count := if commandGiven.has "verbose" then commandGiven.count "verbose" else given.count "verbose"
  min count 255

namespace Invocation

def ofGiven (given commandGiven : Given) (command : Command) : Except UsageError Invocation := do
  let id ← given.required "rp-id"
  let origin ← given.required "rp-origin"
  .ok {
    verbosity := CommandLine.verbosity given commandGiven
    party := { id, origin, appId := given.value? "app-id" }
    environment := if given.has "app-attest-production" then .production else .development
    time := (given.value? "at").bind wholeNumber?
    policy := {
      requireUserPresence := given.has "require-user-presence"
      requireUserVerification := given.has "require-user-verification"
      counter := if given.has "strict-counter" then .strictlyIncreasing else .allowEqual }
    command }

def refusalWithoutCommand (given : Given) : UsageError :=
  if given.isEmpty then .empty else .missingCommand

/-- What the arguments of a command line ask for. The command is read to its end before the options
that stand before it are complete. -/
def ofArguments (args : List String) : Except UsageError Invocation := do
  let (progress, rest) ← topLevel.scan {} args
  match rest with
  | none =>
    let given ← progress.settle
    .error (refusalWithoutCommand given)
  | some (name, args) =>
    let (commandGiven, command) ← readCommand name args
    let given ← progress.settle
    ofGiven given commandGiven command

/-- The time at which certificates have to be valid, where `now` is the current one. Times from 2⁶³
seconds on cannot be told. -/
def timestamp? (invocation : Invocation) (now : UInt64) : Option Timestamp :=
  let seconds := (invocation.time.getD now).toNat
  if seconds < 0x8000000000000000 then some seconds else none

def settings? (invocation : Invocation) (now : UInt64) : Option RegistrationSettings :=
  (invocation.timestamp? now).map fun time => ⟨invocation.environment, time, invocation.policy⟩

end Invocation

end RelyingParty.CommandLine
