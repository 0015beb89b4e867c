import RelyingParty.Base64
import RelyingParty.Ceremony.Kind
import RelyingParty.Hash.Sha2
import RelyingParty.Json.Record
import RelyingParty.VerificationError
import RelyingParty.WebOrigin.Origin

namespace RelyingParty

structure TokenBinding where
  status : String
  id : Option String
  deriving DecidableEq

structure ClientData where
  type : String
  challenge : Bytes
  origin : String
  tokenBinding : Option TokenBinding
  crossOrigin : Bool
  deriving DecidableEq

namespace TokenBinding

/-- The members of a token binding met so far. -/
structure Draft where
  status : Option String := none
  id : Option (Option String) := none

def format : Json.RecordFormat Draft TokenBinding where
  fields := [
    ⟨"status", Draft.status, fun draft status => { draft with status := some status },
      Json.readText, false⟩,
    ⟨"id", Draft.id, fun draft id => { draft with id := some id },
      Json.readOptional Json.readText, false⟩]
  empty := {}
  build draft := do
    let status ← Json.required "status" draft.status
    .ok ⟨status, draft.id.join⟩

def isValid (binding : TokenBinding) : Bool :=
  match binding.status with
  | "present" => binding.id.any fun id => !id.isEmpty
  | "supported" => true
  | "not-supported" => true
  | _ => false

end TokenBinding

namespace ClientData

structure Draft where
  type : Option String := none
  challenge : Option String := none
  origin : Option String := none
  tokenBinding : Option (Option TokenBinding) := none
  crossOrigin : Option Bool := none

def format : Json.RecordFormat Draft (String × (Bytes → ClientData)) where
  fields := [
    ⟨"type", Draft.type, fun draft type => { draft with type := some type },
      Json.readText, false⟩,
    ⟨"challenge", Draft.challenge, fun draft challenge => { draft with challenge := some challenge },
      Json.readText, false⟩,
    ⟨"origin", Draft.origin, fun draft origin => { draft with origin := some origin },
      Json.readText, false⟩,
    ⟨"tokenBinding", Draft.tokenBinding,
      fun draft binding => { draft with tokenBinding := some binding },
      Json.readOptional TokenBinding.format.read, false⟩,
    ⟨"crossOrigin", Draft.crossOrigin,
      fun draft crossOrigin => { draft with crossOrigin := some crossOrigin },
      Json.readBool, true⟩]
  empty := {}
  build draft := do
    let type ← Json.required "type" draft.type
    let challenge ← Json.required "challenge" draft.challenge
    let origin ← Json.required "origin" draft.origin
    .ok (challenge, fun challenge =>
      ⟨type, challenge, origin, draft.tokenBinding.join, draft.crossOrigin.getD false⟩)

def ofJson (bs : Bytes) : Except VerificationError ClientData :=
  match Json.readAll format.read bs with
  | .error cause => .error (.malformedClientData (.json cause))
  | .ok (challenge, clientData) =>
    match Base64.decodeUrl? challenge with
    | some challenge => .ok (clientData challenge)
    | none => .error (.malformedClientData .challenge)

/-- Checks that client data states a ceremony of the expected kind, with the challenge that was
handed out, on the expected origin. -/
def check (clientData : ClientData) (challenge : Bytes) (kind : CeremonyKind) (origin : String) :
    Except VerificationError Unit :=
  if clientData.type ≠ kind.clientDataType then
    .error (.ceremonyTypeMismatch kind.clientDataType clientData.type)
  else if clientData.challenge ≠ challenge then .error .challengeMismatch
  else if !WebOrigin.sameOrigin clientData.origin origin then
    .error (.originMismatch origin clientData.origin)
  else if clientData.tokenBinding.any fun binding => !binding.isValid then
    .error .tokenBindingInvalid
  else .ok ()

end ClientData

/-- The digest that is signed for client data: that of the data, or of other bytes in its place. -/
def clientDataHash (clientData : Bytes) (signed : Option Bytes) : FixedBytes 32 :=
  sha256 (signed.getD clientData)

def signedBytes (rawAuthData : Bytes) (clientDataHash : FixedBytes 32) : Bytes :=
  rawAuthData ++ clientDataHash.bytes

end RelyingParty
