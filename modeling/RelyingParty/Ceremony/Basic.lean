import RelyingParty.Ceremony.Kind
import RelyingParty.Json.ByteString
import RelyingParty.Json.Record

namespace RelyingParty

/-- A registration or a login that has begun. Times are seconds since the beginning of 1970. -/
structure Ceremony where
  challengeId : Bytes
  sessionId : String
  /-- The one credential that may complete the ceremony, if it is bound to one. -/
  credentialId : Option Bytes
  kind : CeremonyKind
  createdAt : UInt64
  ttl : UInt64
  deriving DecidableEq

namespace Ceremony

def defaultTtl : UInt64 := 300

def begin (challengeId : Bytes) (sessionId : String) (kind : CeremonyKind) (credentialId : Option Bytes)
    (now : UInt64) : Ceremony :=
  ⟨challengeId, sessionId, credentialId, kind, now, defaultTtl⟩

/-- The first second at which a ceremony is no longer live; none lies beyond the last of all. -/
def expiry (c : Ceremony) : Nat :=
  min (c.createdAt.toNat + c.ttl.toNat) (UInt64.size - 1)

def isExpired (c : Ceremony) (now : UInt64) : Bool := c.expiry ≤ now.toNat

def admits (c : Ceremony) (credentialId : Bytes) : Bool := c.credentialId.all (· == credentialId)

structure Draft where
  challengeId : Option Bytes := none
  sessionId : Option String := none
  credentialId : Option (Option Bytes) := none
  kind : Option CeremonyKind := none
  createdAt : Option UInt64 := none
  ttl : Option UInt64 := none

def format : Json.RecordFormat Draft Ceremony where
  fields := [
    ⟨"challenge_id", Draft.challengeId, fun draft x => { draft with challengeId := some x },
      Json.readBytes, false⟩,
    ⟨"session_id", Draft.sessionId, fun draft x => { draft with sessionId := some x },
      Json.readText, false⟩,
    ⟨"credential_id", Draft.credentialId, fun draft x => { draft with credentialId := some x },
      Json.readOptional Json.readBytes, true⟩,
    ⟨"ceremony_type", Draft.kind, fun draft x => { draft with kind := some x },
      Json.readVariant CeremonyKind.ofName?, false⟩,
    ⟨"created_at", Draft.createdAt, fun draft x => { draft with createdAt := some x },
      Json.readUInt64, false⟩,
    ⟨"ttl", Draft.ttl, fun draft x => { draft with ttl := some x }, Json.readUInt64, false⟩]
  empty := {}
  build draft := do
    let challengeId ← Json.required "challenge_id" draft.challengeId
    let sessionId ← Json.required "session_id" draft.sessionId
    let kind ← Json.required "ceremony_type" draft.kind
    let createdAt ← Json.required "created_at" draft.createdAt
    let ttl ← Json.required "ttl" draft.ttl
    .ok ⟨challengeId, sessionId, draft.credentialId.join, kind, createdAt, ttl⟩

def ofJson (bs : Bytes) : Except Json.ReadError Ceremony := Json.readAll format.read bs

def toJson (c : Ceremony) : Json.Value :=
  .object ([
    ("challenge_id", .bytes c.challengeId),
    ("session_id", .text c.sessionId)]
    ++ Json.optionalMember "credential_id" .bytes c.credentialId
    ++ [("ceremony_type", .text c.kind.name),
      ("created_at", .number c.createdAt.toNat),
      ("ttl", .number c.ttl.toNat)])

end Ceremony

end RelyingParty
