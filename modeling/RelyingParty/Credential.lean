import RelyingParty.Attestation.Format
import RelyingParty.Authenticator.Data
import RelyingParty.Json.ByteString
import RelyingParty.Json.Record

namespace RelyingParty

/-- A registered credential. The public key is a CBOR map, except for credentials of apps, where it
is an uncompressed point. Times are seconds since the beginning of 1970. -/
structure Credential where
  rawId : Bytes
  publicKey : Bytes
  attestationType : AttestationType
  aaguid : FixedBytes 16
  signCounter : UInt32
  /-- A counter went down: there may be a copy of the authenticator. -/
  cloneWarning : Bool
  receipt : Option Bytes
  sessionId : String
  createdAt : UInt64
  updatedAt : UInt64
  deriving DecidableEq

def hexText (bs : Bytes) : String :=
  String.ofList (bs.flatMap fun b => [Json.hexDigit (b.toNat / 16), Json.hexDigit (b.toNat % 16)])

namespace Credential

def idHex (c : Credential) : String := hexText c.rawId

def attested (c : Credential) : AttestedCredential := ⟨c.aaguid, c.rawId, c.publicKey⟩

def ofAttested (attested : AttestedCredential) (signCounter : UInt32) (sessionId : String)
    (now : UInt64) : Credential where
  rawId := attested.credentialId
  publicKey := attested.publicKey
  attestationType := .none
  aaguid := attested.aaguid
  signCounter := signCounter
  cloneWarning := false
  receipt := none
  sessionId := sessionId
  createdAt := now
  updatedAt := now

structure Draft where
  rawId : Option Bytes := none
  publicKey : Option Bytes := none
  attestationType : Option AttestationType := none
  aaguid : Option (FixedBytes 16) := none
  signCounter : Option UInt32 := none
  cloneWarning : Option Bool := none
  receipt : Option (Option Bytes) := none
  sessionId : Option String := none
  createdAt : Option UInt64 := none
  updatedAt : Option UInt64 := none

def format : Json.RecordFormat Draft Credential where
  fields := [
    ⟨"raw_id", Draft.rawId, fun draft x => { draft with rawId := some x }, Json.readBytes, false⟩,
    ⟨"public_key", Draft.publicKey, fun draft x => { draft with publicKey := some x },
      Json.readBytes, false⟩,
    ⟨"attestation_type", Draft.attestationType, fun draft x => { draft with attestationType := some x },
      Json.readVariant AttestationType.ofName?, false⟩,
    ⟨"aaguid", Draft.aaguid, fun draft x => { draft with aaguid := some x },
      Json.readFixedBytes 16, false⟩,
    ⟨"sign_counter", Draft.signCounter, fun draft x => { draft with signCounter := some x },
      Json.readUInt32, false⟩,
    ⟨"clone_warning", Draft.cloneWarning, fun draft x => { draft with cloneWarning := some x },
      Json.readBool, true⟩,
    ⟨"receipt", Draft.receipt, fun draft x => { draft with receipt := some x },
      Json.readOptional Json.readBytes, true⟩,
    ⟨"session_id", Draft.sessionId, fun draft x => { draft with sessionId := some x },
      Json.readText, false⟩,
    ⟨"created_at", Draft.createdAt, fun draft x => { draft with createdAt := some x },
      Json.readUInt64, false⟩,
    ⟨"updated_at", Draft.updatedAt, fun draft x => { draft with updatedAt := some x },
      Json.readUInt64, false⟩]
  empty := {}
  build draft := do
    let rawId ← Json.required "raw_id" draft.rawId
    let publicKey ← Json.required "public_key" draft.publicKey
    let attestationType ← Json.required "attestation_type" draft.attestationType
    let aaguid ← Json.required "aaguid" draft.aaguid
    let signCounter ← Json.required "sign_counter" draft.signCounter
    let sessionId ← Json.required "session_id" draft.sessionId
    let createdAt ← Json.required "created_at" draft.createdAt
    let updatedAt ← Json.required "updated_at" draft.updatedAt
    .ok ⟨rawId, publicKey, attestationType, aaguid, signCounter, draft.cloneWarning.getD false,
      draft.receipt.join, sessionId, createdAt, updatedAt⟩

def ofJson (bs : Bytes) : Except Json.ReadError Credential := Json.readAll format.read bs

def toJson (c : Credential) : Json.Value :=
  .object ([
    ("raw_id", .bytes c.rawId),
    ("public_key", .bytes c.publicKey),
    ("attestation_type", .text c.attestationType.name),
    ("aaguid", .bytes c.aaguid.bytes),
    ("sign_counter", .number c.signCounter.toNat),
    ("clone_warning", .bool c.cloneWarning)]
    ++ Json.optionalMember "receipt" .bytes c.receipt
    ++ [("session_id", .text c.sessionId),
      ("created_at", .number c.createdAt.toNat),
      ("updated_at", .number c.updatedAt.toNat)])

end Credential

end RelyingParty
