import RelyingParty.Attestation.Format
import RelyingParty.Attestation.Statement
import RelyingParty.Cbor.Decoder

namespace RelyingParty.Attestation

structure Object where
  format : AttestationFormat
  rawAuthData : Bytes
  authData : AuthenticatorData
  entries : Cbor.Entries

def formatOf (name : String) : Except VerificationError AttestationFormat :=
  match AttestationFormat.ofName? name with
  | some format => .ok format
  | none => .error (.unsupportedFormat name)

/-- The attestation object that a byte string writes as a CBOR map. It has to state a credential. -/
def Object.ofCbor (bs : Bytes) : Except VerificationError Object := do
  let entries ← (Cbor.decodeMap bs).mapError .malformedCbor
  let name ← entries.member Cbor.Item.text? "fmt"
  let format ← formatOf name
  let rawAuthData ← entries.member Cbor.Item.bytes? "authData"
  let statement ← entries.member Cbor.Item.map? "attStmt"
  let authData ← AuthenticatorData.parse rawAuthData false
  if authData.attested.isNone then .error .attestedDataMissing
  else .ok ⟨format, rawAuthData, authData, statement⟩

end RelyingParty.Attestation
