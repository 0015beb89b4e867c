import RelyingParty.Cbor.Item
import RelyingParty.VerificationError

namespace RelyingParty.Cbor.Entries

def member (read : Item → Option α) (entries : Entries) (name : String) :
    Except VerificationError α :=
  match (entries.getText? name).bind read with
  | some a => .ok a
  | none => .error (.missingField name)

end RelyingParty.Cbor.Entries
