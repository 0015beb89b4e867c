import RelyingParty.Store.Basic
import RelyingParty.VerificationError

namespace RelyingParty

inductive ServiceError where
  | verification (cause : VerificationError)
  | key (cause : KeyError)
  | store (cause : StoreError)
  | io (text : String)
  | internal (text : String)
  deriving DecidableEq

namespace ServiceError

def message : ServiceError → String
  | verification cause => "Verify: " ++ cause.message
  | key cause => "Key: " ++ cause.message
  | store cause => "Store: " ++ cause.message
  | io text => "I/O: " ++ text
  | internal text => text

def status : ServiceError → Nat
  | verification cause => cause.kind.status
  | key _ => 400
  | store cause => cause.status
  | io _ => 500
  | internal _ => 500

end ServiceError

end RelyingParty
