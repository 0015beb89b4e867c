import RelyingParty.Base64
import RelyingParty.Json.Reader
import RelyingParty.Json.Value

namespace RelyingParty.Json

def readBytes : Reader Bytes := fun bs => do
  let (s, rest) ← readText bs
  match Base64.decodeUrl? s with
  | some value => .ok (value, rest)
  | none => .error .notBase64url

def readFixedBytes (n : Nat) : Reader (FixedBytes n) := fun bs => do
  let (value, rest) ← readBytes bs
  match FixedBytes.ofBytes? n value with
  | some value => .ok (value, rest)
  | none => .error .unexpectedLength

def readUInt32 : Reader UInt32 := fun bs => do
  let (n, rest) ← readNatural UInt32.size bs
  .ok (UInt32.ofNat n, rest)

def readUInt64 : Reader UInt64 := fun bs => do
  let (n, rest) ← readNatural UInt64.size bs
  .ok (UInt64.ofNat n, rest)

def Value.bytes (bs : Bytes) : Value := .text (Base64.urlSafe.encode bs)

def optionalMember (name : String) (value : α → Value) : Option α → List (String × Value)
  | some a => [(name, value a)]
  | none => []

end RelyingParty.Json
