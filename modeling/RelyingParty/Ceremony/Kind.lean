namespace RelyingParty

inductive CeremonyKind where
  | create
  | get
  deriving DecidableEq

namespace CeremonyKind

def name : CeremonyKind → String
  | create => "create"
  | get => "get"

def ofName? (s : String) : Option CeremonyKind :=
  [create, get].find? (·.name == s)

def clientDataType : CeremonyKind → String
  | create => "webauthn.create"
  | get => "webauthn.get"

end CeremonyKind

end RelyingParty
