namespace RelyingParty

inductive AttestationFormat where
  | none
  | packed
  | appleAppAttest
  deriving DecidableEq

namespace AttestationFormat

def name : AttestationFormat → String
  | none => "none"
  | packed => "packed"
  | appleAppAttest => "apple-appattest"

def ofName? (s : String) : Option AttestationFormat :=
  [none, packed, appleAppAttest].find? (·.name == s)

end AttestationFormat

/-- How a stored credential was attested. Credentials of the last kind were registered before and
may answer to the former identifier of the party. -/
inductive AttestationType where
  | none
  | packed
  | appleAppAttest
  | fidoU2f
  deriving DecidableEq

namespace AttestationType

def name : AttestationType → String
  | none => "none"
  | packed => "packed"
  | appleAppAttest => "apple-appattest"
  | fidoU2f => "fido-u2f"

def ofName? (s : String) : Option AttestationType :=
  [none, packed, appleAppAttest, fidoU2f].find? (·.name == s)

end AttestationType

def AttestationFormat.type : AttestationFormat → AttestationType
  | none => .none
  | packed => .packed
  | appleAppAttest => .appleAppAttest

end RelyingParty
