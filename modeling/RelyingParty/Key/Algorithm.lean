import RelyingParty.Curve.Nist

namespace RelyingParty

inductive Algorithm where
  | es256
  | es384
  | es512
  | edDsa
  | rs256
  deriving DecidableEq

namespace Algorithm

def id : Algorithm → Int
  | es256 => -7
  | es384 => -35
  | es512 => -36
  | edDsa => -8
  | rs256 => -257

def ofId? (n : Int) : Option Algorithm :=
  [es256, es384, es512, edDsa, rs256].find? (·.id == n)

theorem ofId?_id (a : Algorithm) : ofId? a.id = some a := by
  cases a <;> rfl

def name : Algorithm → String
  | es256 => "Es256"
  | es384 => "Es384"
  | es512 => "Es512"
  | edDsa => "EdDsa"
  | rs256 => "Rs256"

end Algorithm

inductive EcCurve where
  | p256
  | p384
  | p521
  deriving DecidableEq

namespace EcCurve

def id : EcCurve → Int
  | p256 => 1
  | p384 => 2
  | p521 => 3

def ofId? (n : Int) : Option EcCurve :=
  [p256, p384, p521].find? (·.id == n)

theorem ofId?_id (c : EcCurve) : ofId? c.id = some c := by
  cases c <;> rfl

def name : EcCurve → String
  | p256 => "P-256"
  | p384 => "P-384"
  | p521 => "P-521"

def width : EcCurve → Nat
  | p256 => 32
  | p384 => 48
  | p521 => 66

def algorithm : EcCurve → Algorithm
  | p256 => .es256
  | p384 => .es384
  | p521 => .es512

def equation : EcCurve → Curve.Weierstrass
  | p256 => .p256
  | p384 => .p384
  | p521 => .p521

end EcCurve

namespace Algorithm

def curve? : Algorithm → Option EcCurve
  | es256 => some .p256
  | es384 => some .p384
  | es512 => some .p521
  | edDsa => none
  | rs256 => none

theorem curve?_eq_some_iff {a : Algorithm} {c : EcCurve} : a.curve? = some c ↔ c.algorithm = a := by
  cases a <;> cases c <;> simp [curve?, EcCurve.algorithm]

end Algorithm

end RelyingParty
