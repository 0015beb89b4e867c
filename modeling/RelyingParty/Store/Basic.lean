import RelyingParty.Ceremony.Basic
import RelyingParty.Credential
import RelyingParty.Store.Table

namespace RelyingParty

inductive Condition where
  | challengeInUse
  | otherCredential
  | otherSession
  | notRegistration
  | notLogin
  deriving DecidableEq

def Condition.message : Condition → String
  | challengeInUse => "challenge already in use"
  | otherCredential => "ceremony belongs to another credential"
  | otherSession => "session mismatch"
  | notRegistration => "not a registration ceremony"
  | notLogin => "not a login ceremony"

inductive StoreError where
  | notFound
  | conditionFailed (condition : Condition)
  | alreadyExists
  | counterNotMonotone (stored received : UInt32)
  | backend (text : String)
  deriving DecidableEq

def StoreError.message : StoreError → String
  | notFound => "Not found"
  | conditionFailed condition => "Condition failed: " ++ condition.message
  | alreadyExists => "Credential already registered"
  | counterNotMonotone stored received =>
    "Counter not monotone: stored " ++ toString stored.toNat ++ ", received " ++ toString received.toNat
  | backend text => "Backend: " ++ text

def StoreError.status : StoreError → Nat
  | notFound => 404
  | conditionFailed _ => 409
  | alreadyExists => 409
  | counterNotMonotone _ _ => 502
  | backend _ => 502

/-- Ceremonies under their challenges, and credentials under their identifiers. -/
structure Store where
  ceremonies : Table Ceremony
  credentials : Table Credential

namespace Store

def empty : Store := ⟨.empty, .empty⟩

def liveCeremony (s : Store) (now : UInt64) (challengeId : Bytes) : Except StoreError Ceremony :=
  match s.ceremonies.get? challengeId with
  | some c => if c.isExpired now then .error .notFound else .ok c
  | none => .error .notFound

def credential (s : Store) (credentialId : Bytes) : Except StoreError Credential :=
  match s.credentials.get? credentialId with
  | some c => .ok c
  | none => .error .notFound

/-- Stores a ceremony. A challenge is not used twice as long as its ceremony is stored, live or not. -/
def putCeremony (s : Store) (c : Ceremony) : Except StoreError Store :=
  if s.ceremonies.contains c.challengeId then .error (.conditionFailed .challengeInUse)
  else .ok { s with ceremonies := s.ceremonies.insert c.challengeId c }

def ceremonyAndCredential (s : Store) (now : UInt64) (challengeId credentialId : Bytes) :
    Except StoreError (Ceremony × Credential) := do
  let ceremony ← s.liveCeremony now challengeId
  if !ceremony.admits credentialId then .error (.conditionFailed .otherCredential)
  else
    let credential ← s.credential credentialId
    .ok (ceremony, credential)

/-- Completes a registration: removes the ceremony and stores the credential. -/
def writeCredential (s : Store) (now : UInt64) (ceremony : Ceremony) (credential : Credential) :
    Except StoreError Store := do
  let stored ← s.liveCeremony now ceremony.challengeId
  if stored.sessionId ≠ ceremony.sessionId then .error (.conditionFailed .otherSession)
  else if stored.kind ≠ .create then .error (.conditionFailed .notRegistration)
  else if s.credentials.contains credential.rawId then .error .alreadyExists
  else
    .ok ⟨s.ceremonies.erase ceremony.challengeId, s.credentials.insert credential.rawId credential⟩

/-- The credential that a login is to move, if the login may be completed. -/
def loginTarget (s : Store) (now : UInt64) (credentialId challengeId : Bytes) :
    Except StoreError Credential := do
  let ceremony ← s.liveCeremony now challengeId
  if ceremony.kind ≠ .get then .error (.conditionFailed .notLogin)
  else if !ceremony.admits credentialId then .error (.conditionFailed .otherCredential)
  else s.credential credentialId

/-- Completes a login: moves the credential's counter and removes the ceremony. A counter below the
stored one is refused; the credential is then flagged, and the ceremony stays. -/
def moveCounter (s : Store) (now : UInt64) (credentialId : Bytes) (count : UInt32)
    (challengeId : Bytes) : Store × Except StoreError Unit :=
  match s.loginTarget now credentialId challengeId with
  | .error e => (s, .error e)
  | .ok credential =>
    if count < credential.signCounter then
      let flagged := { credential with cloneWarning := true, updatedAt := now }
      ({ s with credentials := s.credentials.insert credentialId flagged },
        .error (.counterNotMonotone credential.signCounter count))
    else
      let moved := { credential with signCounter := count, updatedAt := now }
      (⟨s.ceremonies.erase challengeId, s.credentials.insert credentialId moved⟩, .ok ())

/-- Removes the ceremonies that are no longer live, and tells how many there were. -/
def removeExpired (s : Store) (now : UInt64) : Store × Nat :=
  let live := s.ceremonies.filter fun c => !c.isExpired now
  ({ s with ceremonies := live }, s.ceremonies.size - live.size)

def credentialCount (s : Store) : Nat := s.credentials.size

end Store

end RelyingParty
