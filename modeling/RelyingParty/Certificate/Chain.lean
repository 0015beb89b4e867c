import RelyingParty.Certificate.Signature
import RelyingParty.VerificationError

namespace RelyingParty.Certificate

def checkLink (time : Timestamp) (index : Nat) (c issuer : Certificate) : Except ChainFault Unit :=
  if !c.validity.includes time then .error (.notValidAt index time)
  else if c.issuer.raw ≠ issuer.subject.raw then .error (.notIssuedBy index issuer.subject.toText)
  else
    match scheme? c.signatureAlgorithm issuer.subjectKey with
    | none => .error (.signatureAlgorithm index)
    | some scheme =>
      if !scheme.accepts issuer.subjectKey.bytes c.signedPart c.signature then
        .error (.signature index)
      else if index ≠ 0 ∧ c.isAuthority? ≠ some true then .error (.notAuthority index)
      else .ok ()

/-- Checks the certificates of a chain from the one at `index` on, and at its end the root, which
issues itself. -/
def checkChain (time : Timestamp) (root : Certificate) :
    (index : Nat) → List Certificate → Except ChainFault Unit
  | index, [] => checkLink time index root root
  | index, [c] => do
    checkLink time index c root
    checkLink time (index + 1) root root
  | index, c :: issuer :: cs => do
    checkLink time index c issuer
    checkChain time root (index + 1) (issuer :: cs)

def checkTime (time : Timestamp) : Except ChainFault Timestamp :=
  if time < 0 then .error .beforeEpoch
  else if Calendar.lastTimestamp < time then .error .dateOutOfRange
  else .ok time

end RelyingParty.Certificate
