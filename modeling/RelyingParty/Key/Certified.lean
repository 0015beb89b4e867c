import RelyingParty.Certificate.SubjectKey
import RelyingParty.Key.PublicKey

namespace RelyingParty.PublicKey

open Certificate (SubjectKey)

def ecKind : List Nat := [1, 2, 840, 10045, 2, 1]
def rsaKind : Der.ObjectId := ⟨[0x2a, 0x86, 0x48, 0x86, 0xf7, 0x0d, 0x01, 0x01, 0x01]⟩
def ed25519Kind : List Nat := [1, 3, 101, 112]

def ofEcSubject (algorithm : Algorithm) (curve : EcCurve) (key : SubjectKey) :
    Except KeyError PublicKey :=
  if key.algorithm.id.arcs ≠ ecKind then .error (.invalid (.notEc key.algorithm.id))
  else
    match coordinates? curve.width key.bytes with
    | some (x, y) => ofCoordinates algorithm curve x y
    | none => .error (.invalid (.notUncompressed (1 + 2 * curve.width)))

def ofRsaSubject (key : SubjectKey) :
    Except KeyError PublicKey :=
  if key.algorithm.id.arcs ≠ rsaKind.arcs then .error (.invalid (.notRsa key.algorithm.id))
  else if key.algorithm.id ≠ rsaKind then .error (.invalid .malformedRsa)
  else
    match Certificate.rsaNumbers key.bytes with
    | some ((modulus, exponent), _) => .ok (.rsa .rs256 modulus exponent)
    | none => .error (.invalid .malformedRsa)

def ofEdwardsSubject (key : SubjectKey) :
    Except KeyError PublicKey :=
  if key.algorithm.id.arcs ≠ ed25519Kind ∨ key.bytes.length ≠ 32 then .error (.invalid .notEd25519)
  else .ok (.okp .edDsa key.bytes)

def ofSubjectKey (algorithm : Algorithm) (key : SubjectKey) :
    Except KeyError PublicKey :=
  match algorithm with
  | .es256 => ofEcSubject .es256 .p256 key
  | .es384 => ofEcSubject .es384 .p384 key
  | .es512 => ofEcSubject .es512 .p521 key
  | .edDsa => ofEdwardsSubject key
  | .rs256 => ofRsaSubject key

end RelyingParty.PublicKey
