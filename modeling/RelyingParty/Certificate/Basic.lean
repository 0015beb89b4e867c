import RelyingParty.Certificate.Name
import RelyingParty.Certificate.SubjectKey
import RelyingParty.Certificate.Validity

namespace RelyingParty

open Asn1 (Reader)

namespace Certificate

structure Extension where
  id : Der.ObjectId
  critical : Bool
  value : Bytes

end Certificate

structure Certificate where
  signedPart : Bytes
  /-- One less than the version. -/
  version : Nat
  issuer : Certificate.Name
  validity : Certificate.Validity
  subject : Certificate.Name
  subjectKey : Certificate.SubjectKey
  extensions : List Certificate.Extension
  signatureAlgorithm : Certificate.AlgorithmId
  signature : Bytes

namespace Certificate

def looseBoolean : Reader Bool := do
  let e ← Reader.primitive Asn1.booleanNumber
  match e.content with
  | [b] => pure (b != 0)
  | _ => failure

def Extension.read : Reader Extension := Reader.sequence do
  let id ← Reader.objectId
  let critical ← Reader.optional looseBoolean
  let value ← Reader.octets
  pure ⟨id, critical.getD false, value⟩

def readVersion : Reader Nat := fun bs =>
  match Reader.element bs with
  | none => if bs.isEmpty then some (0, bs) else none
  | some (e, rest) =>
    if e.number = 0 ∧ e.tagClass = Asn1.contextClass then do
      let (number, _) ← Reader.primitive Asn1.integerNumber e.content
      let version ← Reader.small? number.content
      some (version, rest)
    else some (0, bs)

def skipIdentifier (number : Nat) : Reader Unit := fun bs =>
  match Reader.element bs with
  | none => if bs.isEmpty then some ((), bs) else none
  | some (e, rest) =>
    if e.number = number ∧ e.tagClass = Asn1.contextClass then
      if e.constructed then none else (Reader.bits? e.content).map fun _ => ((), rest)
    else some ((), bs)

/-- All that is left: nothing, or the header of a tag of its own and one sequence of extensions. The
length in that header is left out of account. -/
def readExtensions : Reader (List Extension) := fun bs =>
  if bs.isEmpty then some ([], [])
  else do
    let (header, rest) ← Reader.header bs
    let sequence ← Reader.complete (Reader.numbered Asn1.sequenceNumber) rest
    if header.number = 3 ∧ sequence.constructed then do
      let extensions ← Reader.complete (Reader.many Extension.read) sequence.content
      some (extensions, [])
    else none

def read : Reader Certificate := Reader.sequence do
  let statement := do
    let version ← readVersion
    let _serial ← Reader.numbered Asn1.integerNumber
    let _algorithm ← AlgorithmId.read
    let issuer ← Name.read
    let validity ← Validity.read
    let subject ← Name.read
    let subjectKey ← SubjectKey.read
    skipIdentifier 1
    skipIdentifier 2
    let extensions ← readExtensions
    pure fun signedPart algorithm signature => (⟨signedPart, version, issuer, validity, subject, subjectKey,
      extensions, algorithm, signature⟩ : Certificate)
  let (certificate, signedPart) ← Reader.insideRaw Asn1.sequenceNumber statement
  let algorithm ← AlgorithmId.read
  let signature ← Reader.bitString
  pure (certificate signedPart algorithm signature)

def ofBytes? (bs : Bytes) : Option Certificate := (read bs).map (·.1)

def version3 : Nat := 2

def extension? (c : Certificate) (id : List Nat) : Option Extension :=
  c.extensions.find? (·.id.arcs == id)

def basicConstraintsId : Der.ObjectId := ⟨[0x55, 0x1d, 0x13]⟩

/-- Whether the value of the extension that tells authorities from others says that the certificate
is one; none if it cannot be read. -/
def authorityValue? (value : Bytes) : Option Bool := do
  let (sequence, _) ← Reader.numbered Asn1.sequenceNumber value
  if !sequence.constructed then none
  else do
    let items ← Reader.complete (Reader.many Reader.element) sequence.content
    let boolean? (e : Asn1.Element) : Option Bool :=
      if e.number = Asn1.booleanNumber then
        match e.content with
        | [0x00] => some false
        | [0xff] => some true
        | _ => none
      else none
    let isCount (e : Asn1.Element) : Bool :=
      e.number = Asn1.integerNumber && (Reader.small? e.content).isSome
    match items with
    | [] => some false
    | [e] => boolean? e <|> (if isCount e then some false else none)
    | [e, count] => if isCount count then boolean? e else none
    | _ => none

/-- Whether the certificate says that it is an authority; none if it says so twice. -/
def isAuthority? (c : Certificate) : Option Bool :=
  match c.extensions.filter (·.id == basicConstraintsId) with
  | [] => some false
  | [e] => some ((authorityValue? e.value).getD false)
  | _ => none

end Certificate

end RelyingParty
