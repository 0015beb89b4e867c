import RelyingParty.Asn1.Reader

namespace RelyingParty.Certificate

open Asn1 (Element Reader)

structure AlgorithmId where
  id : Der.ObjectId
  parameters : Option Element

def AlgorithmId.read : Reader AlgorithmId := Reader.sequence do
  let id ← Reader.objectId
  let parameters ← Reader.optional Reader.element
  pure ⟨id, parameters⟩

def AlgorithmId.curve? (a : AlgorithmId) : Option Der.ObjectId :=
  match a.parameters with
  | some e => if e.number = Asn1.objectIdNumber ∧ !e.constructed then some ⟨e.content⟩ else none
  | none => none

structure SubjectKey where
  algorithm : AlgorithmId
  bytes : Bytes

def SubjectKey.read : Reader SubjectKey := Reader.sequence do
  let algorithm ← AlgorithmId.read
  let bytes ← Reader.bitString
  pure ⟨algorithm, bytes⟩

def SubjectKey.ofBytes? (bs : Bytes) : Option SubjectKey := (SubjectKey.read bs).map (·.1)

def rsaNumbers : Reader (Bytes × Bytes) := Reader.sequence do
  let modulus ← Reader.primitive Asn1.integerNumber
  let exponent ← Reader.primitive Asn1.integerNumber
  pure (modulus.content, exponent.content)

end RelyingParty.Certificate
