import RelyingParty.Asn1.Reader

namespace RelyingParty.Certificate

open Asn1 (Element Reader)

structure Attribute where
  type : Der.ObjectId
  tag : Nat
  value : Bytes

structure Name where
  raw : Bytes
  sets : List (List Attribute)

def countryType : Der.ObjectId := ⟨[0x55, 0x04, 0x06]⟩
def organizationType : Der.ObjectId := ⟨[0x55, 0x04, 0x0a]⟩

namespace Attribute

def read : Reader Attribute := Reader.sequence do
  let type ← Reader.objectId
  let value ← Reader.element
  pure ⟨type, value.number, value.content⟩

def plainTextTags : List Nat :=
  [Asn1.utf8StringNumber, Asn1.numericStringNumber, Asn1.printableStringNumber, Asn1.ia5StringNumber]

def text? (a : Attribute) : Option String :=
  if plainTextTags.contains a.tag then a.value.toText? else none

def shownTextTags : List Nat := plainTextTags ++ [7, 20, 21, 25, 26, 27]

def hexDigit (n : Nat) : Char := if n < 10 then Char.ofNat (48 + n) else Char.ofNat (55 + n)

def hex (bs : Bytes) : String :=
  String.ofList (bs.flatMap fun b => [hexDigit (b.toNat / 16), hexDigit (b.toNat % 16)])

/-- The value as it is shown: a text as it is, if it is UTF-8, and any other value in hexadecimal. -/
def shownValue? (a : Attribute) : Option String :=
  if shownTextTags.contains a.tag then a.value.toText? else some (hex a.value)

def shortNames : List (List Nat × String) := [
  ([2, 5, 4, 3], "CN"), ([2, 5, 4, 6], "C"), ([2, 5, 4, 7], "L"), ([2, 5, 4, 8], "ST"),
  ([2, 5, 4, 10], "O"), ([2, 5, 4, 11], "OU"), ([0, 9, 2342, 19200300, 100, 1, 25], "DC"),
  ([1, 2, 840, 113549, 1, 9, 1], "Email"), ([2, 5, 4, 4], "surname"), ([2, 5, 4, 5], "serialNumber"),
  ([2, 5, 4, 9], "streetAddress"), ([2, 5, 4, 12], "title"), ([2, 5, 4, 13], "description"),
  ([2, 5, 4, 15], "businessCategory"), ([2, 5, 4, 17], "postalCode"), ([2, 5, 4, 41], "name"),
  ([2, 5, 4, 42], "givenName"), ([2, 5, 4, 43], "initials"), ([2, 5, 4, 44], "generationQualifier"),
  ([2, 5, 4, 46], "dnQualifier")]

def shownType (a : Attribute) : String :=
  match shortNames.find? (·.1 == a.type.arcs) with
  | some (_, name) => name
  | none => "OID(" ++ a.type.toText ++ ")"

def shown? (a : Attribute) : Option String :=
  a.shownValue?.map fun value => a.shownType ++ "=" ++ value

end Attribute

namespace Name

def read : Reader Name := do
  let set := Prod.fst <$> Reader.insideRaw Asn1.setNumber (Reader.many1 Attribute.read)
  let (sets, raw) ← Reader.insideRaw Asn1.sequenceNumber (Reader.many set)
  pure ⟨raw, sets⟩

def hasText (name : Name) (type : Der.ObjectId) : Bool :=
  name.sets.flatten.any fun a => a.type == type && a.text?.any fun s => !s.isEmpty

def toText (name : Name) : String :=
  match name.sets.mapM fun set => (set.mapM Attribute.shown?).map (" + ".intercalate ·) with
  | some parts => ", ".intercalate parts
  | none => "<X509Error: Invalid X.509 name>"

end Name

end RelyingParty.Certificate
