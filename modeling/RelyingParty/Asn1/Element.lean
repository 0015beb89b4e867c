import RelyingParty.Der.ObjectId

namespace RelyingParty.Asn1

structure Header where
  /-- Zero for the tags of the standard, two for those that a context gives a meaning. -/
  tagClass : Nat
  constructed : Bool
  number : Nat
  length : Nat

structure Element extends Header where
  headerBytes : Bytes
  content : Bytes

def contextClass : Nat := 2

def booleanNumber : Nat := 1
def integerNumber : Nat := 2
def bitStringNumber : Nat := 3
def octetStringNumber : Nat := 4
def objectIdNumber : Nat := 6
def utf8StringNumber : Nat := 12
def sequenceNumber : Nat := 16
def setNumber : Nat := 17
def numericStringNumber : Nat := 18
def printableStringNumber : Nat := 19
def ia5StringNumber : Nat := 22
def utcTimeNumber : Nat := 23
def generalizedTimeNumber : Nat := 24

def readTagNumber? : (fuel n : Nat) → Bytes → Option (Nat × Bytes)
  | 0, _, _ => none
  | _ + 1, _, [] => none
  | fuel + 1, n, b :: bs =>
    let n := n * 128 + b.toNat % 128
    if b < 0x80 then some (n, bs) else readTagNumber? fuel n bs

def readLength? : Bytes → Option (Nat × Bytes)
  | [] => none
  | first :: rest =>
    if first < 0x80 then some (first.toNat, rest)
    else if first = 0x80 ∨ first = 0xff then none
    else (Bytes.split? (first.toNat - 0x80) rest).map fun (digits, rest) => (Bytes.toNat digits, rest)

def Header.read? : Bytes → Option (Header × Bytes)
  | [] => none
  | tag :: rest => do
    let low := tag.toNat % 32
    let (number, rest) ← if low = 31 then readTagNumber? 5 0 rest else some (low, rest)
    let (length, rest) ← readLength? rest
    some (⟨tag.toNat / 64, tag.toNat / 32 % 2 == 1, number, length⟩, rest)

def Element.read? (bs : Bytes) : Option (Element × Bytes) := do
  let (header, afterHeader) ← Header.read? bs
  let (content, rest) ← Bytes.split? header.length afterHeader
  some ({ header with headerBytes := bs.take (bs.length - afterHeader.length), content }, rest)

end RelyingParty.Asn1
