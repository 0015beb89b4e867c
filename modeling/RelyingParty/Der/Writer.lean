import RelyingParty.Der.Element

namespace RelyingParty.Der

def integerTag : UInt8 := 0x02

def sequenceTag : UInt8 := 0x30

def encodeLength (n : Nat) : Bytes :=
  if n < 0x80 then [UInt8.ofNat n]
  else
    let count := n.log2 / 8 + 1
    UInt8.ofNat (0x80 + count) :: Bytes.ofNat count n

def Element.encode (e : Element) : Bytes :=
  e.tag :: encodeLength e.content.length ++ e.content

/-- The element of a number at or above zero: the fewest bytes of which the highest bit is clear. -/
def Element.ofNat (n : Nat) : Element :=
  ⟨integerTag, Bytes.ofNat ((n.log2 + 1) / 8 + 1) n⟩

def Element.ofList (elements : List Element) : Element :=
  ⟨sequenceTag, elements.flatMap Element.encode⟩

end RelyingParty.Der
