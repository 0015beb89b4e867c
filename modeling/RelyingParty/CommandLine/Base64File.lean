import RelyingParty.Base64

namespace RelyingParty.CommandLine

def isBlank (c : Char) : Bool :=
  let n := c.toNat
  (9 ≤ n && n ≤ 13) || n = 0x20 || n = 0x85 || n = 0xa0 || n = 0x1680
    || (0x2000 ≤ n && n ≤ 0x200a) || n = 0x2028 || n = 0x2029 || n = 0x202f || n = 0x205f || n = 0x3000

def trimBlanks (cs : List Char) : List Char :=
  ((cs.dropWhile isBlank).reverse.dropWhile isBlank).reverse

/-- The bytes of a text in the standard alphabet, padded to groups of four, or else of one in the URL
alphabet. -/
def base64Text? (s : String) : Option Bytes :=
  let trimmed := String.ofList (trimBlanks s.toList)
  (Base64.decodeStandard? trimmed).or (Base64.decodeUrl? trimmed)

end RelyingParty.CommandLine
