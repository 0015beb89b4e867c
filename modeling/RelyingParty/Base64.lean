import RelyingParty.Bytes

namespace RelyingParty.Base64

structure Alphabet where
  char62 : Char
  char63 : Char

def standard : Alphabet := ⟨'+', '/'⟩

def urlSafe : Alphabet := ⟨'-', '_'⟩

def padChar : Char := '='

namespace Alphabet

def char (a : Alphabet) (n : Nat) : Char :=
  if n < 26 then Char.ofNat (65 + n)
  else if n < 52 then Char.ofNat (71 + n)
  else if n < 62 then Char.ofNat (n - 4)
  else if n = 62 then a.char62
  else a.char63

def value? (a : Alphabet) (c : Char) : Option Nat :=
  if 'A' ≤ c ∧ c ≤ 'Z' then some (c.toNat - 65)
  else if 'a' ≤ c ∧ c ≤ 'z' then some (c.toNat - 71)
  else if '0' ≤ c ∧ c ≤ '9' then some (c.toNat + 4)
  else if c = a.char62 then some 62
  else if c = a.char63 then some 63
  else none

/-- The unpadded form: four characters for three bytes, and two or three for a rest of one or two. -/
def encodeChars (a : Alphabet) : Bytes → List Char
  | [] => []
  | [x] => [a.char (x.toNat / 4), a.char (x.toNat % 4 * 16)]
  | [x, y] =>
    [a.char (x.toNat / 4), a.char (x.toNat % 4 * 16 + y.toNat / 16), a.char (y.toNat % 16 * 4)]
  | x :: y :: z :: rest =>
    a.char (x.toNat / 4) :: a.char (x.toNat % 4 * 16 + y.toNat / 16)
      :: a.char (y.toNat % 16 * 4 + z.toNat / 64) :: a.char (z.toNat % 64) :: a.encodeChars rest

def decodeChars (a : Alphabet) : List Char → Option Bytes
  | [] => some []
  | [_] => none
  | [c, d] => do
    let p ← a.value? c
    let q ← a.value? d
    if q % 16 = 0 then some [UInt8.ofNat (p * 4 + q / 16)] else none
  | [c, d, e] => do
    let p ← a.value? c
    let q ← a.value? d
    let r ← a.value? e
    if r % 4 = 0 then some [UInt8.ofNat (p * 4 + q / 16), UInt8.ofNat (q % 16 * 16 + r / 4)] else none
  | c :: d :: e :: f :: rest => do
    let p ← a.value? c
    let q ← a.value? d
    let r ← a.value? e
    let s ← a.value? f
    let bs ← a.decodeChars rest
    some (UInt8.ofNat (p * 4 + q / 16) :: UInt8.ofNat (q % 16 * 16 + r / 4)
      :: UInt8.ofNat (r % 4 * 64 + s) :: bs)

def encode (a : Alphabet) (bs : Bytes) : String :=
  String.ofList (a.encodeChars bs)

def padding (n : Nat) : List Char :=
  List.replicate ((4 - n % 4) % 4) padChar

def encodePaddedChars (a : Alphabet) (bs : Bytes) : List Char :=
  a.encodeChars bs ++ padding (a.encodeChars bs).length

end Alphabet

def trimPadding (cs : List Char) : List Char :=
  (cs.reverse.dropWhile (· == padChar)).reverse

def decodeUrl? (s : String) : Option Bytes :=
  urlSafe.decodeChars (trimPadding s.toList)

def decodeStandard? (s : String) : Option Bytes :=
  let digits := trimPadding s.toList
  if s.toList = digits ++ Alphabet.padding digits.length then standard.decodeChars digits else none

end RelyingParty.Base64
