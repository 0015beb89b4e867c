import RelyingParty.Bytes
import RelyingParty.DomainName.Basic

namespace RelyingParty.WebOrigin

inductive Host where
  | domain (name : String)
  | ipv4 (address : Nat)
  | ipv6 (pieces : List Nat)
  deriving DecidableEq

/-- A part of an address: hexadecimal after `0x`, octal after another leading zero, else decimal. -/
def ipv4Part? (cs : List Char) : Option Nat :=
  match cs with
  | [] => none
  | '0' :: 'x' :: rest => number? 16 rest
  | '0' :: 'X' :: rest => number? 16 rest
  | '0' :: d :: rest => number? 8 (d :: rest)
  | cs => number? 10 cs

def addressParts (cs : List Char) : List (List Char) :=
  let parts := cutAt '.' cs
  if parts.getLast? = some [] then parts.dropLast else parts

def endsInNumber (cs : List Char) : Bool :=
  match (addressParts cs).getLast? with
  | none => false
  | some last => (!last.isEmpty && last.all Char.isDigit) || (ipv4Part? last).isSome

def ipv4OfParts? (parts : List Nat) : Option Nat :=
  match parts.reverse with
  | [] => none
  | last :: others =>
    if 3 < others.length then none
    else if Nat.pow 256 (4 - others.length) ≤ last then none
    else if others.any (255 < ·) then none
    else some (numberOf 256 others.reverse * Nat.pow 256 (4 - others.length) + last)

def ipv4? (cs : List Char) : Option Nat :=
  ((addressParts cs).mapM ipv4Part?).bind ipv4OfParts?

def ipv4Chars (address : Nat) : List Char :=
  let part (n : Nat) := (toString (address / Nat.pow 256 n % 256)).toList
  part 3 ++ '.' :: part 2 ++ '.' :: part 1 ++ '.' :: part 0

def byteDigits? (cs : List Char) : Option Nat :=
  match cs with
  | [] => none
  | ['0'] => some 0
  | '0' :: _ => none
  | cs => (number? 10 cs).filter (· ≤ 255)

def embeddedIpv4? (cs : List Char) : Option (Nat × Nat) := do
  match ← (cutAt '.' cs).mapM byteDigits? with
  | [a, b, c, d] => some (a * 256 + b, c * 256 + d)
  | _ => none

/-- The eight pieces, where zeros fill the gap that `::` left at some place. -/
def fillGap (gap : Option Nat) (pieces : List Nat) : Option (List Nat) :=
  match gap with
  | some place => some (pieces.take place ++ List.replicate (8 - pieces.length) 0 ++ pieces.drop place)
  | none => if pieces.length = 8 then some pieces else none

/-- The pieces of an address after some that are read, the latest first. A `::` counts as a piece
of zero and marks the gap after it. -/
def ipv6Pieces? :
    (fuel : Nat) → (read : List Nat) → (gap : Option Nat) → List Char → Option (List Nat)
  | _, read, gap, [] => fillGap gap read.reverse
  | 0, _, _, _ :: _ => none
  | fuel + 1, read, gap, c :: cs =>
    if read.length = 8 then none
    else if c = ':' then
      if gap.isSome then none else ipv6Pieces? fuel (0 :: read) (some (read.length + 1)) cs
    else
      let digits := ((c :: cs).take 4).takeWhile fun c => (digitValue? 16 c).isSome
      let piece := numberOf 16 (digits.filterMap (digitValue? 16))
      match (c :: cs).drop digits.length with
      | [] => fillGap gap (piece :: read).reverse
      | d :: rest =>
        if d = ':' ∧ rest ≠ [] then ipv6Pieces? fuel (piece :: read) gap rest
        else if d = '.' ∧ digits ≠ [] ∧ read.length ≤ 6 then do
          let (high, low) ← embeddedIpv4? (c :: cs)
          fillGap gap (low :: high :: read).reverse
        else none

def ipv6? (cs : List Char) : Option (List Nat) :=
  match cs with
  | ':' :: ':' :: rest => ipv6Pieces? rest.length [0] (some 1) rest
  | ':' :: _ => none
  | [] => none
  | [_] => none
  | cs => ipv6Pieces? cs.length [] none cs

def hexChars (n : Nat) : List Char := Nat.toDigits 16 n

def longestZeroRun (pieces : List Nat) : Nat × Nat :=
  let runAt (i : Nat) := ((pieces.drop i).takeWhile (· == 0)).length
  (List.range pieces.length).foldl (fun best i => if best.2 < runAt i then (i, runAt i) else best) (0, 0)

def joinPieces (pieces : List Nat) : List Char :=
  [':'].intercalate (pieces.map hexChars)

def ipv6Chars (pieces : List Nat) : List Char :=
  let (place, length) := longestZeroRun pieces
  if 2 ≤ length then
    joinPieces (pieces.take place) ++ ':' :: ':' :: joinPieces (pieces.drop (place + length))
  else joinPieces pieces

def percentDecode : List UInt8 → Bytes
  | 0x25 :: hi :: lo :: rest =>
    match digitValue? 16 (Char.ofNat hi.toNat), digitValue? 16 (Char.ofNat lo.toNat) with
    | some h, some l => UInt8.ofNat (16 * h + l) :: percentDecode rest
    | _, _ => 0x25 :: percentDecode (hi :: lo :: rest)
  | b :: rest => b :: percentDecode rest
  | [] => []

def Host.ofChars? (cs : List Char) : Option Host :=
  match cs with
  | '[' :: rest =>
    if rest.getLast? = some ']' then (ipv6? rest.dropLast).map .ipv6 else none
  | cs => do
    let decoded ← Bytes.toText? (percentDecode (Bytes.ofText (String.ofList cs)))
    let name ← DomainName.comparable? decoded
    if name.isEmpty then none
    else if endsInNumber name.toList then (ipv4? name.toList).map .ipv4
    else some (.domain name)

def Host.toChars : Host → List Char
  | .domain name => name.toList
  | .ipv4 address => ipv4Chars address
  | .ipv6 pieces => '[' :: ipv6Chars pieces ++ [']']

end RelyingParty.WebOrigin
