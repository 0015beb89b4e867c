import RelyingParty.Bytes

namespace RelyingParty.Json

inductive ReadError where
  | malformed
  | invalidType
  | invalidValue
  | invalidLength
  | unknownVariant
  | missingField (name : String)
  | duplicateField (name : String)
  | notBase64url
  | unexpectedLength
  deriving DecidableEq

abbrev Reader (α : Type) := Bytes → Except ReadError (α × Bytes)

def isSpace (b : UInt8) : Bool := b = 0x20 || b = 0x0a || b = 0x0d || b = 0x09

def skipSpace (bs : Bytes) : Bytes := bs.dropWhile isSpace

/-- A part of a text between quotes: a byte, or the UTF-16 unit of a numeric escape. -/
inductive Piece where
  | byte (b : UInt8)
  | unit (u : Nat)

def hexValue? (b : UInt8) : Option Nat :=
  if 48 ≤ b ∧ b ≤ 57 then some (b.toNat - 48)
  else if 97 ≤ b ∧ b ≤ 102 then some (b.toNat - 87)
  else if 65 ≤ b ∧ b ≤ 70 then some (b.toNat - 55)
  else none

def hexUnit? (a b c d : UInt8) : Option Nat := do
  let a ← hexValue? a
  let b ← hexValue? b
  let c ← hexValue? c
  let d ← hexValue? d
  some (((a * 16 + b) * 16 + c) * 16 + d)

def escapedByte? (b : UInt8) : Option UInt8 :=
  if b = 0x22 ∨ b = 0x5c ∨ b = 0x2f then some b
  else if b = 0x62 then some 0x08
  else if b = 0x66 then some 0x0c
  else if b = 0x6e then some 0x0a
  else if b = 0x72 then some 0x0d
  else if b = 0x74 then some 0x09
  else none

def readPieces : Bytes → Option (List Piece × Bytes)
  | [] => none
  | 0x22 :: rest => some ([], rest)
  | 0x5c :: 0x75 :: a :: b :: c :: d :: rest => do
    let u ← hexUnit? a b c d
    let (pieces, rest) ← readPieces rest
    some (.unit u :: pieces, rest)
  | 0x5c :: e :: rest => do
    let b ← escapedByte? e
    let (pieces, rest) ← readPieces rest
    some (.byte b :: pieces, rest)
  | b :: rest =>
    if b < 0x20 ∨ b = 0x5c then none
    else do
      let (pieces, rest) ← readPieces rest
      some (.byte b :: pieces, rest)

def isHighSurrogate (u : Nat) : Bool := 0xd800 ≤ u && u < 0xdc00

def isLowSurrogate (u : Nat) : Bool := 0xdc00 ≤ u && u < 0xe000

def utf8 (n : Nat) : Bytes := Bytes.ofText (String.singleton (Char.ofNat n))

/-- The bytes of a text from its pieces; surrogates have to come in pairs, of which `high?` is a
first half that was just read. -/
def piecesBytes? : (high? : Option Nat) → List Piece → Option Bytes
  | none, [] => some []
  | none, .byte b :: pieces => (piecesBytes? none pieces).map (b :: ·)
  | none, .unit u :: pieces =>
    if isHighSurrogate u then piecesBytes? (some u) pieces
    else if isLowSurrogate u then none
    else (piecesBytes? none pieces).map (utf8 u ++ ·)
  | some high, .unit u :: pieces =>
    if isLowSurrogate u then
      (piecesBytes? none pieces).map (utf8 (0x10000 + (high - 0xd800) * 0x400 + (u - 0xdc00)) ++ ·)
    else none
  | some _, _ => none

def readQuoted : Reader String := fun bs =>
  match readPieces bs with
  | none => .error .malformed
  | some (pieces, rest) =>
    match (piecesBytes? none pieces).bind Bytes.toText? with
    | none => .error .malformed
    | some s => .ok (s, rest)

structure Numeral where
  negative : Bool
  digits : Nat
  exponent : Int
  whole : Bool

def isDigit (b : UInt8) : Bool := 48 ≤ b && b ≤ 57

def digitsValue (n : Nat) (digits : Bytes) : Nat :=
  digits.foldl (fun n b => n * 10 + (b.toNat - 48)) n

def readDigits (bs : Bytes) : Option (Bytes × Bytes) :=
  match bs.takeWhile isDigit with
  | [] => none
  | digits => some (digits, bs.dropWhile isDigit)

def readWhole (bs : Bytes) : Option (Bytes × Bytes) := do
  let (digits, rest) ← readDigits bs
  match digits with
  | 48 :: _ :: _ => none
  | _ => some (digits, rest)

def readFraction : Bytes → Option (Bytes × Bytes)
  | 0x2e :: rest => readDigits rest
  | bs => some ([], bs)

def readExponent (bs : Bytes) : Option (Option Int × Bytes) :=
  match bs with
  | e :: rest =>
    if e = 0x65 ∨ e = 0x45 then
      match rest with
      | 0x2b :: rest => (readDigits rest).map fun (ds, rest) => (some (digitsValue 0 ds : Int), rest)
      | 0x2d :: rest => (readDigits rest).map fun (ds, rest) => (some (-(digitsValue 0 ds : Int)), rest)
      | _ => (readDigits rest).map fun (ds, rest) => (some (digitsValue 0 ds : Int), rest)
    else some (none, bs)
  | [] => some (none, bs)

def readNumeral (bs : Bytes) : Option (Numeral × Bytes) := do
  let negative := bs.head? == some 0x2d
  let (whole, rest) ← readWhole (if negative then bs.tail else bs)
  let (fraction, rest) ← readFraction rest
  let (exponent, rest) ← readExponent rest
  some (⟨negative, digitsValue (digitsValue 0 whole) fraction, exponent.getD 0 - fraction.length,
    fraction.isEmpty && exponent.isNone⟩, rest)

namespace Numeral

def wholeLimit : Nat := UInt64.size

def overflowBound : Nat := (1 <<< 1024) - (1 <<< 970)

def isFinite (n : Numeral) : Bool :=
  if n.digits = 0 then true
  else if 400 < n.exponent then false
  else if 0 ≤ n.exponent then n.digits * Nat.pow 10 n.exponent.toNat < overflowBound
  else
    let shift := (-n.exponent).toNat
    if n.digits.log2 < shift then true else n.digits < overflowBound * Nat.pow 10 shift

def natural? (n : Numeral) : Option Nat :=
  if n.whole && !n.negative && n.digits < wholeLimit then some n.digits else none

def isNegative (n : Numeral) : Bool :=
  n.whole && n.negative && n.digits != 0 && n.digits ≤ 0x8000000000000000

end Numeral

def readWord? : (word : List UInt8) → Bytes → Option Bytes
  | [], bs => some bs
  | w :: word, b :: bs => if w = b then readWord? word bs else none
  | _ :: _, [] => none

def nullWord : Bytes := [0x6e, 0x75, 0x6c, 0x6c]
def trueWord : Bytes := [0x74, 0x72, 0x75, 0x65]
def falseWord : Bytes := [0x66, 0x61, 0x6c, 0x73, 0x65]

/-- The error for a value of another kind than the expected one. It is read as far as its kind
takes, and is malformed if that fails. -/
def mismatch (bs : Bytes) : ReadError :=
  match bs with
  | [] => .malformed
  | b :: rest =>
    if b = 0x5b ∨ b = 0x7b then .invalidType
    else if b = 0x22 then
      match readQuoted rest with
      | .ok _ => .invalidType
      | .error e => e
    else if b = 0x2d ∨ isDigit b then
      match readNumeral bs with
      | some (n, _) =>
        if n.natural?.isSome || n.isNegative || n.isFinite then .invalidType else .malformed
      | none => .malformed
    else if (readWord? nullWord bs).isSome || (readWord? trueWord bs).isSome
        || (readWord? falseWord bs).isSome then .invalidType
    else .malformed

def readText : Reader String := fun bs =>
  match skipSpace bs with
  | 0x22 :: rest => readQuoted rest
  | bs => .error (mismatch bs)

def readBool : Reader Bool := fun bs =>
  let bs := skipSpace bs
  match readWord? trueWord bs, readWord? falseWord bs with
  | some rest, _ => .ok (true, rest)
  | none, some rest => .ok (false, rest)
  | none, none => .error (mismatch bs)

def readNatural (limit : Nat) : Reader Nat := fun bs =>
  let bs := skipSpace bs
  match bs with
  | [] => .error .malformed
  | b :: _ =>
    if b = 0x2d ∨ isDigit b then
      match readNumeral bs with
      | none => .error .malformed
      | some (n, rest) =>
        match n.natural? with
        | some value => if value < limit then .ok (value, rest) else .error .invalidValue
        | none =>
          if n.isNegative then .error .invalidValue
          else if n.isFinite then .error .invalidType
          else .error .malformed
    else .error (mismatch bs)

def readOptional (read : Reader α) : Reader (Option α) := fun bs =>
  let bs := skipSpace bs
  match bs with
  | 0x6e :: _ =>
    match readWord? nullWord bs with
    | some rest => .ok (none, rest)
    | none => .error .malformed
  | _ => do
    let (value, rest) ← read bs
    .ok (some value, rest)

/-- A name that `find` knows: a text, or an object with the name as its one member and null as the
value. -/
def readVariant (find : String → Option α) : Reader α := fun bs =>
  match skipSpace bs with
  | 0x22 :: rest => do
    let (name, rest) ← readQuoted rest
    match find name with
    | some a => .ok (a, rest)
    | none => .error .unknownVariant
  | 0x7b :: rest => do
    let (name, rest) ← readText rest
    match find name with
    | none => .error .unknownVariant
    | some a =>
      match skipSpace rest with
      | 0x3a :: rest =>
        let rest := skipSpace rest
        match readWord? nullWord rest with
        | none => .error (mismatch rest)
        | some rest =>
          match skipSpace rest with
          | 0x7d :: rest => .ok (a, rest)
          | _ => .error .malformed
      | _ => .error .malformed
  | _ => .error .malformed

mutual

def skipValueWithin : (fuel : Nat) → Bytes → Option Bytes
  | 0, _ => none
  | fuel + 1, bs =>
    match skipSpace bs with
    | [] => none
    | b :: rest =>
      if b = 0x22 then (readPieces rest).map (·.2)
      else if b = 0x5b then
        match skipSpace rest with
        | 0x5d :: rest => some rest
        | rest => skipItemsWithin fuel rest
      else if b = 0x7b then
        match skipSpace rest with
        | 0x7d :: rest => some rest
        | rest => skipMembersWithin fuel rest
      else if b = 0x6e then readWord? nullWord (b :: rest)
      else if b = 0x74 then readWord? trueWord (b :: rest)
      else if b = 0x66 then readWord? falseWord (b :: rest)
      else (readNumeral (b :: rest)).map (·.2)

def skipItemsWithin : (fuel : Nat) → Bytes → Option Bytes
  | 0, _ => none
  | fuel + 1, bs => do
    let rest ← skipValueWithin fuel bs
    match skipSpace rest with
    | 0x2c :: rest => skipItemsWithin fuel rest
    | 0x5d :: rest => some rest
    | _ => none

def skipMembersWithin : (fuel : Nat) → Bytes → Option Bytes
  | 0, _ => none
  | fuel + 1, bs =>
    match skipSpace bs with
    | 0x22 :: rest => do
      let (_, rest) ← readPieces rest
      match skipSpace rest with
      | 0x3a :: rest => do
        let rest ← skipValueWithin fuel rest
        match skipSpace rest with
        | 0x2c :: rest => skipMembersWithin fuel rest
        | 0x7d :: rest => some rest
        | _ => none
      | _ => none
    | _ => none

end

/-- What follows the value at the front of the input. Each step takes a byte, so the length is
fuel enough. -/
def skipValue : Reader Unit := fun bs =>
  match skipValueWithin (2 * bs.length + 2) bs with
  | some rest => .ok ((), rest)
  | none => .error .malformed

namespace ReadError

def message : ReadError → String
  | malformed => "syntax"
  | invalidType => "invalid type"
  | invalidValue => "invalid value"
  | invalidLength => "invalid length"
  | unknownVariant => "unknown variant"
  | missingField name => "missing field \x60" ++ name ++ "\x60"
  | duplicateField name => "duplicate field \x60" ++ name ++ "\x60"
  | notBase64url => "invalid base64url"
  | unexpectedLength => "unexpected length"

end ReadError

end RelyingParty.Json
