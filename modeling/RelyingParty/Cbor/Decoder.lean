import RelyingParty.Cbor.Item
import RelyingParty.Cbor.Float

namespace RelyingParty.Cbor

inductive DecodeError where
  | endOfInput
  /-- A reserved initial byte, text that is not UTF-8, or a bad segment of an indefinite string. -/
  | malformed
  /-- A well-formed head that stands for no item here: a stray break, an unknown simple value, or a
  negative big number below `-2^127`. -/
  | meaningless
  | tooDeep
  | trailing (count : Nat)
  | notMap
  deriving DecidableEq

def depthLimit : Nat := 256

abbrev Reader (α : Type) := Bytes → Except DecodeError (α × Bytes)

/-- What the initial byte of an item and its argument announce; an absent length is indefinite. -/
inductive Head where
  | unsigned (n : Nat)
  | negative (n : Nat)
  | bytes (length : Option Nat)
  | text (length : Option Nat)
  | array (length : Option Nat)
  | map (length : Option Nat)
  | tag (number : Nat)
  | simple (n : Nat)
  | float (bits : Nat)
  | stop

def readBytes (n : Nat) : Reader Bytes := fun bs =>
  match bs.split? n with
  | some (front, rest) => .ok (front, rest)
  | none => .error .endOfInput

/-- The argument that follows an initial byte whose low five bits are `info`; none is announced
by 31. -/
def readArgument (info : Nat) : Reader (Option Nat) := fun bs =>
  if info < 24 then .ok (some info, bs)
  else if info < 28 then do
    let (argument, rest) ← readBytes (1 <<< (info - 24)) bs
    .ok (some argument.toNat, rest)
  else if info = 31 then .ok (none, bs)
  else .error .malformed

/-- What an initial byte of major type `major` with low bits `info` announces, given its argument. -/
def Head.ofArgument (major info : Nat) : Option Nat → Except DecodeError Head
  | some n =>
    match major with
    | 0 => .ok (.unsigned n)
    | 1 => .ok (.negative n)
    | 2 => .ok (.bytes (some n))
    | 3 => .ok (.text (some n))
    | 4 => .ok (.array (some n))
    | 5 => .ok (.map (some n))
    | 6 => .ok (.tag n)
    | _ =>
      match info with
      | 25 => .ok (.float (FloatFormat.half.widen n))
      | 26 => .ok (.float (FloatFormat.single.widen n))
      | 27 => .ok (.float n)
      | _ => .ok (.simple n)
  | none =>
    match major with
    | 2 => .ok (.bytes none)
    | 3 => .ok (.text none)
    | 4 => .ok (.array none)
    | 5 => .ok (.map none)
    | 7 => .ok .stop
    | _ => .error .malformed

def readHead : Reader Head
  | [] => .error .endOfInput
  | b :: bs => do
    let (argument, rest) ← readArgument (b.toNat % 32) bs
    let head ← Head.ofArgument (b.toNat / 32) (b.toNat % 32) argument
    .ok (head, rest)

/-- The content of a text, or one segment of it; each is UTF-8 by itself. -/
def readTextSegment (n : Nat) : Reader String := fun bs => do
  let (content, rest) ← readBytes n bs
  match content.toText? with
  | some s => .ok (s, rest)
  | none => .error .malformed

/-- The segments of an indefinite string up to its break. A head of the string's kind announces a
segment or opens another indefinite string inside; `depth` counts those that are open. -/
def readSegments (segment : Nat → Reader α) (length? : Head → Option (Option Nat)) :
    (fuel depth : Nat) → Reader (List α)
  | 0, _, _ => .error .endOfInput
  | fuel + 1, depth, bs => do
    let (head, rest) ← readHead bs
    match head with
    | .stop =>
      match depth with
      | 0 => .ok ([], rest)
      | depth + 1 => readSegments segment length? fuel depth rest
    | head =>
      match length? head with
      | none => .error .malformed
      | some none => readSegments segment length? fuel (depth + 1) rest
      | some (some n) => do
        let (piece, rest) ← segment n rest
        let (pieces, rest) ← readSegments segment length? fuel depth rest
        .ok (piece :: pieces, rest)

def Head.bytesLength? : Head → Option (Option Nat)
  | .bytes length => some length
  | _ => none

def Head.textLength? : Head → Option (Option Nat)
  | .text length => some length
  | _ => none

def readByteString : Option Nat → Reader Bytes
  | some n => readBytes n
  | none => fun bs => do
    let (pieces, rest) ← readSegments readBytes Head.bytesLength? bs.length 0 bs
    .ok (pieces.flatten, rest)

def readText : Option Nat → Reader String
  | some n => readTextSegment n
  | none => fun bs => do
    let (pieces, rest) ← readSegments readTextSegment Head.textLength? bs.length 0 bs
    .ok (String.join pieces, rest)

def readCount (item : Reader α) : Nat → Reader (List α)
  | 0, bs => .ok ([], bs)
  | n + 1, bs => do
    let (x, rest) ← item bs
    let (xs, rest) ← readCount item n rest
    .ok (x :: xs, rest)

/-- Items up to a break. An item takes at least a byte, so `fuel` need not exceed the length. -/
def readUntilStop (item : Reader α) : (fuel : Nat) → Reader (List α)
  | 0, _ => .error .endOfInput
  | _ + 1, 0xff :: rest => .ok ([], rest)
  | fuel + 1, bs => do
    let (x, rest) ← item bs
    let (xs, rest) ← readUntilStop item fuel rest
    .ok (x :: xs, rest)

def readSequence (item : Reader α) : Option Nat → Reader (List α)
  | some n => readCount item n
  | none => fun bs => readUntilStop item bs.length bs

def readEntry (item : Reader Item) : Reader (Item × Item) := fun bs => do
  let (key, rest) ← item bs
  let (value, rest) ← item rest
  .ok ((key, value), rest)

/-- The number that tag 2 or 3 makes of a byte string, as an item. Outside the range of integers
it stays a tag over its shortest byte string. -/
def bigNumber (negative : Bool) (content : Bytes) : Except DecodeError Item :=
  let n := content.toNat
  if negative ∧ 1 <<< 127 ≤ n then .error .meaningless
  else if n < UInt64.size then
    .ok (if negative then .negative (UInt64.ofNat n) else .unsigned (UInt64.ofNat n))
  else .ok (.tag (if negative then 3 else 2) (.bytes content.trimZeros))

/-- The length of a byte string that tags 2 and 3 take for a number: definite, and at most sixteen
bytes. -/
def Head.magnitudeLength? : Head → Option Nat
  | .bytes (some n) => if n ≤ 16 then some n else none
  | _ => none

def simpleItem : Nat → Except DecodeError Item
  | 20 => .ok (.bool false)
  | 21 => .ok (.bool true)
  | 22 => .ok .null
  | 23 => .ok .null
  | _ => .error .meaningless

def readPlainTag (content : Reader Item) (number : Nat) : Reader Item := fun bs => do
  let (item, rest) ← content bs
  .ok (.tag (UInt64.ofNat number) item, rest)

def readTagged (content : Reader Item) (number : Nat) : Reader Item := fun bs =>
  if number = 2 ∨ number = 3 then do
    let (head, rest) ← readHead bs
    match head.magnitudeLength? with
    | some n => do
      let (magnitude, rest) ← readBytes n rest
      let item ← bigNumber (number = 3) magnitude
      .ok (item, rest)
    | none => readPlainTag content number bs
  else readPlainTag content number bs

def refuseDepth : Reader α := fun _ => .error .tooDeep

def readContent (array : Option Nat → Reader (List Item))
    (map : Option Nat → Reader (List (Item × Item))) (content : Reader Item) : Head → Reader Item
  | .unsigned n => fun bs => .ok (.unsigned (UInt64.ofNat n), bs)
  | .negative n => fun bs => .ok (.negative (UInt64.ofNat n), bs)
  | .bytes length => fun bs => do
    let (value, rest) ← readByteString length bs
    .ok (.bytes value, rest)
  | .text length => fun bs => do
    let (value, rest) ← readText length bs
    .ok (.text value, rest)
  | .array length => fun bs => do
    let (items, rest) ← array length bs
    .ok (.array items, rest)
  | .map length => fun bs => do
    let (entries, rest) ← map length bs
    .ok (.map entries, rest)
  | .tag number => readTagged content number
  | .simple n => fun bs => do
    let item ← simpleItem n
    .ok (item, bs)
  | .float bits => fun bs => .ok (.float (UInt64.ofNat bits), bs)
  | .stop => fun _ => .error .meaningless

def readItem : (depth : Nat) → Reader Item
  | 0 => fun bs => do
    let (head, rest) ← readHead bs
    readContent (fun _ => refuseDepth) (fun _ => refuseDepth) refuseDepth head rest
  | depth + 1 => fun bs => do
    let (head, rest) ← readHead bs
    readContent (readSequence (readItem depth)) (readSequence (readEntry (readItem depth)))
      (readItem depth) head rest

def decodeFirst (bs : Bytes) : Except DecodeError (Item × Nat) := do
  let (item, rest) ← readItem depthLimit bs
  .ok (item, bs.length - rest.length)

def decode (bs : Bytes) : Except DecodeError Item := do
  let (item, rest) ← readItem depthLimit bs
  match rest with
  | [] => .ok item
  | _ => .error (.trailing rest.length)

def decodeMap (bs : Bytes) : Except DecodeError Entries := do
  match ← decode bs with
  | .map entries => .ok entries
  | _ => .error .notMap

namespace DecodeError

def message : DecodeError → String
  | endOfInput => "Io"
  | malformed => "Syntax"
  | meaningless => "Semantic"
  | tooDeep => "RecursionLimitExceeded"
  | trailing count => toString count ++ " trailing bytes after CBOR item"
  | notMap => "expected map"

end DecodeError

end RelyingParty.Cbor
