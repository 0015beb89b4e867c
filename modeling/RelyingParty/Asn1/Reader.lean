import RelyingParty.Asn1.Element

namespace RelyingParty.Asn1

abbrev Reader := StateT Bytes Option

namespace Reader

def header : Reader Header := Header.read?

def element : Reader Element := Element.read?

def numbered (number : Nat) : Reader Element := do
  let e ← element
  if e.number = number then pure e else failure

def primitive (number : Nat) : Reader Element := do
  let e ← numbered number
  if e.constructed then failure else pure e

/-- What a reader takes off the front of the content of a constructed element, with the bytes of the
element up to where the reader stopped. -/
def insideRaw (number : Nat) (inner : Reader α) : Reader (α × Bytes) := do
  let e ← numbered number
  if e.constructed then
    match inner e.content with
    | some (a, left) => pure (a, e.headerBytes ++ e.content.take (e.content.length - left.length))
    | none => failure
  else failure

def sequence (inner : Reader α) : Reader α := Prod.fst <$> insideRaw sequenceNumber inner

def complete (inner : Reader α) (bs : Bytes) : Option α :=
  match inner bs with
  | some (a, []) => some a
  | _ => none

def manyWithin (inner : Reader α) : (fuel : Nat) → Reader (List α)
  | 0 => pure []
  | fuel + 1 => fun bs =>
    match inner bs with
    | none => some ([], bs)
    | some (a, rest) => (manyWithin inner fuel rest).map fun (as, rest) => (a :: as, rest)

def many (inner : Reader α) : Reader (List α) := fun bs => manyWithin inner bs.length bs

def many1 (inner : Reader α) : Reader (List α) := do
  let a ← inner
  let as ← many inner
  pure (a :: as)

def optional (inner : Reader α) : Reader (Option α) := fun bs =>
  match inner bs with
  | some (a, rest) => some (some a, rest)
  | none => some (none, bs)

def objectId : Reader Der.ObjectId := do
  let e ← primitive objectIdNumber
  pure ⟨e.content⟩

def octets : Reader Bytes := do
  let e ← primitive octetStringNumber
  pure e.content

def trailingZeros (b : UInt8) : Nat :=
  (List.range 8).takeWhile (fun i => !b.toNat.testBit i) |>.length

/-- The bytes of the content of a bit string, whose first byte counts the unused bits of the last.
Unused bits are zero. -/
def bits? : Bytes → Option Bytes
  | [] => none
  | unused :: bs =>
    match bs.getLast? with
    | none => if unused = 0 then some [] else none
    | some last => if unused.toNat ≤ trailingZeros last then some bs else none

def bitString : Reader Bytes := do
  let e ← primitive bitStringNumber
  match bits? e.content with
  | some bs => pure bs
  | none => failure

/-- A whole number that is not negative and below `2^32`, in its shortest form. -/
def small? : Bytes → Option Nat
  | [] => none
  | [b] => if b < 0x80 then some b.toNat else none
  | b :: c :: bs =>
    if b ≥ 0x80 ∨ (b = 0 ∧ c < 0x80) then none
    else
      let n := Bytes.toNat (b :: c :: bs)
      if n < UInt32.size then some n else none

end Reader

end RelyingParty.Asn1
