import RelyingParty.Bytes

namespace RelyingParty.Cbor

/-- A CBOR data item. A float is held by the bits of its IEEE double, and map entries keep their
order and may repeat a key. -/
inductive Item where
  /-- The number `n`. -/
  | unsigned (n : UInt64)
  /-- The number `-1 - n`. -/
  | negative (n : UInt64)
  | bytes (bs : Bytes)
  | text (s : String)
  | array (items : List Item)
  | map (entries : List (Item × Item))
  | tag (number : UInt64) (content : Item)
  | bool (b : Bool)
  | null
  | float (bits : UInt64)

abbrev Entries := List (Item × Item)

namespace Item

def ofInt (n : Int) : Item :=
  if 0 ≤ n then unsigned (UInt64.ofNat n.toNat) else negative (UInt64.ofNat (-1 - n).toNat)

def number? : Item → Option Int
  | unsigned n => some n.toNat
  | negative n => some (-1 - n.toNat)
  | _ => none

def int? (item : Item) : Option Int :=
  item.number?.filter fun n => -0x8000000000000000 ≤ n ∧ n < 0x8000000000000000

def bytes? : Item → Option Bytes
  | bytes bs => some bs
  | _ => none

def text? : Item → Option String
  | text s => some s
  | _ => none

def array? : Item → Option (List Item)
  | array items => some items
  | _ => none

def map? : Item → Option Entries
  | map entries => some entries
  | _ => none

end Item

namespace Entries

def getInt? (entries : Entries) (label : Int) : Option Item :=
  (entries.find? fun entry => entry.1.number? == some label).map (·.2)

def getText? (entries : Entries) (name : String) : Option Item :=
  (entries.find? fun entry => entry.1.text? == some name).map (·.2)

end Entries

end RelyingParty.Cbor
