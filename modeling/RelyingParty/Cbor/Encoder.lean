import RelyingParty.Cbor.Item
import RelyingParty.Cbor.Float

namespace RelyingParty.Cbor

def encodeHead (major : Nat) (n : Nat) : Bytes :=
  if n < 24 then [UInt8.ofNat (major * 32 + n)]
  else if n < UInt8.size then UInt8.ofNat (major * 32 + 24) :: Bytes.ofNat 1 n
  else if n < UInt16.size then UInt8.ofNat (major * 32 + 25) :: Bytes.ofNat 2 n
  else if n < UInt32.size then UInt8.ofNat (major * 32 + 26) :: Bytes.ofNat 4 n
  else UInt8.ofNat (major * 32 + 27) :: Bytes.ofNat 8 n

/-- The shortest of the three widths that keeps the double with these bits. -/
def encodeFloat (bits : Nat) : Bytes :=
  match FloatFormat.half.narrow? bits with
  | some h => 0xf9 :: Bytes.ofNat 2 h
  | none =>
    match FloatFormat.single.narrow? bits with
    | some s => 0xfa :: Bytes.ofNat 4 s
    | none => 0xfb :: Bytes.ofNat 8 bits

mutual

def Item.encode : Item → Bytes
  | .unsigned n => encodeHead 0 n.toNat
  | .negative n => encodeHead 1 n.toNat
  | .bytes bs => encodeHead 2 bs.length ++ bs
  | .text s => encodeHead 3 (Bytes.ofText s).length ++ Bytes.ofText s
  | .array items => encodeHead 4 items.length ++ encodeItems items
  | .map entries => encodeHead 5 entries.length ++ encodeEntries entries
  | .tag number content => encodeHead 6 number.toNat ++ content.encode
  | .bool false => [0xf4]
  | .bool true => [0xf5]
  | .null => [0xf6]
  | .float bits => encodeFloat bits.toNat

def encodeItems : List Item → Bytes
  | [] => []
  | item :: items => item.encode ++ encodeItems items

def encodeEntries : List (Item × Item) → Bytes
  | [] => []
  | (key, value) :: entries => key.encode ++ (value.encode ++ encodeEntries entries)

end

end RelyingParty.Cbor
