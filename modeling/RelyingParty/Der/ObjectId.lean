import RelyingParty.Bytes

namespace RelyingParty.Der

structure ObjectId where
  content : Bytes
  deriving DecidableEq

namespace ObjectId

/-- The numbers that bytes write in base 128, each but the last byte of a number with its highest
bit set, after the digits that write `n` so far. -/
def base128 (n : Nat) : Bytes → List Nat
  | [] => []
  | [b] => [n * 128 + b.toNat % 128]
  | b :: bs =>
    if b < 0x80 then (n * 128 + b.toNat) :: base128 0 bs
    else base128 (n * 128 + b.toNat % 128) bs

def arcs (oid : ObjectId) : List Nat :=
  match oid.content with
  | [] => []
  | [0] => [0]
  | b :: bs => b.toNat / 40 :: b.toNat % 40 :: base128 0 bs

def toText (oid : ObjectId) : String :=
  ".".intercalate (oid.arcs.map toString)

end ObjectId

end RelyingParty.Der
