import RelyingParty.Hash.Sha2

namespace RelyingParty.Sha1

structure State where
  (a b c d e : BitVec 32)

def initial : State := ⟨0x67452301, 0xefcdab89, 0x98badcfe, 0x10325476, 0xc3d2e1f0⟩

def extendSchedule (words : List (BitVec 32)) : List (BitVec 32) :=
  (words.getD 2 0 ^^^ words.getD 7 0 ^^^ words.getD 13 0 ^^^ words.getD 15 0).rotateLeft 1 :: words

def roundMix (i : Nat) (b c d : BitVec 32) : BitVec 32 × BitVec 32 :=
  if i < 20 then ((b &&& c) ||| (~~~b &&& d), 0x5a827999)
  else if i < 40 then (b ^^^ c ^^^ d, 0x6ed9eba1)
  else if i < 60 then ((b &&& c) ||| (b &&& d) ||| (c &&& d), 0x8f1bbcdc)
  else (b ^^^ c ^^^ d, 0xca62c1d6)

def round (s : State) (i : Nat) (word : BitVec 32) : State :=
  let (mix, constant) := roundMix i s.b s.c s.d
  ⟨s.a.rotateLeft 5 + mix + s.e + constant + word, s.a, s.b.rotateLeft 30, s.c, s.d⟩

def compress (s : State) (block : Bytes) : State :=
  let words := (Sha2.pieces 4 16 block).map fun bs => BitVec.ofNat 32 (Bytes.toNat bs)
  let schedule := (Nat.repeat extendSchedule 64 words.reverse).reverse
  let t := schedule.zipIdx.foldl (fun t (word, i) => round t i word) s
  ⟨s.a + t.a, s.b + t.b, s.c + t.c, s.d + t.d, s.e + t.e⟩

def pad (message : Bytes) : Bytes :=
  let zeros := (64 - (message.length + 9) % 64) % 64
  message ++ 0x80 :: List.replicate zeros 0 ++ Bytes.ofNat 8 (8 * message.length)

end RelyingParty.Sha1

namespace RelyingParty

def sha1 (message : Bytes) : Bytes :=
  let padded := Sha1.pad message
  let s := (Sha2.pieces 64 (padded.length / 64) padded).foldl Sha1.compress Sha1.initial
  [s.a, s.b, s.c, s.d, s.e].flatMap fun word => Bytes.ofNat 4 word.toNat

end RelyingParty
