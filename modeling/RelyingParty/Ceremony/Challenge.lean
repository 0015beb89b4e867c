import RelyingParty.Bytes

namespace RelyingParty.Challenge

def defaultLength : Nat := 32

def draw (length : Nat) (random : Nat → UInt8) : Bytes :=
  (List.range length).map random

end RelyingParty.Challenge
