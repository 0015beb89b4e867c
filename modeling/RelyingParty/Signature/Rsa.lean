import RelyingParty.Hash.Function
import RelyingParty.Number.Modular

namespace RelyingParty.Rsa

inductive KeyFault where
  | invalidModulus
  | invalidExponent
  | modulusTooLarge
  | exponentTooSmall
  | exponentTooLarge
  deriving DecidableEq

def KeyFault.message : KeyFault → String
  | invalidModulus => "invalid modulus"
  | invalidExponent => "invalid exponent"
  | modulusTooLarge => "modulus too large"
  | exponentTooSmall => "public exponent too small"
  | exponentTooLarge => "public exponent too large"

structure Key where
  modulus : Nat
  exponent : Nat

def bitLength (n : Nat) : Nat := if n = 0 then 0 else n.log2 + 1

/-- The key of two numbers. The modulus is odd, has at most 4096 bits and is above the exponent,
which is odd and between 2 and `2^33`. -/
def Key.ofNumbers (modulus exponent : Nat) : Except KeyFault Key :=
  if 4096 < bitLength modulus then .error .modulusTooLarge
  else if UInt64.size ≤ exponent then .error .exponentTooLarge
  else if modulus ≤ exponent ∨ modulus % 2 = 0 then .error .invalidModulus
  else if exponent % 2 = 0 then .error .invalidExponent
  else if exponent < 2 then .error .exponentTooSmall
  else if 1 <<< 33 ≤ exponent then .error .exponentTooLarge
  else .ok ⟨modulus, exponent⟩

def Key.size (key : Key) : Nat := (bitLength key.modulus + 7) / 8

/-- What the power of a signature is, in as many bytes as the modulus has. A signature has that
length too and writes a number below the modulus. -/
def open? (key : Key) (signature : Bytes) : Option Bytes :=
  let s := Bytes.toNat signature
  if signature.length = key.size ∧ s < key.modulus then
    some (Bytes.ofNat key.size (Modular.pow key.modulus s key.exponent))
  else none

def padded? (size : Nat) (marked : Bytes) : Option Bytes :=
  if marked.length + 11 ≤ size then
    some ([0x00, 0x01] ++ List.replicate (size - marked.length - 3) 0xff ++ [0x00] ++ marked)
  else none

def verify (key : Key) (hash : HashFunction) (message signature : Bytes) : Bool :=
  match open? key signature, padded? key.size (hash.mark ++ hash.digest message) with
  | some opened, some expected => opened == expected
  | _, _ => false

/-- A mask of at least `length` bytes made from a seed: the digests of the seed with a counter. -/
def mask (hash : HashFunction) (seed : Bytes) (length : Nat) : Bytes :=
  (List.range ((length + hash.length - 1) / hash.length)).flatMap fun i =>
    hash.digest (seed ++ Bytes.ofNat 4 i)

def salt? (hash : HashFunction) (block : Bytes) : Option Bytes :=
  match block.dropWhile (· == 0) with
  | 0x01 :: salt => if salt.length = hash.length then some salt else none
  | _ => none

/-- Whether `signature` is one of `message` with its digest salted by as many bytes as a digest has.
The opened signature is one bit shorter than the modulus. -/
def verifySalted (key : Key) (hash : HashFunction) (message signature : Bytes) : Bool :=
  match open? key signature with
  | none => false
  | some opened =>
    let bits := bitLength key.modulus - 1
    let encoded := opened.drop (key.size - (bits + 7) / 8)
    let blockLength := encoded.length - hash.length - 1
    let block := encoded.take blockLength
    let digest := (encoded.drop blockLength).take hash.length
    let blockNumber := Bytes.toNat block
    let blockBits := bits - 8 * (hash.length + 1)
    let unmasked := blockNumber ^^^ Bytes.toNat ((mask hash digest blockLength).take blockLength)
    Bytes.toNat opened < 1 <<< bits && hash.length + 1 ≤ encoded.length
      && encoded.getLast? == some 0xbc && blockNumber < 1 <<< blockBits
      && (salt? hash (Bytes.ofNat blockLength (unmasked % (1 <<< blockBits)))).any fun salt =>
        hash.digest (List.replicate 8 0 ++ hash.digest message ++ salt) == digest

end RelyingParty.Rsa
