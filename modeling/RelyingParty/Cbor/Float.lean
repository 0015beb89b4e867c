namespace RelyingParty.Cbor

structure FloatFormat where
  exponentBits : Nat
  fractionBits : Nat

namespace FloatFormat

def half : FloatFormat := ⟨5, 10⟩
def single : FloatFormat := ⟨8, 23⟩
def double : FloatFormat := ⟨11, 52⟩

def specialExponent (f : FloatFormat) : Nat := (1 <<< f.exponentBits) - 1

def bias (f : FloatFormat) : Nat := (1 <<< (f.exponentBits - 1)) - 1

def sign (f : FloatFormat) (bits : Nat) : Nat := bits / (1 <<< (f.exponentBits + f.fractionBits)) % 2
def exponent (f : FloatFormat) (bits : Nat) : Nat :=
  bits / (1 <<< f.fractionBits) % (1 <<< f.exponentBits)
def fraction (f : FloatFormat) (bits : Nat) : Nat := bits % (1 <<< f.fractionBits)

def pack (f : FloatFormat) (sign exponent fraction : Nat) : Nat :=
  (sign * (1 <<< f.exponentBits) + exponent) * (1 <<< f.fractionBits) + fraction

/-- The double with the same value. A NaN keeps the leading bits of its fraction and becomes quiet. -/
def widen (f : FloatFormat) (bits : Nat) : Nat :=
  let sign := f.sign bits
  let exponent := f.exponent bits
  let fraction := f.fraction bits
  let shift := double.fractionBits - f.fractionBits
  if exponent = f.specialExponent then
    let quiet := if fraction = 0 then 0 else fraction ||| (1 <<< (f.fractionBits - 1))
    double.pack sign double.specialExponent (quiet * (1 <<< shift))
  else if exponent ≠ 0 then
    double.pack sign (exponent + double.bias - f.bias) (fraction * (1 <<< shift))
  else if fraction = 0 then
    double.pack sign 0 0
  else
    -- a subnormal number: its leading bit becomes the implicit one
    let top := fraction.log2
    double.pack sign (double.bias + 1 + top - f.bias - f.fractionBits)
      ((fraction - (1 <<< top)) * (1 <<< (double.fractionBits - top)))

/-- A candidate for the narrow form of a double, right whenever there is one. -/
def narrow (f : FloatFormat) (bits : Nat) : Nat :=
  let sign := double.sign bits
  let exponent := double.exponent bits
  let fraction := double.fraction bits
  let shift := double.fractionBits - f.fractionBits
  if exponent = double.specialExponent then
    f.pack sign f.specialExponent (fraction / (1 <<< shift))
  else if double.bias - f.bias < exponent ∧ exponent - (double.bias - f.bias) < f.specialExponent then
    f.pack sign (exponent - (double.bias - f.bias)) (fraction / (1 <<< shift))
  else if exponent ≤ double.bias - f.bias ∧ exponent ≠ 0 then
    let lost := shift + 1 + (double.bias - f.bias - exponent)
    f.pack sign 0 (((1 <<< double.fractionBits) + fraction) / (1 <<< lost))
  else
    f.pack sign 0 0

def narrow? (f : FloatFormat) (bits : Nat) : Option Nat :=
  if f.widen (f.narrow bits) = bits then some (f.narrow bits) else none

end FloatFormat

end RelyingParty.Cbor
