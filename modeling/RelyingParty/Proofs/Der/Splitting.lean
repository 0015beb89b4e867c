import Mathlib.Data.List.Induction
import RelyingParty.Proofs.Der.Nesting

namespace RelyingParty

namespace Bytes

/-- The number of a byte string as a machine word gathers it: the word is shifted by a byte, and the next
byte takes the place that became free. -/
def gather (bs : Bytes) : UInt64 :=
  bs.foldl (fun word b => word <<< 8 ||| b.toUInt64) 0

theorem toNat_shift_or {word : UInt64} {b : UInt8} (h : word.toNat < Nat.pow 256 7) :
    (word <<< 8 ||| b.toUInt64).toNat = word.toNat * 256 + b.toNat := by
  have hb : b.toNat < 2 ^ 8 := b.toNat_lt
  have hfits : word.toNat <<< 8 < 2 ^ 64 := by
    have hmul : word.toNat * 2 ^ 8 < Nat.pow 256 7 * 2 ^ 8 := Nat.mul_lt_mul_of_pos_right h (by decide)
    rwa [Nat.shiftLeft_eq]
  rw [UInt64.toNat_or, UInt64.toNat_shiftLeft, UInt8.toNat_toUInt64]
  change word.toNat <<< 8 % 2 ^ 64 ||| b.toNat = _
  rw [Nat.mod_eq_of_lt hfits, ← Nat.shiftLeft_add_eq_or_of_lt hb, Nat.shiftLeft_eq]

/-- A word has room for eight bytes. -/
theorem toNat_gather {bs : Bytes} (h : bs.length ≤ 8) : (gather bs).toNat = toNat bs := by
  induction bs using List.reverseRecOn with
  | nil => rfl
  | append_singleton bs b ih =>
    rw [List.length_append, List.length_singleton] at h
    have hgathered := ih (by omega)
    have hroom : toNat bs < Nat.pow 256 7 :=
      Nat.lt_of_lt_of_le (toNat_lt bs) (Nat.pow_le_pow_right (by decide) (by omega))
    rw [gather, List.foldl_append, List.foldl_cons, List.foldl_nil, ← gather,
      toNat_shift_or (hgathered ▸ hroom), hgathered, toNat_append_singleton]

end Bytes

namespace Der

variable {bs rest rest' w w' : Bytes} {e e' : Element} {n : Nat}

/-- A long length is the one that a word gathers from its digits. -/
theorem IsLength.gather {count : UInt8} {digits : Bytes} (h : IsLength n (count :: digits))
    (hcount : 0x80 ≤ count.toNat) : (Bytes.gather digits).toNat = n := by
  cases h with
  | short hshort => exact absurd hcount (Nat.not_le_of_lt hshort)
  | long _ _ hhigh => exact Bytes.toNat_gather (by omega)

theorem IsLength.lt (h : IsLength n w) : n < 0x100000000 := by
  cases h with
  | short hshort => omega
  | @long _ digits _ _ hhigh =>
    have hdigits := Bytes.toNat_lt digits
    have hpow : Nat.pow 256 digits.length ≤ Nat.pow 256 4 := Nat.pow_le_pow_right (by decide) hhigh
    exact Nat.lt_of_lt_of_le hdigits hpow

theorem isElement_iff {tag : UInt8} {content : Bytes} : IsElement ⟨tag, content⟩ w ↔
    tag &&& 0x1f ≠ 0x1f ∧ ∃ field, IsLength content.length field ∧ w = tag :: (field ++ content) := by
  constructor
  · rintro ⟨htag, hfield⟩
    exact ⟨htag, _, hfield, rfl⟩
  · rintro ⟨htag, field, hfield, rfl⟩
    exact .element htag hfield

theorem IsElement.split_unique (h : IsElement e w) (h' : IsElement e' w') (heq : w ++ rest = w' ++ rest') :
    e = e' ∧ w = w' ∧ rest = rest' := by
  have hread : Element.read? (w ++ rest) = some (e, rest) := Element.read?_eq_some.mpr ⟨w, h, rfl⟩
  have hread' : Element.read? (w ++ rest) = some (e', rest') := Element.read?_eq_some.mpr ⟨w', h', heq⟩
  obtain ⟨rfl, rfl⟩ := Prod.mk.inj (Option.some.inj (hread.symm.trans hread'))
  exact ⟨rfl, List.append_cancel_right heq, rfl⟩

theorem Element.read?_append (h : Element.read? bs = some (e, rest)) (more : Bytes) :
    Element.read? (bs ++ more) = some (e, rest ++ more) := by
  obtain ⟨w, hw, rfl⟩ := Element.read?_eq_some.mp h
  exact Element.read?_eq_some.mpr ⟨w, hw, by rw [List.append_assoc]⟩

theorem Element.read?_length (h : Element.read? bs = some (e, rest)) :
    e.content.length + rest.length + 2 ≤ bs.length := by
  obtain ⟨w, hw, rfl⟩ := Element.read?_eq_some.mp h
  have hlength := hw.length_content
  rw [List.length_append]
  omega

/-- The descent to an octet string, given up after a number of steps. -/
def Element.octetsWithin : (steps : Nat) → Element → Option Bytes
  | 0, _ => none
  | steps + 1, e =>
    if e.tag = octetStringTag then some e.content
    else if isConstructed e.tag then
      match Element.read? e.content with
      | some (inner, _) => inner.octetsWithin steps
      | none => none
    else none

/-- Every step inwards takes two bytes, so that a descent has no more steps than half of them and one. -/
theorem Element.octetsWithin_eq (h : e.content.length < 2 * n) : e.octetsWithin n = e.octets? := by
  induction n generalizing e with
  | zero => omega
  | succ steps ih =>
    rw [Element.octetsWithin, Element.octets?]
    split
    next => rfl
    next =>
      split
      next =>
        split
        next inner rest found =>
          have hinner := Element.read?_length found
          have hsteps : inner.octetsWithin steps = inner.octets? := ih (by omega)
          split
          next found' =>
            rw [found] at found'
            cases found'
            exact hsteps
          next found' => cases found.symm.trans found'
        next found =>
          split
          next found' => cases found.symm.trans found'
          next => rfl
      next => rfl

/-- An element is read exactly where a byte string begins with its tag, a length field in one of its forms
and its content, and what follows them is the rest. There is one such split at most, further bytes are only
added to the rest, and the content is shorter than the byte string: by two bytes for every step of a
descent, which therefore ends. -/
theorem read_splits_exactly (bs : Bytes) :
    (∀ tag content rest, Element.read? bs = some (⟨tag, content⟩, rest) ↔
      tag &&& 0x1f ≠ 0x1f ∧ ∃ field, IsLength content.length field ∧
        bs = tag :: (field ++ (content ++ rest))) ∧
    (∀ count digits n, 0x80 ≤ count.toNat → IsLength n (count :: digits) →
      (Bytes.gather digits).toNat = n ∧ n < 0x100000000) ∧
    (∀ e e' w w' rest rest', IsElement e w → IsElement e' w' → bs = w ++ rest → bs = w' ++ rest' →
      e = e' ∧ w = w' ∧ rest = rest') ∧
    (∀ e rest, Element.read? bs = some (e, rest) →
      (∀ more, Element.read? (bs ++ more) = some (e, rest ++ more)) ∧ e.content.length < bs.length) ∧
    ∀ tag steps, bs.length < 2 * steps →
      Element.octetsWithin steps ⟨tag, bs⟩ = Element.octets? ⟨tag, bs⟩ := by
  refine ⟨fun tag content rest => ?_, fun count digits n hcount hfield => ?_, ?_, fun e rest h => ?_, ?_⟩
  · rw [Element.read?_eq_some]
    constructor
    · rintro ⟨w, hw, rfl⟩
      obtain ⟨htag, field, hfield, rfl⟩ := isElement_iff.mp hw
      exact ⟨htag, field, hfield, by simp⟩
    · rintro ⟨htag, field, hfield, rfl⟩
      exact ⟨_, .element htag hfield, by simp⟩
  · exact ⟨hfield.gather hcount, hfield.lt⟩
  · rintro e e' w w' rest rest' h h' rfl heq
    exact h.split_unique h' heq
  · have hlength := Element.read?_length h
    exact ⟨Element.read?_append h, by omega⟩
  · intro tag steps hsteps
    exact Element.octetsWithin_eq hsteps

def sampleSplit : Bytes := [0x30, 0x82, 0x00, 0x03, 0x04, 0x01, 0xaa, 0xff]

theorem read_splits_exactly_sample :
    Element.read? sampleSplit = some (⟨0x30, [0x04, 0x01, 0xaa]⟩, [0xff]) ∧
    Element.read? (sampleSplit ++ [0x00]) = some (⟨0x30, [0x04, 0x01, 0xaa]⟩, [0xff, 0x00]) ∧
    ((Bytes.gather [0x00, 0x03]).toNat = 3 ∧ 3 < 0x100000000) ∧
    IsElement ⟨0x30, [0x04, 0x01, 0xaa]⟩ (sampleSplit.take 7) ∧
    (∀ e w rest, IsElement e w → sampleSplit = w ++ rest → w = sampleSplit.take 7) ∧
    Element.octetsWithin 5 ⟨0x30, sampleSplit⟩ = Element.octets? ⟨0x30, sampleSplit⟩ := by
  obtain ⟨hexactly, hgathered, hunique, hlonger, hdescent⟩ := read_splits_exactly sampleSplit
  have hfield : IsLength 3 [0x82, 0x00, 0x03] := @IsLength.long 0x82 [0x00, 0x03] rfl (by decide) (by decide)
  have hread := (hexactly 0x30 [0x04, 0x01, 0xaa] [0xff]).mpr ⟨by decide, _, hfield, rfl⟩
  have helement : IsElement ⟨0x30, [0x04, 0x01, 0xaa]⟩ (sampleSplit.take 7) :=
    isElement_iff.mpr ⟨by decide, _, hfield, rfl⟩
  refine ⟨hread, (hlonger _ _ hread).1 _, hgathered _ _ _ (by decide) hfield, helement, ?_, ?_⟩
  · intro e w rest hw heq
    exact (hunique _ _ _ _ _ [0xff] hw helement heq rfl).2.1
  · exact hdescent _ _ (by decide)

end Der

end RelyingParty
