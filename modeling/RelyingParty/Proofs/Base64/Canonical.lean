import Mathlib.Algebra.Group.Nat.Defs
import Mathlib.Data.List.DropRight
import Mathlib.Tactic.MkIffOfInductiveProp
import RelyingParty.Proofs.Base64

namespace RelyingParty.Base64

variable {cs : List Char} {bs : Bytes} {s : String}

namespace Alphabet

variable {a : Alphabet} {c : Char} {n p q r t : Nat}

theorem value?_eq_some (h : a.value? c = some n) : n < 64 ∧ a.char n = c := by
  unfold value? at h
  split at h
  next hc =>
    have hlow : 65 ≤ c.toNat := hc.1
    have hhigh : c.toNat ≤ 90 := hc.2
    obtain rfl := Option.some.inj h
    refine ⟨by omega, ?_⟩
    rw [char, if_pos (by omega), Nat.add_sub_cancel' hlow, Char.ofNat_toNat]
  next =>
  split at h
  next hc =>
    have hlow : 97 ≤ c.toNat := hc.1
    have hhigh : c.toNat ≤ 122 := hc.2
    obtain rfl := Option.some.inj h
    refine ⟨by omega, ?_⟩
    rw [char, if_neg (by omega), if_pos (by omega), Nat.add_sub_cancel' (by omega), Char.ofNat_toNat]
  next =>
  split at h
  next hc =>
    have hlow : 48 ≤ c.toNat := hc.1
    have hhigh : c.toNat ≤ 57 := hc.2
    obtain rfl := Option.some.inj h
    refine ⟨by omega, ?_⟩
    rw [char, if_neg (by omega), if_neg (by omega), if_pos (by omega), Nat.add_sub_cancel, Char.ofNat_toNat]
  next =>
  split at h
  next hc =>
    obtain rfl := Option.some.inj h
    exact ⟨by decide, hc.symm⟩
  next =>
  split at h
  next hc =>
    obtain rfl := Option.some.inj h
    exact ⟨by decide, hc.symm⟩
  next => cases h

theorem toNat_firstByte (hp : p < 64) (hq : q < 64) :
    (UInt8.ofNat (p * 4 + q / 16)).toNat = p * 4 + q / 16 :=
  UInt8.toNat_ofNat_of_lt' (by rw [UInt8.size]; omega)

theorem toNat_secondByte (hr : r < 64) :
    (UInt8.ofNat (q % 16 * 16 + r / 4)).toNat = q % 16 * 16 + r / 4 :=
  UInt8.toNat_ofNat_of_lt' (by rw [UInt8.size]; omega)

theorem toNat_thirdByte (ht : t < 64) : (UInt8.ofNat (r % 4 * 64 + t)).toNat = r % 4 * 64 + t :=
  UInt8.toNat_ofNat_of_lt' (by rw [UInt8.size]; omega)

theorem encodeChars_of_decodeChars (h : a.decodeChars cs = some bs) : a.encodeChars bs = cs := by
  induction cs using decodeChars.induct generalizing bs with
  | case1 =>
    cases h
    rfl
  | case2 => cases h
  | case3 c d =>
    simp only [decodeChars, Option.bind_eq_bind, Option.bind_eq_some_iff] at h
    obtain ⟨p, hc, q, hd, h⟩ := h
    obtain ⟨hp, rfl⟩ := value?_eq_some hc
    obtain ⟨hq, rfl⟩ := value?_eq_some hd
    split at h
    next hspare =>
      obtain rfl := Option.some.inj h
      have hfirst : (p * 4 + q / 16) / 4 = p := by omega
      have hsecond : (p * 4 + q / 16) % 4 * 16 = q := by omega
      rw [encodeChars, toNat_firstByte hp hq, hfirst, hsecond]
    next => cases h
  | case4 c d e =>
    simp only [decodeChars, Option.bind_eq_bind, Option.bind_eq_some_iff] at h
    obtain ⟨p, hc, q, hd, r, he, h⟩ := h
    obtain ⟨hp, rfl⟩ := value?_eq_some hc
    obtain ⟨hq, rfl⟩ := value?_eq_some hd
    obtain ⟨hr, rfl⟩ := value?_eq_some he
    split at h
    next hspare =>
      obtain rfl := Option.some.inj h
      have hfirst : (p * 4 + q / 16) / 4 = p := by omega
      have hsecond : (p * 4 + q / 16) % 4 * 16 + (q % 16 * 16 + r / 4) / 16 = q := by omega
      have hthird : (q % 16 * 16 + r / 4) % 16 * 4 = r := by omega
      rw [encodeChars, toNat_firstByte hp hq, toNat_secondByte hr, hfirst, hsecond, hthird]
    next => cases h
  | case5 c d e f rest ih =>
    simp only [decodeChars, Option.bind_eq_bind, Option.bind_eq_some_iff] at h
    obtain ⟨p, hc, q, hd, r, he, t, hf, tail, htail, h⟩ := h
    obtain ⟨hp, rfl⟩ := value?_eq_some hc
    obtain ⟨hq, rfl⟩ := value?_eq_some hd
    obtain ⟨hr, rfl⟩ := value?_eq_some he
    obtain ⟨ht, rfl⟩ := value?_eq_some hf
    obtain rfl := Option.some.inj h
    have hfirst : (p * 4 + q / 16) / 4 = p := by omega
    have hsecond : (p * 4 + q / 16) % 4 * 16 + (q % 16 * 16 + r / 4) / 16 = q := by omega
    have hthird : (q % 16 * 16 + r / 4) % 16 * 4 + (r % 4 * 64 + t) / 64 = r := by omega
    have hfourth : (r % 4 * 64 + t) % 64 = t := by omega
    rw [encodeChars, toNat_firstByte hp hq, toNat_secondByte hr, toNat_thirdByte ht, hfirst, hsecond, hthird,
      hfourth, ih htail]

/-- The text that is read as a byte string is the one that is written for it. -/
theorem Lawful.decodeChars_eq_some (h : a.Lawful) :
    a.decodeChars cs = some bs ↔ cs = a.encodeChars bs := by
  constructor
  · intro hread
    exact (encodeChars_of_decodeChars hread).symm
  · rintro rfl
    exact decodeChars_encodeChars h bs

theorem Lawful.encodeChars_inj (h : a.Lawful) {other : Bytes} (heq : a.encodeChars bs = a.encodeChars other) :
    bs = other := by
  have hread := decodeChars_encodeChars h bs
  rw [heq, decodeChars_encodeChars h other] at hread
  exact (Option.some.inj hread).symm

/-- What is wrong with a text without padding: a character that is none of the alphabet, a single character
in the last group, or a last character with a bit that belongs to no byte. -/
@[mk_iff]
inductive Fault (a : Alphabet) (cs : List Char) : Prop
  | foreign {c : Char} (hmem : c ∈ cs) (hvalue : a.value? c = none)
  | length (h : cs.length % 4 = 1)
  | spare {c : Char} {n : Nat} (hlast : cs.getLast? = some c) (hvalue : a.value? c = some n)
    (h : n % 2 ^ (6 * cs.length % 8) ≠ 0)

theorem fault_group {c d e f : Char} {rest : List Char} : a.Fault (c :: d :: e :: f :: rest) ↔
    a.value? c = none ∨ a.value? d = none ∨ a.value? e = none ∨ a.value? f = none ∨ a.Fault rest := by
  have hlength : (c :: d :: e :: f :: rest).length = rest.length + 4 := rfl
  constructor
  · rintro (⟨hmem, hvalue⟩ | h | ⟨hlast, hvalue, h⟩)
    · simp only [List.mem_cons] at hmem
      obtain rfl | rfl | rfl | rfl | hmem := hmem
      · exact .inl hvalue
      · exact .inr (.inl hvalue)
      · exact .inr (.inr (.inl hvalue))
      · exact .inr (.inr (.inr (.inl hvalue)))
      · exact .inr (.inr (.inr (.inr (.foreign hmem hvalue))))
    · rw [hlength, Nat.add_mod_right] at h
      exact .inr (.inr (.inr (.inr (.length h))))
    · have hbits : 6 * (rest.length + 4) % 8 = 6 * rest.length % 8 := by omega
      rw [hlength, hbits] at h
      cases rest with
      | nil => exact absurd (Nat.mod_one _) h
      | cons => exact .inr (.inr (.inr (.inr (.spare hlast hvalue h))))
  · rintro (h | h | h | h | ⟨hmem, hvalue⟩ | h | ⟨hlast, hvalue, h⟩)
    · exact .foreign (by simp) h
    · exact .foreign (by simp) h
    · exact .foreign (by simp) h
    · exact .foreign (by simp) h
    · exact .foreign (by simp [hmem]) hvalue
    · exact .length (by rw [hlength, Nat.add_mod_right, h])
    · have hbits : 6 * (rest.length + 4) % 8 = 6 * rest.length % 8 := by omega
      cases rest with
      | nil => cases hlast
      | cons => exact .spare hlast hvalue (by rw [hlength, hbits]; exact h)

theorem decodeChars_eq_none : a.decodeChars cs = none ↔ a.Fault cs := by
  induction cs using decodeChars.induct with
  | case1 => simp [decodeChars, fault_iff]
  | case2 c => simp [decodeChars, fault_iff]
  | case3 c d =>
    cases hc : a.value? c <;> cases hd : a.value? d <;> simp [decodeChars, fault_iff, hc, hd]
  | case4 c d e =>
    cases hc : a.value? c <;> cases hd : a.value? d <;> cases he : a.value? e <;>
      simp [decodeChars, fault_iff, hc, hd, he]
  | case5 c d e f rest ih =>
    rw [fault_group, ← ih]
    cases hrest : a.decodeChars rest <;> cases hc : a.value? c <;> cases hd : a.value? d <;>
      cases he : a.value? e <;> cases hf : a.value? f <;> simp [decodeChars, hrest, hc, hd, he, hf]

end Alphabet

theorem trimPadding_eq_rdropWhile (cs : List Char) : trimPadding cs = cs.rdropWhile (· == padChar) := rfl

theorem exists_trimPadding_append (cs : List Char) :
    ∃ pads, cs = trimPadding cs ++ List.replicate pads padChar := by
  have hpad : ∀ c ∈ cs.rtakeWhile (· == padChar), c = padChar := fun c hc =>
    beq_iff_eq.mp (List.mem_rtakeWhile_imp (p := (· == padChar)) hc)
  refine ⟨(cs.rtakeWhile (· == padChar)).length, ?_⟩
  rw [trimPadding_eq_rdropWhile, ← List.eq_replicate_of_mem hpad, List.rdropWhile_append_rtakeWhile]

theorem mem_trimPadding {c : Char} (hmem : c ∈ cs) (hne : c ≠ padChar) : c ∈ trimPadding cs := by
  obtain ⟨pads, hcs⟩ := exists_trimPadding_append cs
  rw [hcs] at hmem
  obtain hmem | hpad := List.mem_append.mp hmem
  · exact hmem
  · exact absurd (List.eq_of_mem_replicate hpad) hne

/-- The pads that are trimmed are all behind the character, so one before it stays. -/
theorem padChar_mem_trimPadding {c : Char} {before after : List Char} (hcs : cs = before ++ padChar :: after)
    (hmem : c ∈ after) (hne : c ≠ padChar) : padChar ∈ trimPadding cs := by
  obtain ⟨pads, hpads⟩ := exists_trimPadding_append cs
  have hnot : c ∉ List.replicate pads padChar := fun hc => hne (List.eq_of_mem_replicate hc)
  obtain ⟨middle, _, heq⟩ | ⟨middle, heq, htail⟩ := List.append_eq_append_iff.mp (hpads.symm.trans hcs)
  · exact absurd (by rw [heq]; simp [hmem]) hnot
  · cases middle with
    | nil => exact absurd (by rw [← List.nil_append (List.replicate _ _), ← htail]; simp [hmem]) hnot
    | cons d middle =>
      obtain ⟨rfl, _⟩ := List.cons.inj htail
      rw [heq]
      exact List.mem_append_right _ List.mem_cons_self

theorem trimPadding_encodeChars {a : Alphabet} (h : a.Lawful) (bs : Bytes) (pads : Nat) :
    trimPadding (a.encodeChars bs ++ List.replicate pads padChar) = a.encodeChars bs := by
  rw [trimPadding_append, trimPadding_of_not_mem (Alphabet.padChar_not_mem_encodeChars h bs)]

theorem decodeUrl?_eq_some : decodeUrl? s = some bs ↔ trimPadding s.toList = urlSafe.encodeChars bs :=
  urlSafe_lawful.decodeChars_eq_some

theorem decodeUrl?_eq_none : decodeUrl? s = none ↔ urlSafe.Fault (trimPadding s.toList) :=
  Alphabet.decodeChars_eq_none

theorem decodeStandard?_eq_some : decodeStandard? s = some bs ↔ s.toList = standard.encodePaddedChars bs := by
  rw [decodeStandard?, Alphabet.encodePaddedChars]
  constructor
  · intro h
    split at h
    next hpadded =>
      obtain hdigits := standard_lawful.decodeChars_eq_some.mp h
      rw [hpadded, hdigits]
    next => cases h
  · intro h
    have hdigits : trimPadding s.toList = standard.encodeChars bs := by
      rw [h]
      exact trimPadding_encodeChars standard_lawful bs _
    rw [hdigits, if_pos h]
    exact Alphabet.decodeChars_encodeChars standard_lawful bs

end RelyingParty.Base64
