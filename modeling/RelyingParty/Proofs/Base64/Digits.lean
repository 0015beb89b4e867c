import Mathlib.Data.Nat.Digits.Defs
import RelyingParty.Proofs.Base64.Canonical
import RelyingParty.Text.Parts

namespace RelyingParty

variable {base : Nat}

theorem numberOf_eq_ofDigits (base : Nat) (digits : List Nat) :
    numberOf base digits = Nat.ofDigits base digits.reverse := by
  rw [Nat.ofDigits_eq_foldr, List.foldr_reverse, numberOf]
  simp only [Nat.cast_id, Nat.mul_comm base, Nat.add_comm]

theorem numberOf_append (base : Nat) (digits more : List Nat) :
    numberOf base (digits ++ more) = numberOf base digits * base ^ more.length + numberOf base more := by
  rw [numberOf_eq_ofDigits, List.reverse_append, Nat.ofDigits_append, List.length_reverse,
    ← numberOf_eq_ofDigits, ← numberOf_eq_ofDigits, Nat.add_comm, Nat.mul_comm]

theorem numberOf_inj (hbase : 1 < base) {digits digits' : List Nat} (hlength : digits.length = digits'.length)
    (hlt : ∀ d ∈ digits, d < base) (hlt' : ∀ d ∈ digits', d < base)
    (h : numberOf base digits = numberOf base digits') : digits = digits' := by
  rw [numberOf_eq_ofDigits, numberOf_eq_ofDigits] at h
  refine List.reverse_inj.mp (Nat.ofDigits_inj_of_len_eq hbase ?_ ?_ ?_ h)
  · rw [List.length_reverse, List.length_reverse, hlength]
  · exact fun d hd => hlt d (List.mem_reverse.mp hd)
  · exact fun d hd => hlt' d (List.mem_reverse.mp hd)

theorem Bytes.toNat_append (bs more : Bytes) :
    toNat (bs ++ more) = toNat bs * 256 ^ more.length + toNat more := by
  have hnumber (bs : Bytes) : toNat bs = numberOf 256 (bs.map UInt8.toNat) := by
    rw [toNat, numberOf, List.foldl_map]
  rw [hnumber, hnumber bs, hnumber more, List.map_append, numberOf_append, List.length_map]

namespace Base64

variable {cs : List Char} {bs bs' : Bytes} {digits : List Nat}

def sextets : Bytes → List Nat
  | [] => []
  | [x] => [x.toNat / 4, x.toNat % 4 * 16]
  | [x, y] => [x.toNat / 4, x.toNat % 4 * 16 + y.toNat / 16, y.toNat % 16 * 4]
  | x :: y :: z :: rest =>
    [x.toNat / 4, x.toNat % 4 * 16 + y.toNat / 16, y.toNat % 16 * 4 + z.toNat / 64, z.toNat % 64]
      ++ sextets rest

theorem encodeChars_eq_map (a : Alphabet) (bs : Bytes) : a.encodeChars bs = (sextets bs).map a.char := by
  induction bs using sextets.induct with
  | case1 => rfl
  | case2 => rfl
  | case3 => rfl
  | case4 x y z rest ih =>
    rw [Alphabet.encodeChars, ih, sextets, List.map_append]
    rfl

theorem length_sextets (bs : Bytes) : (sextets bs).length = (8 * bs.length + 5) / 6 := by
  induction bs using sextets.induct with
  | case1 => rfl
  | case2 => simp [sextets]
  | case3 => simp [sextets]
  | case4 x y z rest ih =>
    simp only [sextets, List.length_append, List.length_cons, List.length_nil, ih]
    omega

theorem sextets_lt (bs : Bytes) : ∀ d ∈ sextets bs, d < 64 := by
  induction bs using sextets.induct with
  | case1 => nofun
  | case2 x =>
    have hx := x.toNat_lt
    simp only [sextets, List.forall_mem_cons]
    exact ⟨by omega, by omega, nofun⟩
  | case3 x y =>
    have hx := x.toNat_lt
    have hy := y.toNat_lt
    simp only [sextets, List.forall_mem_cons]
    exact ⟨by omega, by omega, by omega, nofun⟩
  | case4 x y z rest ih =>
    have hx := x.toNat_lt
    have hy := y.toNat_lt
    have hz := z.toNat_lt
    simp only [sextets, List.forall_mem_append, List.forall_mem_cons]
    exact ⟨⟨by omega, by omega, by omega, by omega, nofun⟩, ih⟩

/-- The group of three bytes is worth as much as its four digits, and what follows is shifted by as many bits
as the digits have more than the bytes. -/
theorem numberOf_sextets (bs : Bytes) :
    numberOf 64 (sextets bs) = Bytes.toNat bs * 2 ^ (6 * (sextets bs).length - 8 * bs.length) := by
  induction bs using sextets.induct with
  | case1 => rfl
  | case2 x =>
    simp only [sextets, numberOf, Bytes.toNat, List.foldl_cons, List.foldl_nil, List.length_cons,
      List.length_nil]
    omega
  | case3 x y =>
    simp only [sextets, numberOf, Bytes.toNat, List.foldl_cons, List.foldl_nil, List.length_cons,
      List.length_nil]
    omega
  | case4 x y z rest ih =>
    have hlength := length_sextets rest
    have hgroup : numberOf 64 [x.toNat / 4, x.toNat % 4 * 16 + y.toNat / 16, y.toNat % 16 * 4 + z.toNat / 64,
        z.toNat % 64] = Bytes.toNat [x, y, z] := by
      simp only [numberOf, Bytes.toNat, List.foldl_cons, List.foldl_nil]
      omega
    have hdigits : 64 ^ (sextets rest).length =
        256 ^ rest.length * 2 ^ (6 * (sextets rest).length - 8 * rest.length) := by
      rw [show 64 = 2 ^ 6 from rfl, show 256 = 2 ^ 8 from rfl, ← Nat.pow_mul, ← Nat.pow_mul, ← Nat.pow_add]
      congr 1
      omega
    have hspare : 6 * (sextets (x :: y :: z :: rest)).length - 8 * (x :: y :: z :: rest).length =
        6 * (sextets rest).length - 8 * rest.length := by
      simp only [sextets, List.length_append, List.length_cons, List.length_nil]
      omega
    have hbytes : x :: y :: z :: rest = [x, y, z] ++ rest := rfl
    rw [hspare, hbytes, Bytes.toNat_append, ← hbytes, sextets, numberOf_append, hgroup, hdigits, ih, Nat.add_mul,
      Nat.mul_assoc]

/-- Digits that hold the bits of bytes: as many as the bits take, and the number of the bytes with as many zero
bits behind it as are left over. -/
structure Packs (bs : Bytes) (digits : List Nat) : Prop where
  length : digits.length = (8 * bs.length + 5) / 6
  lt : ∀ d ∈ digits, d < 64
  number : numberOf 64 digits = Bytes.toNat bs * 2 ^ (6 * digits.length - 8 * bs.length)

theorem packs_iff : Packs bs digits ↔ digits = sextets bs := by
  constructor
  · intro h
    have hlength := h.length.trans (length_sextets bs).symm
    refine numberOf_inj (by decide) hlength h.lt (sextets_lt bs) ?_
    rw [h.number, numberOf_sextets, hlength]
  · rintro rfl
    exact ⟨length_sextets bs, sextets_lt bs, numberOf_sextets bs⟩

theorem encodeChars_iff (a : Alphabet) :
    cs = a.encodeChars bs ↔ ∃ digits, Packs bs digits ∧ cs = digits.map a.char := by
  simp only [encodeChars_eq_map, packs_iff, exists_eq_left]

theorem urlSafe_value?_standard_char :
    ∀ n < 64, urlSafe.value? (standard.char n) = if n < 62 then some n else none := by
  decide

theorem digits_eq_of_chars_eq {digits digits' : List Nat} (hlt : ∀ d ∈ digits, d < 64)
    (hlt' : ∀ d ∈ digits', d < 64) (h : digits.map standard.char = digits'.map urlSafe.char) :
    digits = digits' := by
  induction digits generalizing digits' with
  | nil => exact (List.map_eq_nil_iff.mp h.symm).symm
  | cons d digits ih =>
    obtain ⟨d', digits', rfl, hchar, hrest⟩ := List.map_eq_cons_iff.mp h.symm
    obtain ⟨hd, hlt⟩ := List.forall_mem_cons.mp hlt
    obtain ⟨hd', hlt'⟩ := List.forall_mem_cons.mp hlt'
    have hvalue := urlSafe_lawful.value?_char d' hd'
    rw [hchar, urlSafe_value?_standard_char d hd] at hvalue
    split at hvalue
    next => rw [Option.some.inj hvalue, ih hlt hlt' hrest.symm]
    next => cases hvalue

theorem decodeChars_agree (h : standard.decodeChars cs = some bs) (h' : urlSafe.decodeChars cs = some bs') :
    bs = bs' := by
  have hchars := Alphabet.encodeChars_of_decodeChars h
  rw [← Alphabet.encodeChars_of_decodeChars h', encodeChars_eq_map, encodeChars_eq_map] at hchars
  have hdigits := digits_eq_of_chars_eq (sextets_lt bs) (sextets_lt bs') hchars
  apply urlSafe_lawful.encodeChars_inj
  rw [encodeChars_eq_map, encodeChars_eq_map, hdigits]

end Base64

end RelyingParty
