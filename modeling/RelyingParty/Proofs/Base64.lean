import RelyingParty.Base64

namespace RelyingParty.Base64

/-- The characters of the alphabet are read as the numbers that they are written for, and none of them is
a pad character. -/
structure Alphabet.Lawful (a : Alphabet) : Prop where
  value?_char : ∀ n < 64, a.value? (a.char n) = some n
  char_ne_pad : ∀ n < 64, a.char n ≠ padChar

theorem urlSafe_lawful : urlSafe.Lawful where
  value?_char := by decide
  char_ne_pad := by decide

theorem standard_lawful : standard.Lawful where
  value?_char := by decide
  char_ne_pad := by decide

namespace Alphabet

variable {a : Alphabet}

/-- A group of four characters has the bits of its three bytes; the last group may end early. -/
theorem decodeChars_encodeChars (h : a.Lawful) (bs : Bytes) : a.decodeChars (a.encodeChars bs) = some bs := by
  have hvalue {n : Nat} (hn : n < 64) : a.value? (a.char n) = some n := h.value?_char n hn
  induction bs using encodeChars.induct with
  | case1 => rfl
  | case2 x =>
    have hx := x.toNat_lt
    rw [encodeChars, decodeChars, hvalue (by omega), hvalue (by omega)]
    have hfirst : x.toNat / 4 * 4 + x.toNat % 4 * 16 / 16 = x.toNat := by omega
    have hspare : x.toNat % 4 * 16 % 16 = 0 := by omega
    simp only [Option.bind_eq_bind, Option.bind_some, hspare, if_true, hfirst, UInt8.ofNat_toNat]
  | case3 x y =>
    have hx := x.toNat_lt
    have hy := y.toNat_lt
    rw [encodeChars, decodeChars, hvalue (by omega), hvalue (by omega), hvalue (by omega)]
    have hfirst : x.toNat / 4 * 4 + (x.toNat % 4 * 16 + y.toNat / 16) / 16 = x.toNat := by omega
    have hsecond : (x.toNat % 4 * 16 + y.toNat / 16) % 16 * 16 + y.toNat % 16 * 4 / 4 = y.toNat := by omega
    have hspare : y.toNat % 16 * 4 % 4 = 0 := by omega
    simp only [Option.bind_eq_bind, Option.bind_some, hspare, if_true, hfirst, hsecond,
      UInt8.ofNat_toNat]
  | case4 x y z rest ih =>
    have hx := x.toNat_lt
    have hy := y.toNat_lt
    have hz := z.toNat_lt
    rw [encodeChars, decodeChars, hvalue (by omega), hvalue (by omega), hvalue (by omega),
      hvalue (by omega), ih]
    have hfirst : x.toNat / 4 * 4 + (x.toNat % 4 * 16 + y.toNat / 16) / 16 = x.toNat := by omega
    have hsecond : (x.toNat % 4 * 16 + y.toNat / 16) % 16 * 16 +
        (y.toNat % 16 * 4 + z.toNat / 64) / 4 = y.toNat := by omega
    have hthird : (y.toNat % 16 * 4 + z.toNat / 64) % 4 * 64 + z.toNat % 64 = z.toNat := by omega
    simp only [Option.bind_eq_bind, Option.bind_some, hfirst, hsecond, hthird, UInt8.ofNat_toNat]

theorem padChar_not_mem_encodeChars (h : a.Lawful) (bs : Bytes) : padChar ∉ a.encodeChars bs := by
  have hne {n : Nat} (hn : n < 64) : padChar ≠ a.char n := (h.char_ne_pad n hn).symm
  induction bs using encodeChars.induct with
  | case1 => simp [encodeChars]
  | case2 x =>
    have hx := x.toNat_lt
    simp only [encodeChars, List.mem_cons, List.not_mem_nil, not_or]
    exact ⟨hne (by omega), hne (by omega), not_false⟩
  | case3 x y =>
    have hx := x.toNat_lt
    have hy := y.toNat_lt
    simp only [encodeChars, List.mem_cons, List.not_mem_nil, not_or]
    exact ⟨hne (by omega), hne (by omega), hne (by omega), not_false⟩
  | case4 x y z rest ih =>
    have hx := x.toNat_lt
    have hy := y.toNat_lt
    have hz := z.toNat_lt
    simp only [encodeChars, List.mem_cons, not_or]
    exact ⟨hne (by omega), hne (by omega), hne (by omega), hne (by omega), ih⟩

end Alphabet

theorem trimPadding_of_not_mem {cs : List Char} (h : padChar ∉ cs) : trimPadding cs = cs := by
  have hkeep : cs.reverse.dropWhile (· == padChar) = cs.reverse := by
    cases hcs : cs.reverse with
    | nil => rfl
    | cons c rest =>
      have hmem : c ∈ cs := by rw [← List.mem_reverse, hcs]; exact List.mem_cons_self
      have hne : (c == padChar) = false := beq_eq_false_iff_ne.mpr fun heq => h (heq ▸ hmem)
      rw [List.dropWhile_cons, if_neg (by simp [hne])]
  rw [trimPadding, hkeep, List.reverse_reverse]

theorem trimPadding_append (cs : List Char) (pads : Nat) :
    trimPadding (cs ++ List.replicate pads padChar) = trimPadding cs := by
  have hpads : ∀ c ∈ List.replicate pads padChar, (c == padChar) = true :=
    fun c hc => beq_iff_eq.mpr (List.eq_of_mem_replicate hc)
  rw [trimPadding, List.reverse_append, List.reverse_replicate, List.dropWhile_append_of_pos hpads, trimPadding]

theorem decodeUrl?_encode (bs : Bytes) : decodeUrl? (urlSafe.encode bs) = some bs := by
  have hpad := Alphabet.padChar_not_mem_encodeChars urlSafe_lawful bs
  rw [decodeUrl?, Alphabet.encode, String.toList_ofList, trimPadding_of_not_mem hpad]
  exact Alphabet.decodeChars_encodeChars urlSafe_lawful bs

theorem decodeUrl?_append (s : String) (pads : Nat) :
    decodeUrl? (s ++ String.ofList (List.replicate pads padChar)) = decodeUrl? s := by
  rw [decodeUrl?, String.toList_append, String.toList_ofList, trimPadding_append, decodeUrl?]

end RelyingParty.Base64
