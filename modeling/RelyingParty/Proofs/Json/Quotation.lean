import RelyingParty.Proofs.Json.Grammar
import RelyingParty.Proofs.Text

namespace RelyingParty.Json

variable {w : Bytes}

/-- Between quotes the bytes `front` are read as the bytes `text`, whatever stands after them. -/
def Spells (front text : Bytes) : Prop :=
  ∃ pieces,
    (∀ more, readPieces (front ++ more) = (readPieces more).map fun p => (pieces ++ p.1, p.2)) ∧
    ∀ others, piecesBytes? none (pieces ++ others) = (piecesBytes? none others).map (text ++ ·)

theorem spells_nil : Spells [] [] :=
  ⟨[], fun more => by simp, fun others => by simp⟩

theorem Spells.append {front text front' text' : Bytes} (h : Spells front text)
    (h' : Spells front' text') : Spells (front ++ front') (text ++ text') := by
  obtain ⟨pieces, hread, hbytes⟩ := h
  obtain ⟨pieces', hread', hbytes'⟩ := h'
  refine ⟨pieces ++ pieces', ?_, ?_⟩
  · intro more
    rw [List.append_assoc, hread, hread', Option.map_map]
    simp only [Function.comp_def, List.append_assoc]
  · intro others
    rw [List.append_assoc, hbytes, hbytes', Option.map_map]
    simp only [Function.comp_def, List.append_assoc]

theorem spells_plain {b : UInt8} (h : IsPlain b) : Spells [b] [b] := by
  obtain ⟨hquote, hslash, hcontrol⟩ := h
  refine ⟨[.byte b], ?_, fun others => rfl⟩
  intro more
  rw [List.singleton_append, readPieces.eq_def]
  split
  next heq => cases heq
  next heq => exact absurd (List.cons.inj heq).1 hquote
  next heq => exact absurd (List.cons.inj heq).1 hslash
  next heq => exact absurd (List.cons.inj heq).1 hslash
  next heq =>
    obtain ⟨rfl, rfl⟩ := List.cons.inj heq
    rw [if_neg (not_or.mpr ⟨hcontrol, hslash⟩)]
    cases readPieces more <;> rfl

theorem spells_escape {e b : UInt8} (h : escapedByte? e = some b) : Spells [0x5c, e] [b] := by
  have hnumeric : e ≠ 0x75 := by
    rintro rfl
    cases h
  refine ⟨[.byte b], ?_, fun others => rfl⟩
  intro more
  rw [List.cons_append, List.singleton_append, readPieces.eq_def]
  split
  next heq => cases heq
  next heq => cases heq
  next heq => exact absurd (List.cons.inj (List.cons.inj heq).2).1 hnumeric
  next heq =>
    obtain ⟨rfl, rfl⟩ := List.cons.inj (List.cons.inj heq).2
    rw [h]
    cases readPieces more <;> rfl
  next hne heq =>
    -- a byte that stands for itself, of which a backslash before another byte is none
    obtain ⟨rfl, rfl⟩ := List.cons.inj heq
    exact absurd rfl (hne _ _ rfl)

theorem spells_unit {a b c d : UInt8} {u : Nat} (h : hexUnit? a b c d = some u)
    (hhigh : isHighSurrogate u = false) (hlow : isLowSurrogate u = false) :
    Spells [0x5c, 0x75, a, b, c, d] (utf8 u) := by
  refine ⟨[.unit u], ?_, ?_⟩
  · intro more
    simp only [List.cons_append, List.nil_append, readPieces, h]
    cases readPieces more <;> rfl
  · intro others
    simp [piecesBytes?, hhigh, hlow]

theorem spells_all_plain {bs : Bytes} (h : ∀ b ∈ bs, IsPlain b) : Spells bs bs := by
  induction bs with
  | nil => exact spells_nil
  | cons b bs ih =>
    obtain ⟨hb, hbs⟩ := List.forall_mem_cons.mp h
    exact (spells_plain hb).append (ih hbs)

theorem utf8_toNat (c : Char) : utf8 c.toNat = String.utf8EncodeChar c := by
  rw [utf8, Char.ofNat_toNat, Bytes.ofText_eq, String.toList_singleton, Bytes.ofChars_cons,
    Bytes.ofChars_nil, List.append_nil]

theorem isPlain_of_le {b : UInt8} (h : 128 ≤ b.toNat) : IsPlain b := by
  refine ⟨?_, ?_, ?_⟩
  · rintro rfl
    exact absurd h (by decide)
  · rintro rfl
    exact absurd h (by decide)
  · rw [UInt8.lt_iff_toNat_lt]
    exact Nat.not_lt.mpr (Nat.le_trans (by decide) h)

theorem isPlain_ofNat {c : Char} (hlow : ¬ c.toNat < 32) (hhigh : c.toNat < 128) (hquote : c ≠ '"')
    (hslash : c ≠ '\\') : IsPlain (UInt8.ofNat c.toNat) := by
  have hbyte : (UInt8.ofNat c.toNat).toNat = c.toNat :=
    UInt8.toNat_ofNat_of_lt' (Nat.lt_trans hhigh (by decide))
  have eq_of_byte {b : UInt8} (h : UInt8.ofNat c.toNat = b) : c = Char.ofNat b.toNat := by
    rw [← h, hbyte, Char.ofNat_toNat]
  refine ⟨fun h => hquote (eq_of_byte h), fun h => hslash (eq_of_byte h), ?_⟩
  rw [UInt8.lt_iff_toNat_lt, hbyte]
  exact hlow

theorem escapedByte?_of_mem {e : UInt8} {c : Char} (h : (e, c) ∈ escapes) :
    escapedByte? e = some (.ofNat c.toNat) ∧ String.utf8EncodeChar c = [.ofNat c.toNat] := by
  have hall : ∀ p ∈ escapes, escapedByte? p.1 = some (.ofNat p.2.toNat) ∧
      String.utf8EncodeChar p.2 = [.ofNat p.2.toNat] := by decide
  exact hall _ h

theorem hexValue?_of_isHexDigit {n : Nat} {b : UInt8} (h : IsHexDigit n b) : hexValue? b = some n := by
  have hall : ∀ n < 16, hexValue? (.ofNat (hexDigit n).toNat) = some n ∧
      hexValue? (.ofNat (hexDigit n).toUpper.toNat) = some n := by decide
  obtain ⟨hn, rfl | rfl⟩ := h
  · exact (hall n hn).1
  · exact (hall n hn).2

theorem IsUnit.exists_digits {n : Nat} (h : IsUnit n w) :
    ∃ a b c d, w = [0x5c, 0x75, a, b, c, d] ∧ hexUnit? a b c d = some n := by
  obtain ⟨ha, hb, hc, hd⟩ := h
  refine ⟨_, _, _, _, rfl, ?_⟩
  simp only [hexUnit?, hexValue?_of_isHexDigit ha, hexValue?_of_isHexDigit hb, hexValue?_of_isHexDigit hc,
    hexValue?_of_isHexDigit hd, Option.bind_eq_bind, Option.bind_some]

theorem spells_char {c : Char} (hquote : c ≠ '"') (hslash : c ≠ '\\') (hcontrol : 0x20 ≤ c.toNat) :
    Spells (String.utf8EncodeChar c) (String.utf8EncodeChar c) := by
  by_cases hascii : c.toNat < 128
  · rw [Bytes.utf8EncodeChar_of_lt hascii]
    exact spells_plain (isPlain_ofNat (Nat.not_lt.mpr hcontrol) hascii hquote hslash)
  · exact spells_all_plain fun b hb =>
      isPlain_of_le (Bytes.le_of_mem_utf8EncodeChar (Nat.le_of_not_lt hascii) hb)

/-- Characters are not surrogates. -/
theorem not_isSurrogate (c : Char) : isHighSurrogate c.toNat = false ∧ isLowSurrogate c.toNat = false := by
  have hvalid : c.toNat < 0xd800 ∨ 0xdfff < c.toNat ∧ c.toNat < 0x110000 := c.valid
  simp only [isHighSurrogate, isLowSurrogate, Bool.and_eq_false_iff, decide_eq_false_iff_not]
  omega

theorem spells_isUnit {c : Char} (h : IsUnit c.toNat w) : Spells w (String.utf8EncodeChar c) := by
  obtain ⟨_, _, _, _, rfl, hunit⟩ := h.exists_digits
  obtain ⟨hhigh, hlow⟩ := not_isSurrogate c
  rw [← utf8_toNat]
  exact spells_unit hunit hhigh hlow

theorem readPieces_isUnit {n : Nat} (h : IsUnit n w) (more : Bytes) :
    readPieces (w ++ more) = (readPieces more).map fun p => (.unit n :: p.1, p.2) := by
  obtain ⟨_, _, _, _, rfl, hunit⟩ := h.exists_digits
  simp only [List.cons_append, List.nil_append, readPieces, hunit]
  cases readPieces more <;> rfl

theorem spells_pair {high low : Nat} {u v : Bytes} (hu : IsUnit high u) (hv : IsUnit low v)
    (hhigh : isHighSurrogate high = true) (hlow : isLowSurrogate low = true) :
    Spells (u ++ v) (utf8 (0x10000 + (high - 0xd800) * 0x400 + (low - 0xdc00))) := by
  refine ⟨[.unit high, .unit low], ?_, ?_⟩
  · intro more
    rw [List.append_assoc, readPieces_isUnit hu, readPieces_isUnit hv, Option.map_map]
    rfl
  · intro others
    simp only [List.cons_append, List.nil_append, piecesBytes?, hhigh, hlow, if_true]

theorem spells_isUnit_isUnit {c : Char} {u v : Bytes} (hbeyond : 0x10000 ≤ c.toNat)
    (high : IsUnit (0xd800 + (c.toNat - 0x10000) / 0x400) u)
    (low : IsUnit (0xdc00 + (c.toNat - 0x10000) % 0x400) v) :
    Spells (u ++ v) (String.utf8EncodeChar c) := by
  have hvalid : c.toNat < 0xd800 ∨ 0xdfff < c.toNat ∧ c.toNat < 0x110000 := c.valid
  have hspells := spells_pair high low
    (by simp only [isHighSurrogate, Bool.and_eq_true, decide_eq_true_eq]; omega)
    (by simp only [isLowSurrogate, Bool.and_eq_true, decide_eq_true_eq]; omega)
  have hpoint : 0x10000 + (0xd800 + (c.toNat - 0x10000) / 0x400 - 0xd800) * 0x400 +
      (0xdc00 + (c.toNat - 0x10000) % 0x400 - 0xdc00) = c.toNat := by omega
  rwa [hpoint, utf8_toNat] at hspells

theorem Spelling.spells {cs : List Char} (h : Spelling w cs) : Spells w (Bytes.ofChars cs) := by
  induction h with
  | nil => exact spells_nil
  | plain hquote hslash hcontrol _ ih => exact (spells_char hquote hslash hcontrol).append ih
  | escape h _ ih =>
    obtain ⟨hbyte, hutf8⟩ := escapedByte?_of_mem h
    rw [Bytes.ofChars_cons, hutf8]
    exact (spells_escape hbyte).append ih
  | unit h _ ih => exact (spells_isUnit h).append ih
  | pair hbeyond high low _ ih => exact (spells_isUnit_isUnit hbeyond high low).append ih

theorem Spells.readQuoted {front : Bytes} {s : String} (h : Spells front (Bytes.ofText s)) (more : Bytes) :
    readQuoted (front ++ 0x22 :: more) = .ok (s, more) := by
  obtain ⟨pieces, hread, hbytes⟩ := h
  have hpieces := hbytes []
  rw [List.append_nil, piecesBytes?, Option.map_some, List.append_nil] at hpieces
  rw [Json.readQuoted, hread, readPieces, Option.map_some, List.append_nil]
  simp only [hpieces, Option.bind_some, Bytes.toText?_ofText]

theorem Spelling.readQuoted {s : String} (h : Spelling w s.toList) (more : Bytes) :
    readQuoted (w ++ 0x22 :: more) = .ok (s, more) := by
  have hspells := h.spells
  rw [← Bytes.ofText_eq] at hspells
  exact hspells.readQuoted more

theorem IsBody.readPieces (h : IsBody w) :
    ∃ pieces, ∀ more, readPieces (w ++ 0x22 :: more) = some (pieces, more) := by
  induction h with
  | nil => exact ⟨[], fun more => by rw [List.nil_append, Json.readPieces]⟩
  | plain h _ ih =>
    obtain ⟨pieces, hrest⟩ := ih
    obtain ⟨first, hread, _⟩ := spells_plain h
    exact ⟨first ++ pieces, fun more => by rw [List.append_assoc, hread, hrest, Option.map_some]⟩
  | escape h _ ih =>
    obtain ⟨pieces, hrest⟩ := ih
    obtain ⟨first, hread, _⟩ := spells_escape (escapedByte?_of_mem h).1
    exact ⟨first ++ pieces, fun more => by rw [List.append_assoc, hread, hrest, Option.map_some]⟩
  | unit h _ ih =>
    obtain ⟨pieces, hrest⟩ := ih
    exact ⟨_ :: pieces, fun more => by rw [List.append_assoc, readPieces_isUnit h, hrest, Option.map_some]⟩

end RelyingParty.Json
