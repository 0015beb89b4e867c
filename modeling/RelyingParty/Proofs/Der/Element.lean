import RelyingParty.Der.Element

namespace RelyingParty.Der

/-- A length field: a byte below 128, or a byte that counts one to four bytes which write the length. Zeros
may stand before the first digit of a length. -/
inductive IsLength : Nat → Bytes → Prop
  | short {b : UInt8} (h : b.toNat < 0x80) : IsLength b.toNat [b]
  | long {count : UInt8} {digits : Bytes} (hcount : count.toNat = 0x80 + digits.length)
    (hlow : 1 ≤ digits.length) (hhigh : digits.length ≤ 4) :
    IsLength (Bytes.toNat digits) (count :: digits)

/-- An element as it is written. The low five bits of the tag are not all set. -/
inductive IsElement : Element → Bytes → Prop
  | element {tag : UInt8} {length content : Bytes} (htag : tag &&& 0x1f ≠ 0x1f)
    (hlength : IsLength content.length length) :
    IsElement ⟨tag, content⟩ (tag :: (length ++ content))

variable {bs rest w : Bytes} {n : Nat} {e : Element}

theorem isLongTag_eq_false {tag : UInt8} : isLongTag tag = false ↔ tag &&& 0x1f ≠ 0x1f := by
  rw [isLongTag, beq_eq_false_iff_ne]

theorem readLength?_eq_some :
    readLength? bs = some (n, rest) ↔ ∃ w, IsLength n w ∧ bs = w ++ rest := by
  constructor
  · intro h
    cases bs with
    | nil => simp [readLength?] at h
    | cons first tail =>
      simp only [readLength?] at h
      split at h
      next hshort =>
        obtain ⟨rfl, rfl⟩ := Prod.mk.inj (Option.some.inj h)
        exact ⟨[first], .short (UInt8.lt_iff_toNat_lt.mp hshort), rfl⟩
      next =>
        split at h
        next hrange =>
          obtain ⟨⟨digits, left⟩, hsplit, heq⟩ := Option.map_eq_some_iff.mp h
          obtain ⟨rfl, rfl⟩ := Prod.mk.inj heq
          obtain ⟨rfl, hlength⟩ := Bytes.split?_eq_some.mp hsplit
          have hcount : first.toNat = 0x80 + digits.length := by omega
          have hlow : 1 ≤ digits.length := hlength ▸ hrange.1
          have hhigh : digits.length ≤ 4 := hlength ▸ hrange.2
          exact ⟨first :: digits, .long hcount hlow hhigh, rfl⟩
        next => simp at h
  · rintro ⟨w, hw, rfl⟩
    cases hw with
    | @short b hb =>
      have hlt : b < 0x80 := UInt8.lt_iff_toNat_lt.mpr hb
      simp [readLength?, hlt]
    | @long count digits hcount hlow hhigh =>
      have hge : ¬ count < 0x80 := by
        rw [UInt8.lt_iff_toNat_lt, hcount]
        exact Nat.not_lt.mpr (Nat.le_add_right _ _)
      have hsub : count.toNat - 0x80 = digits.length := by omega
      simp [readLength?, hge, hsub, hlow, hhigh]

/-- Reading takes an element and nothing else, so that what follows it is left as it stands. -/
theorem Element.read?_eq_some :
    Element.read? bs = some (e, rest) ↔ ∃ w, IsElement e w ∧ bs = w ++ rest := by
  constructor
  · intro h
    cases bs with
    | nil => simp [Element.read?] at h
    | cons tag tail =>
      simp only [Element.read?] at h
      split at h
      next => simp at h
      next htag =>
        obtain ⟨⟨n, left⟩, hlength, h⟩ := Option.bind_eq_some_iff.mp h
        obtain ⟨⟨content, right⟩, hsplit, h⟩ := Option.bind_eq_some_iff.mp h
        obtain ⟨rfl, rfl⟩ := Prod.mk.inj (Option.some.inj h)
        obtain ⟨field, hfield, rfl⟩ := readLength?_eq_some.mp hlength
        obtain ⟨rfl, rfl⟩ := Bytes.split?_eq_some.mp hsplit
        have hlow := isLongTag_eq_false.mp (Bool.eq_false_iff.mpr htag)
        exact ⟨_, .element hlow hfield, by simp⟩
  · rintro ⟨w, hw, rfl⟩
    cases hw with
    | @element tag length content htag hlength =>
      have hread : readLength? (length ++ (content ++ rest)) = some (content.length, content ++ rest) :=
        readLength?_eq_some.mpr ⟨length, hlength, rfl⟩
      simp [Element.read?, isLongTag_eq_false.mpr htag, hread]

theorem IsLength.nonempty (h : IsLength n w) : 1 ≤ w.length := by
  cases h with
  | short => exact Nat.le_refl 1
  | long => exact Nat.succ_pos _

theorem IsElement.length_content (h : IsElement e w) : e.content.length + 2 ≤ w.length := by
  obtain ⟨_, hlength⟩ := h
  have hfield := hlength.nonempty
  simp only [List.length_cons, List.length_append]
  omega

theorem IsElement.content_infix (h : IsElement e w) : e.content <:+: w := by
  obtain ⟨_, _⟩ := h
  exact ((List.suffix_append _ _).trans (List.suffix_cons _ _)).isInfix

end RelyingParty.Der
