import RelyingParty.Text.Parts

namespace RelyingParty

theorem isUpper_iff {c : Char} : c.isUpper = true ↔ 65 ≤ c.toNat ∧ c.toNat ≤ 90 := decide_eq_true_iff

theorem isLower_iff {c : Char} : c.isLower = true ↔ 97 ≤ c.toNat ∧ c.toNat ≤ 122 := by
  have hlower : c.isLower = (decide (97 ≤ c.toNat) && decide (c.toNat ≤ 122)) := rfl
  rw [hlower, Bool.and_eq_true, decide_eq_true_iff, decide_eq_true_iff]

theorem isAlpha_iff {c : Char} :
    c.isAlpha = true ↔ 65 ≤ c.toNat ∧ c.toNat ≤ 90 ∨ 97 ≤ c.toNat ∧ c.toNat ≤ 122 := by
  have halpha : c.isAlpha = (c.isUpper || c.isLower) := rfl
  rw [halpha, Bool.or_eq_true, isUpper_iff, isLower_iff]

theorem isAlphanum_iff {c : Char} : c.isAlphanum = true ↔
    (65 ≤ c.toNat ∧ c.toNat ≤ 90 ∨ 97 ≤ c.toNat ∧ c.toNat ≤ 122) ∨ 48 ≤ c.toNat ∧ c.toNat ≤ 57 := by
  rw [Char.isAlphanum, Bool.or_eq_true, isAlpha_iff, Char.isDigit_iff_toNat]
  exact Iff.rfl

theorem ne_of_isAlphanum {c d : Char} (hc : c.isAlphanum = true) (hd : d.isAlphanum = false) : c ≠ d := by
  rintro rfl
  exact Bool.noConfusion (hc.symm.trans hd)

theorem isAlphanum_of_isAlpha {c : Char} (h : c.isAlpha = true) : c.isAlphanum = true := by
  rw [Char.isAlphanum, h, Bool.true_or]

/-- Small letters are 32 places after the capital ones. -/
theorem toNat_toLower (c : Char) :
    c.toLower.toNat = if 65 ≤ c.toNat ∧ c.toNat ≤ 90 then c.toNat + 32 else c.toNat := by
  delta Char.toLower
  split
  next h =>
    have hcapital : 65 ≤ c.val.toNat ∧ c.val.toNat ≤ 90 := h
    have hsum : (c.val + 32).toNat = c.val.toNat + 32 := by
      rw [UInt32.toNat_add, show (32 : UInt32).toNat = 32 from rfl]
      exact Nat.mod_eq_of_lt (by omega)
    exact hsum.trans (if_pos hcapital).symm
  next h => exact (if_neg h).symm

theorem toLower_toLower (c : Char) : c.toLower.toLower = c.toLower := by
  rw [← Char.toNat_inj, toNat_toLower c.toLower, if_neg]
  rw [toNat_toLower]
  split <;> omega

theorem isAlpha_toLower {c : Char} (h : c.isAlpha = true) : c.toLower.isAlpha = true := by
  have hletter := isAlpha_iff.mp h
  rw [isAlpha_iff, toNat_toLower]
  split <;> omega

theorem isAlphanum_toLower {c : Char} (h : c.isAlphanum = true) : c.toLower.isAlphanum = true := by
  have hname := isAlphanum_iff.mp h
  rw [isAlphanum_iff, toNat_toLower]
  split <;> omega

theorem cutAt_cons_of_ne {separator c : Char} (h : c ≠ separator) {cs part : List Char}
    {parts : List (List Char)} (hcs : cutAt separator cs = part :: parts) :
    cutAt separator (c :: cs) = (c :: part) :: parts := by
  rw [cutAt] at hcs
  rw [cutAt, List.foldr_cons, if_neg h, hcs]

theorem cutAt_of_not_mem {separator : Char} {cs : List Char} (h : separator ∉ cs) :
    cutAt separator cs = [cs] := by
  induction cs with
  | nil => rfl
  | cons c cs ih =>
    exact cutAt_cons_of_ne (List.ne_of_not_mem_cons h).symm (ih (List.not_mem_of_not_mem_cons h))

theorem cutAt_append {separator : Char} {cs : List Char} (h : separator ∉ cs) (rest : List Char) :
    cutAt separator (cs ++ separator :: rest) = cs :: cutAt separator rest := by
  induction cs with
  | nil => exact if_pos rfl
  | cons c cs ih =>
    exact cutAt_cons_of_ne (List.ne_of_not_mem_cons h).symm (ih (List.not_mem_of_not_mem_cons h))

theorem cutAt_intercalate {separator : Char} {parts : List (List Char)} (hne : parts ≠ [])
    (h : ∀ part ∈ parts, separator ∉ part) : cutAt separator ([separator].intercalate parts) = parts := by
  induction parts with
  | nil => exact absurd rfl hne
  | cons part parts ih =>
    obtain ⟨hpart, hparts⟩ := List.forall_mem_cons.mp h
    cases parts with
    | nil =>
      rw [List.intercalate_singleton]
      exact cutAt_of_not_mem hpart
    | cons next parts =>
      rw [List.intercalate_cons_cons, List.append_assoc, List.singleton_append, cutAt_append hpart,
        ih (List.cons_ne_nil _ _) hparts]

theorem eq_or_mem_of_mem_intercalate {separator c : Char} {parts : List (List Char)}
    (h : c ∈ [separator].intercalate parts) : c = separator ∨ ∃ part ∈ parts, c ∈ part := by
  induction parts with
  | nil => cases h
  | cons part parts ih =>
    cases parts with
    | nil =>
      rw [List.intercalate_singleton] at h
      exact .inr ⟨part, List.mem_cons_self, h⟩
    | cons next parts =>
      rw [List.intercalate_cons_cons, List.mem_append, List.mem_append, List.mem_singleton] at h
      rcases h with (hpart | hseparator) | hrest
      · exact .inr ⟨part, List.mem_cons_self, hpart⟩
      · exact .inl hseparator
      · obtain hseparator | ⟨other, hother, hc⟩ := ih hrest
        · exact .inl hseparator
        · exact .inr ⟨other, List.mem_cons_of_mem _ hother, hc⟩

theorem map_intercalate (f : Char → Char) (separator : Char) (parts : List (List Char)) :
    ([separator].intercalate parts).map f = [f separator].intercalate (parts.map (List.map f)) := by
  induction parts with
  | nil => rfl
  | cons part parts ih =>
    cases parts with
    | nil => simp only [List.map_cons, List.map_nil, List.intercalate_singleton]
    | cons next parts =>
      rw [List.intercalate_cons_cons, List.map_append, List.map_append, ih]
      simp only [List.map_cons, List.map_nil, List.intercalate_cons_cons]

theorem digitValue?_of_isDigit {c : Char} (h : c.isDigit = true) :
    digitValue? 10 c = some (c.toNat - 48) := by
  obtain ⟨hlow, hhigh⟩ := Char.isDigit_iff_toNat.mp h
  have hlt : c.toNat - 48 < 10 := by
    change c.toNat ≤ 57 at hhigh
    omega
  have hrange : '0' ≤ c ∧ c ≤ '9' := ⟨hlow, hhigh⟩
  rw [digitValue?, if_pos hrange]
  exact Option.filter_eq_some_iff.mpr ⟨rfl, decide_eq_true hlt⟩

/-- A letter is at least ten as a digit, if it is one. -/
theorem digitValue?_of_isAlpha {c : Char} (h : c.isAlpha = true) : digitValue? 10 c = none := by
  have hletter := isAlpha_iff.mp h
  have hdigit : ¬ ('0' ≤ c ∧ c ≤ '9') := by
    rintro ⟨-, hhigh⟩
    change c.toNat ≤ 57 at hhigh
    omega
  rw [digitValue?, if_neg hdigit, Option.filter_eq_none_iff]
  intro v hv
  rw [decide_eq_true_eq, Nat.not_lt]
  split at hv
  next hlower =>
    obtain rfl := Option.some.inj hv
    have hlow : 97 ≤ c.toNat := hlower.1
    omega
  next =>
    split at hv
    next hupper =>
      obtain rfl := Option.some.inj hv
      have hlow : 65 ≤ c.toNat := hupper.1
      omega
    next => cases hv

theorem number?_of_isDigit {cs : List Char} (h : ∀ c ∈ cs, c.isDigit = true) :
    number? 10 cs = some (Nat.ofDigitChars 10 cs 0) := by
  have hdigits : cs.mapM (digitValue? 10) = some (cs.map fun c => c.toNat - 48) := by
    induction cs with
    | nil => rfl
    | cons c cs ih =>
      obtain ⟨hc, hcs⟩ := List.forall_mem_cons.mp h
      rw [List.mapM_cons, digitValue?_of_isDigit hc, ih hcs]
      rfl
  rw [number?, hdigits, Option.map_some, numberOf, List.foldl_map, Nat.ofDigitChars]
  simp only [Nat.mul_comm]
  rfl

end RelyingParty
