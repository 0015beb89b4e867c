import RelyingParty.Proofs.Json.Grammar

namespace RelyingParty.Json

variable {w more blank : Bytes}

theorem skipSpace_blank (h : IsBlank blank) (bs : Bytes) : skipSpace (blank ++ bs) = skipSpace bs :=
  List.dropWhile_append_of_pos h

theorem skipSpace_cons {b : UInt8} (h : isSpace b = false) (bs : Bytes) :
    skipSpace (b :: bs) = b :: bs :=
  List.dropWhile_cons_of_neg (by rw [h]; exact Bool.false_ne_true)

theorem forall_head?_append {P : UInt8 → Prop} (hw : ∀ b ∈ w.head?, P b) (hmore : ∀ b ∈ more.head?, P b) :
    ∀ b ∈ (w ++ more).head?, P b := by
  cases w with
  | nil => exact hmore
  | cons => exact hw

theorem delimits_blank (h : IsBlank blank) (hmore : Delimits more) : Delimits (blank ++ more) :=
  forall_head?_append (fun b hb => .inl (h b (List.mem_of_mem_head? hb))) hmore

theorem Delimits.not_numeral (h : Delimits more) :
    ∀ b ∈ more.head?, isDigit b = false ∧ b ≠ 0x2e ∧ b ≠ 0x65 ∧ b ≠ 0x45 := by
  have hspace : ∀ b, isSpace b = true → b = 0x20 ∨ b = 0x0a ∨ b = 0x0d ∨ b = 0x09 := by
    intro b hb
    simpa only [isSpace, Bool.or_eq_true, decide_eq_true_eq, or_assoc] using hb
  intro b hb
  obtain hb | rfl | rfl | rfl := h b hb
  · obtain rfl | rfl | rfl | rfl := hspace b hb <;> decide
  all_goals decide

theorem readDigits_append (h : IsDigits w) (hmore : ∀ b ∈ more.head?, isDigit b = false) :
    readDigits (w ++ more) = some (w, more) := by
  obtain ⟨hne, hdigits⟩ := h
  have htake : (w ++ more).takeWhile isDigit = w ∧ (w ++ more).dropWhile isDigit = more := by
    rw [List.takeWhile_append_of_pos hdigits, List.dropWhile_append_of_pos hdigits]
    cases more with
    | nil => exact ⟨List.append_nil w, rfl⟩
    | cons b more =>
      have hb : ¬ isDigit b = true := by rw [hmore b rfl]; exact Bool.false_ne_true
      rw [List.takeWhile_cons_of_neg hb, List.dropWhile_cons_of_neg hb, List.append_nil]
      exact ⟨rfl, rfl⟩
  rw [readDigits, htake.1, htake.2]
  cases w with
  | nil => exact absurd rfl hne
  | cons => rfl

theorem IsWhole.isDigits (h : IsWhole w) : IsDigits w := by
  obtain rfl | h := h
  · exact ⟨nofun, List.forall_mem_singleton.mpr rfl⟩
  · exact h.1

theorem readWhole_append (h : IsWhole w) (hmore : ∀ b ∈ more.head?, isDigit b = false) :
    readWhole (w ++ more) = some (w, more) := by
  rw [readWhole, readDigits_append h.isDigits hmore, Option.bind_eq_bind, Option.bind_some]
  obtain rfl | ⟨-, hhead⟩ := h
  · rfl
  · cases w with
    | nil => rfl
    | cons b w =>
      dsimp only
      split
      next heq => exact absurd (congrArg List.head? heq) hhead
      next => rfl

theorem IsFraction.head (h : IsFraction w) : ∀ b ∈ w.head?, b = 0x2e := by
  obtain rfl | ⟨_, _, rfl⟩ := h
  · nofun
  · exact fun b hb => (Option.some.inj hb).symm

theorem IsExponent.head (h : IsExponent w) : ∀ b ∈ w.head?, b = 0x65 ∨ b = 0x45 := by
  obtain rfl | ⟨e, _, _, he, _, _, rfl⟩ := h
  · nofun
  · exact fun b hb => Option.some.inj hb ▸ he

theorem readFraction_of_head (h : ∀ b ∈ more.head?, b ≠ 0x2e) : readFraction more = some ([], more) := by
  unfold readFraction
  split
  next => exact absurd rfl (h _ rfl)
  next => rfl

theorem readFraction_append (h : IsFraction w) (hmore : ∀ b ∈ more.head?, isDigit b = false ∧ b ≠ 0x2e) :
    ∃ digits, readFraction (w ++ more) = some (digits, more) := by
  obtain rfl | ⟨digits, hdigits, rfl⟩ := h
  · exact ⟨[], readFraction_of_head fun b hb => (hmore b hb).2⟩
  · exact ⟨digits, readDigits_append hdigits fun b hb => (hmore b hb).1⟩

theorem readExponent_of_head (h : ∀ b ∈ more.head?, b ≠ 0x65 ∧ b ≠ 0x45) :
    readExponent more = some (none, more) := by
  unfold readExponent
  cases more with
  | nil => rfl
  | cons b more => exact if_neg (not_or.mpr (h b rfl))

theorem mem_of_append_eq_cons {b : UInt8} {rest : Bytes} (h : w ≠ []) (heq : w ++ more = b :: rest) : b ∈ w := by
  cases w with
  | nil => exact absurd rfl h
  | cons c w => exact (List.cons.inj heq).1 ▸ List.mem_cons_self

theorem readExponent_append (h : IsExponent w)
    (hmore : ∀ b ∈ more.head?, isDigit b = false ∧ b ≠ 0x65 ∧ b ≠ 0x45) :
    ∃ exponent, readExponent (w ++ more) = some (exponent, more) := by
  obtain rfl | ⟨e, sign, digits, he, hsign, hdigits, rfl⟩ := h
  · exact ⟨none, readExponent_of_head fun b hb => (hmore b hb).2⟩
  · have hread := readDigits_append hdigits fun b hb => (hmore b hb).1
    rw [readExponent.eq_def]
    simp only [List.cons_append, he, if_true, List.append_assoc]
    obtain rfl | rfl | rfl := hsign
    · obtain ⟨hne, hall⟩ := hdigits
      rw [List.nil_append]
      split
      next heq => exact absurd (hall 0x2b (mem_of_append_eq_cons hne heq)) (by decide)
      next heq => exact absurd (hall 0x2d (mem_of_append_eq_cons hne heq)) (by decide)
      next => exact ⟨_, congrArg (Option.map fun p => (some (digitsValue 0 p.1 : Int), p.2)) hread⟩
    · exact ⟨some (digitsValue 0 digits), by simp only [List.singleton_append, hread, Option.map_some]⟩
    · exact ⟨some (-digitsValue 0 digits), by simp only [List.singleton_append, hread, Option.map_some]⟩

/-- What follows the digits of a number does not go on with them. -/
theorem head_not_digit {fraction exponent : Bytes} (hfraction : IsFraction fraction)
    (hexponent : IsExponent exponent) (hmore : ∀ b ∈ more.head?, isDigit b = false) :
    ∀ b ∈ (fraction ++ (exponent ++ more)).head?, isDigit b = false := by
  refine forall_head?_append (fun b hb => ?_) (forall_head?_append (fun b hb => ?_) hmore)
  · rw [hfraction.head b hb]
    rfl
  · obtain rfl | rfl := hexponent.head b hb <;> rfl

theorem readNumeral_parts {whole fraction exponent digits : Bytes} {power : Option Int}
    (hwhole : IsWhole whole) (hfraction : IsFraction fraction) (hexponent : IsExponent exponent)
    (hmore : ∀ b ∈ more.head?, isDigit b = false)
    (hdigits : readFraction (fraction ++ (exponent ++ more)) = some (digits, exponent ++ more))
    (hpower : readExponent (exponent ++ more) = some (power, more)) (negative : Bool) :
    readNumeral ((if negative then [0x2d] else []) ++ (whole ++ (fraction ++ (exponent ++ more)))) =
      some (⟨negative, digitsValue (digitsValue 0 whole) digits, power.getD 0 - digits.length,
        digits.isEmpty && power.isNone⟩, more) := by
  have hread := readWhole_append hwhole (head_not_digit hfraction hexponent hmore)
  obtain ⟨hne, hall⟩ := hwhole.isDigits
  cases negative with
  | true =>
    simp only [readNumeral, if_true, List.singleton_append, List.head?_cons, List.tail_cons, hread,
      Option.bind_eq_bind, Option.bind_some, hdigits, hpower, beq_self_eq_true]
  | false =>
    have hhead : ((whole ++ (fraction ++ (exponent ++ more))).head? == some 0x2d) = false := by
      cases whole with
      | nil => exact absurd rfl hne
      | cons b whole =>
        refine beq_eq_false_iff_ne.mpr fun heq => ?_
        obtain rfl := Option.some.inj heq
        exact absurd (hall _ List.mem_cons_self) (by decide)
    simp only [readNumeral, Bool.false_eq_true, if_false, List.nil_append, hhead, hread,
      Option.bind_eq_bind, Option.bind_some, hdigits, hpower]

theorem IsNumeral.readNumeral (h : IsNumeral w) (hmore : Delimits more) :
    ∃ n, readNumeral (w ++ more) = some (n, more) := by
  obtain ⟨sign, whole, fraction, exponent, hsign, hwhole, hfraction, hexponent, rfl⟩ := h
  have hends := hmore.not_numeral
  obtain ⟨digits, hdigits⟩ := readFraction_append hfraction
    (forall_head?_append (fun b hb => by obtain rfl | rfl := hexponent.head b hb <;> decide)
      fun b hb => ⟨(hends b hb).1, (hends b hb).2.1⟩)
  obtain ⟨power, hpower⟩ := readExponent_append hexponent
    fun b hb => ⟨(hends b hb).1, (hends b hb).2.2⟩
  have hparts := readNumeral_parts hwhole hfraction hexponent (fun b hb => (hends b hb).1) hdigits hpower
  obtain rfl | rfl := hsign
  · exact ⟨_, by rw [List.nil_append, List.append_assoc, List.append_assoc]; exact hparts false⟩
  · exact ⟨_, by rw [List.append_assoc, List.append_assoc, List.append_assoc]; exact hparts true⟩

/-- Digits alone are a whole number. -/
theorem IsWhole.readNumeral (h : IsWhole w) (hmore : Delimits more) :
    readNumeral (w ++ more) = some (⟨false, digitsValue 0 w, 0, true⟩, more) := by
  have hends := hmore.not_numeral
  exact readNumeral_parts h (.inl rfl) (.inl rfl) (fun b hb => (hends b hb).1)
    (readFraction_of_head fun b hb => (hends b hb).2.1)
    (readExponent_of_head fun b hb => (hends b hb).2.2) false

theorem IsNumeral.head (h : IsNumeral w) : ∃ b rest, w = b :: rest ∧ (b = 0x2d ∨ isDigit b = true) := by
  obtain ⟨sign, whole, fraction, exponent, rfl | rfl, hwhole, _, _, rfl⟩ := h
  · obtain ⟨hne, hall⟩ := hwhole.isDigits
    obtain ⟨b, whole, rfl⟩ := List.exists_cons_of_ne_nil hne
    exact ⟨b, _, rfl, .inr (hall b List.mem_cons_self)⟩
  · exact ⟨_, _, rfl, .inl rfl⟩

/-- Other bytes than a sign and a digit do not open a number. -/
theorem ne_of_opens {b c : UInt8} (hb : b = 0x2d ∨ isDigit b = true) (hc : c ≠ 0x2d ∧ isDigit c = false) :
    b ≠ c := by
  rintro rfl
  exact hb.elim hc.1 fun hdigit => Bool.false_ne_true (hc.2.symm.trans hdigit)

theorem isSpace_of_opens {b : UInt8} (hb : b = 0x2d ∨ isDigit b = true) : isSpace b = false := by
  simp only [isSpace, Bool.or_eq_false_iff, decide_eq_false_iff_not]
  exact ⟨⟨⟨ne_of_opens hb (by decide), ne_of_opens hb (by decide)⟩, ne_of_opens hb (by decide)⟩,
    ne_of_opens hb (by decide)⟩

end RelyingParty.Json
