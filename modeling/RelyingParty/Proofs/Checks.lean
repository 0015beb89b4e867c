import RelyingParty.Proofs.Outcome

namespace RelyingParty

variable {ε α β : Type}

theorem ok_bind (a : α) (next : α → Except ε β) : (Except.ok a >>= next) = next a := rfl

theorem mapError_eq_ok {x : Except ε α} {f : ε → β} {a : α} :
    x.mapError f = .ok a ↔ x = .ok a := by
  cases x with
  | error e => exact ⟨nofun, nofun⟩
  | ok b =>
    constructor
    · intro h
      exact congrArg Except.ok (Except.ok.inj h)
    · intro h
      exact congrArg Except.ok (Except.ok.inj h)

theorem mapError_eq_error {x : Except ε α} {f : ε → β} {b : β} :
    x.mapError f = .error b ↔ ∃ e, x = .error e ∧ f e = b := by
  cases x <;> simp [Except.mapError]

def ensure (condition : Prop) [Decidable condition] (e : ε) : Except ε Unit :=
  if condition then .ok () else .error e

theorem ensure_eq_ok {condition : Prop} [Decidable condition] {e : ε} :
    ensure condition e = .ok () ↔ condition := by
  by_cases h : condition <;> simp [ensure, h]

theorem ensure_of {condition : Prop} [Decidable condition] (h : condition) (e : ε) :
    ensure condition e = .ok () := if_pos h

theorem ensure_of_not {condition : Prop} [Decidable condition] (h : ¬ condition) (e : ε) :
    ensure condition e = .error e := if_neg h

theorem ensure_eq_error {condition : Prop} [Decidable condition] {e e' : ε} :
    ensure condition e = .error e' ↔ ¬ condition ∧ e = e' := by
  by_cases h : condition <;> simp [ensure, h]

theorem ensure_bind_eq_ok {condition : Prop} [Decidable condition] {next : Unit → Except ε α} {e : ε}
    {a : α} : (ensure condition e >>= next) = .ok a ↔ condition ∧ next () = .ok a := by
  rw [bind_eq_ok]
  constructor
  · rintro ⟨_, hensure, hnext⟩
    exact ⟨ensure_eq_ok.mp hensure, hnext⟩
  · rintro ⟨h, hnext⟩
    exact ⟨(), ensure_of h e, hnext⟩

theorem ensure_congr {p q : Prop} [Decidable p] [Decidable q] (h : p ↔ q) (e : ε) :
    ensure p e = ensure q e := by
  unfold ensure
  exact if_congr h rfl rfl

/-- An early refusal is a check of the opposite, made before the rest. -/
theorem refuse_eq_ensure {p q : Prop} [Decidable p] [Decidable q] (h : p ↔ ¬ q) (e : ε)
    (next : Except ε α) :
    (if p then .error e else next) = (ensure q e >>= fun _ => next) := by
  by_cases hq : q
  · rw [if_neg (fun hp => h.mp hp hq), ensure_of hq]
    rfl
  · rw [if_pos (h.mpr hq), ensure_of_not hq]
    rfl

/-- A check refuses with `e`, and all checks before it pass. -/
def FirstFault (outcome : α → Except ε Unit) (checks : List α) (e : ε) : Prop :=
  ∃ earlier check later, checks = earlier ++ check :: later ∧
    (∀ other ∈ earlier, outcome other = .ok ()) ∧ outcome check = .error e

variable {outcome : α → Except ε Unit} {check : α} {checks : List α} {e : ε}

theorem forM_cons : (check :: checks).forM outcome = (outcome check >>= fun _ => checks.forM outcome) :=
  rfl

theorem forM_eq_ok : checks.forM outcome = .ok () ↔ ∀ check ∈ checks, outcome check = .ok () := by
  induction checks with
  | nil => simp [List.forM, pure, Except.pure]
  | cons check checks ih =>
    rw [forM_cons, bind_eq_ok, List.forall_mem_cons, ← ih]
    constructor
    · rintro ⟨_, hcheck, hchecks⟩
      exact ⟨hcheck, hchecks⟩
    · rintro ⟨hcheck, hchecks⟩
      exact ⟨(), hcheck, hchecks⟩

theorem firstFault_cons : FirstFault outcome (check :: checks) e ↔
    outcome check = .error e ∨ outcome check = .ok () ∧ FirstFault outcome checks e := by
  constructor
  · rintro ⟨earlier, other, later, heq, hearlier, hfault⟩
    cases earlier with
    | nil =>
      obtain ⟨rfl, rfl⟩ := List.cons.inj heq
      exact .inl hfault
    | cons first earlier =>
      obtain ⟨rfl, rfl⟩ := List.cons.inj heq
      obtain ⟨hfirst, hrest⟩ := List.forall_mem_cons.mp hearlier
      exact .inr ⟨hfirst, earlier, other, later, rfl, hrest, hfault⟩
  · rintro (hfault | ⟨hcheck, earlier, other, later, rfl, hearlier, hfault⟩)
    · exact ⟨[], check, checks, rfl, by simp, hfault⟩
    · exact ⟨check :: earlier, other, later, rfl, List.forall_mem_cons.mpr ⟨hcheck, hearlier⟩, hfault⟩

theorem forM_eq_error : checks.forM outcome = .error e ↔ FirstFault outcome checks e := by
  induction checks with
  | nil =>
    constructor
    · intro h
      cases h
    · rintro ⟨earlier, check, later, heq, _⟩
      simp at heq
  | cons check checks ih =>
    rw [forM_cons, bind_eq_error, firstFault_cons, ← ih]
    constructor
    · rintro (hfault | ⟨_, hcheck, hchecks⟩)
      · exact .inl hfault
      · exact .inr ⟨hcheck, hchecks⟩
    · rintro (hfault | ⟨hcheck, hchecks⟩)
      · exact .inl hfault
      · exact .inr ⟨(), hcheck, hchecks⟩

/-- The outcomes agree, unless the first is a refusal that is excused. -/
def AgreesUnless (excused : ε → Prop) (x y : Except ε α) : Prop :=
  x = y ∨ ∃ e, x = .error e ∧ excused e

section AgreesUnless

variable {excused : ε → Prop} {x y : Except ε α} {other : α → Except ε Unit}

theorem agreesUnless_refl (x : Except ε α) : AgreesUnless excused x x := .inl rfl

theorem AgreesUnless.mono {also : ε → Prop} (h : AgreesUnless excused x y)
    (hle : ∀ e, excused e → also e) : AgreesUnless also x y := by
  rcases h with rfl | ⟨e, hx, he⟩
  · exact agreesUnless_refl x
  · exact .inr ⟨e, hx, hle e he⟩

theorem AgreesUnless.bind {f g : α → Except ε β} (h : AgreesUnless excused x y)
    (hnext : ∀ a, x = .ok a → AgreesUnless excused (f a) (g a)) :
    AgreesUnless excused (x >>= f) (y >>= g) := by
  rcases h with rfl | ⟨e, rfl, he⟩
  · cases x with
    | error e => exact agreesUnless_refl _
    | ok a => exact hnext a rfl
  · exact .inr ⟨e, rfl, he⟩

theorem AgreesUnless.accepts {a : α} (h : AgreesUnless excused x y) (hx : x = .ok a) : y = .ok a := by
  rcases h with rfl | ⟨e, he, _⟩
  · exact hx
  · cases hx.symm.trans he

theorem AgreesUnless.refuses (h : AgreesUnless excused x y) (hx : x = .error e) (he : ¬ excused e) :
    y = .error e := by
  rcases h with rfl | ⟨cause, hcause, hexcused⟩
  · exact hx
  · cases hx.symm.trans hcause
    exact absurd hexcused he

theorem agreesUnless_forM
    (h : ∀ check ∈ checks, AgreesUnless excused (outcome check) (other check)) :
    AgreesUnless excused (checks.forM outcome) (checks.forM other) := by
  induction checks with
  | nil => exact agreesUnless_refl _
  | cons check checks ih =>
    obtain ⟨hcheck, hchecks⟩ := List.forall_mem_cons.mp h
    rw [forM_cons, forM_cons]
    exact hcheck.bind fun _ _ => ih hchecks

end AgreesUnless

end RelyingParty
