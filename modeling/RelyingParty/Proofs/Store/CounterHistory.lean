import RelyingParty.Proofs.Store.Atomicity
import RelyingParty.Proofs.Store.Lifecycle

open scoped List

namespace RelyingParty.Store

def toldCounter (credentialId : Bytes) : (call : Call) → Except StoreError call.Reply → Option UInt32
  | .writeCredential _ c, .ok () => if c.rawId = credentialId then some c.signCounter else none
  | .moveCounter other count _, .ok () => if other = credentialId then some count else none
  | .moveCounter other _ _, .error (.counterNotMonotone stored _) =>
    if other = credentialId then some stored else none
  | .getCredential other, .ok c => if other = credentialId then some c.signCounter else none
  | .getCeremonyAndCredential _ other, .ok (_, c) =>
    if other = credentialId then some c.signCounter else none
  | _, _ => none

def Event.counter? (credentialId : Bytes) (e : Event) : Option UInt32 :=
  toldCounter credentialId e.call e.answer

theorem Event.counter?_of_countOf? {e : Event} {credentialId : Bytes} {count : UInt32}
    (h : e.change.countOf? credentialId = some count) : e.counter? credentialId = some count := by
  obtain ⟨⟨time, call⟩, answer⟩ := e
  change (Change.ofAnswer call answer).countOf? credentialId = some count at h
  change toldCounter credentialId call answer = some count
  unfold Change.ofAnswer at h
  split at h
  case h_3 => exact h
  all_goals cases h

def HasCounter (s : Store) (credentialId : Bytes) (counter : UInt32) : Prop :=
  ∃ c, s.credentials.get? credentialId = some c ∧ c.signCounter = counter

variable {s s' : Store} {now : UInt64} {credentialId : Bytes} {counter stored : UInt32}

theorem HasCounter.unique (h : s.HasCounter credentialId counter)
    (hstored : s.HasCounter credentialId stored) : counter = stored := by
  obtain ⟨c, hc, rfl⟩ := h
  obtain ⟨d, hd, rfl⟩ := hstored
  rw [Option.some.inj (hc.symm.trans hd)]

theorem HasCounter.step {change : Change} (h : s.HasCounter credentialId counter) (keyed : s.Keyed)
    (step : Step s now change s') :
    ∃ later, s'.HasCounter credentialId later ∧ counter ≤ later := by
  obtain ⟨c, hc, rfl⟩ := h
  obtain rfl := keyed.credentials hc
  obtain ⟨time, hafter, hle⟩ := step.credential_after hc
  exact ⟨_, ⟨_, hafter, rfl⟩, hle⟩

/-- The answer to a call tells a counter that the credential has after the call, and that is no less
than the one that it had before. -/
theorem hasCounter_of_told {call : Call} {answer : Except StoreError call.Reply}
    (h : s.perform now call = (s', answer))
    (told : toldCounter credentialId call answer = some counter) :
    s'.HasCounter credentialId counter ∧
      ∀ earlier, s.HasCounter credentialId earlier → earlier ≤ counter := by
  have unchanged {c : Credential} (found : s.credentials.get? credentialId = some c) (same : s' = s)
      (hc : c.signCounter = counter) : s'.HasCounter credentialId counter ∧
        ∀ earlier, s.HasCounter credentialId earlier → earlier ≤ counter := by
    have now : s.HasCounter credentialId counter := ⟨c, found, hc⟩
    refine ⟨same ▸ now, ?_⟩
    intro earlier before
    rw [before.unique now]
    exact UInt32.le_refl _
  unfold toldCounter at told
  -- one case for each answer that tells a counter; all other answers tell none
  split at told <;> simp only [Option.ite_none_right_eq_some, Option.some.injEq, reduceCtorEq] at told
  case h_1 ceremony c =>
    obtain ⟨rfl, rfl⟩ := told
    obtain ⟨_, hreplaces⟩ := write_replaces h
    refine ⟨⟨c, hreplaces.after, rfl⟩, ?_⟩
    rintro earlier ⟨d, hd, _⟩
    cases hreplaces.before.symm.trans hd
  case h_2 other count challengeId =>
    obtain ⟨rfl, rfl⟩ := told
    have hstep : s.Step now (.moved other count challengeId) s' := by
      simpa only [h, Change.ofAnswer] using perform_step s now (.moveCounter other count challengeId)
    cases hstep with
    | moved due le =>
      refine ⟨⟨_, Table.get?_insert_self _ _ _, rfl⟩, ?_⟩
      intro earlier before
      rwa [before.unique ⟨_, due.found, rfl⟩]
  case h_3 other count challengeId stored received =>
    obtain ⟨rfl, rfl⟩ := told
    obtain ⟨_, _, _, c, rfl, hreplaces⟩ := left_of_perform h
    refine ⟨⟨_, hreplaces.after, rfl⟩, ?_⟩
    intro earlier before
    rw [before.unique ⟨c, hreplaces.before, rfl⟩]
    exact UInt32.le_refl _
  case h_4 other c =>
    obtain ⟨rfl, hc⟩ := told
    obtain ⟨hs, hfound⟩ := Prod.mk.inj h
    exact unchanged (credential_eq_ok.mp hfound) hs.symm hc
  case h_5 challengeId other ceremony c =>
    obtain ⟨rfl, hc⟩ := told
    obtain ⟨hs, hfound⟩ := Prod.mk.inj h
    exact unchanged (ceremonyAndCredential_eq_ok.mp hfound).2.2 hs.symm hc

def toldCounters (credentialId : Bytes) (events : List Event) : List UInt32 :=
  events.filterMap (·.counter? credentialId)

theorem toldCounters_concat (credentialId : Bytes) (calls : List TimedCall) (c : TimedCall) :
    toldCounters credentialId (empty.journal (calls ++ [c])) =
      toldCounters credentialId (empty.journal calls) ++
        (toldCounter credentialId c.call ((empty.run calls).perform c.time c.call).2).toList := by
  rw [journal_concat, toldCounters, List.filterMap_append]
  rfl

/-- The stored counter is not below any that was told. -/
theorem le_stored_of_told {calls : List TimedCall}
    (h : counter ∈ toldCounters credentialId (empty.journal calls)) :
    ∃ stored, (empty.run calls).HasCounter credentialId stored ∧ counter ≤ stored := by
  induction calls using List.reverseRecOn with
  | nil => cases h
  | append_singleton calls c ih =>
    rw [toldCounters_concat] at h
    rw [run_concat]
    rcases List.mem_append.mp h with hbefore | hlast
    · obtain ⟨stored, hhas, hle⟩ := ih hbefore
      obtain ⟨later, hlater, hle'⟩ := hhas.step (keyed_run calls) (perform_step _ c.time c.call)
      exact ⟨later, hlater, UInt32.le_trans hle hle'⟩
    · have hnow := (hasCounter_of_told rfl (Option.mem_toList.mp hlast)).1
      exact ⟨counter, hnow, UInt32.le_refl _⟩

theorem toldCounters_sorted (calls : List TimedCall) (credentialId : Bytes) :
    (toldCounters credentialId (empty.journal calls)).Pairwise (· ≤ ·) := by
  induction calls using List.reverseRecOn with
  | nil => exact .nil
  | append_singleton calls c ih =>
    rw [toldCounters_concat]
    refine List.pairwise_append.mpr ⟨ih, ?_, ?_⟩
    · cases toldCounter credentialId c.call ((empty.run calls).perform c.time c.call).2 with
      | none => exact .nil
      | some told => exact List.pairwise_singleton _ told
    -- what was told before is no more than the stored counter, which the last answer is not below
    · intro counter hm told hlast
      obtain ⟨stored, hhas, hle⟩ := le_stored_of_told hm
      have hbefore := (hasCounter_of_told rfl (Option.mem_toList.mp hlast)).2
      exact UInt32.le_trans hle (hbefore stored hhas)

theorem le_of_told_later {calls : List TimedCall} {first second : Event} {counter later : UInt32}
    (order : [first, second] <+ empty.journal calls)
    (hfirst : first.counter? credentialId = some counter)
    (hsecond : second.counter? credentialId = some later) : counter ≤ later := by
  have htold : [counter, later] <+ toldCounters credentialId (empty.journal calls) := by
    simpa [toldCounters, hfirst, hsecond] using order.filterMap (·.counter? credentialId)
  exact List.pairwise_iff_forall_sublist.mp (toldCounters_sorted calls credentialId) htold

end RelyingParty.Store
