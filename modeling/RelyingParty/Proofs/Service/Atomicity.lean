import RelyingParty.Proofs.Service.Basic
import RelyingParty.Proofs.Store.Atomicity
import RelyingParty.Proofs.Store.Provenance

namespace RelyingParty

namespace Flow

variable {flow flow' : Flow} {s s' : Store} {now : UInt64}

/-- The store is as it was, unless the flow is a login that ended because its counter went down. -/
def Spares (flow : Flow) (s : Store) (now : UInt64) (s' : Store) : Prop :=
  s' = s ∨ ∃ l stored received,
    flow = .login l (.ended (.error (.store (.counterNotMonotone stored received)))) ∧
      s.Flagged now l.request.credentialId stored received s'

theorem advance_of_succeeded (h : flow.succeeded = true) : flow.advance s now = (s, flow, none) := by
  unfold succeeded at h
  split at h
  · rfl
  · rfl
  · cases h

theorem not_succeeded_of_advance (h : (flow.advance s now).2.1.succeeded = false) :
    flow.succeeded = false := by
  cases hs : flow.succeeded with
  | false => rfl
  | true =>
    rw [advance_of_succeeded hs] at h
    exact hs.symm.trans h

theorem advance_spares_registration (r : Registration) (stage : Registration.Stage)
    (h : ((registration r stage).advance s now).2.1.succeeded = false) :
    ((registration r stage).advance s now).1 = s := by
  cases stage with
  | asked => rfl
  | begun ceremony => rfl
  | verified ceremony credential =>
    cases hw : s.perform now (.writeCredential ceremony credential) with
    | mk s' answer =>
      simp only [advance, advance.step, Registration.next, hw] at h ⊢
      cases answer with
      | ok done => cases h
      | error e => exact Store.left_of_perform hw
  | ended outcome => rfl

theorem advance_spares_login (l : Login) (stage : Login.Stage)
    (h : ((login l stage).advance s now).2.1.succeeded = false) :
    ((login l stage).advance s now).2.1.Spares s now ((login l stage).advance s now).1 := by
  cases stage with
  | asked => exact .inl rfl
  | begun ceremony credential => exact .inl rfl
  | verified assertion =>
    cases hm : s.perform now
        (.moveCounter l.request.credentialId assertion.signCounter l.challengeId) with
    | mk s' answer =>
      simp only [advance, advance.step, Login.next, hm] at h ⊢
      cases answer with
      | ok done => cases h
      | error e =>
        have hleft := Store.left_of_perform hm
        cases e with
        | counterNotMonotone stored received => exact .inr ⟨l, stored, received, rfl, hleft.2⟩
        | notFound => exact .inl hleft
        | conditionFailed condition => exact .inl hleft
        | alreadyExists => exact .inl hleft
        | backend text => exact .inl hleft
  | ended outcome => exact .inl rfl

theorem advance_spares (h : (flow.advance s now).2.1.succeeded = false) :
    (flow.advance s now).2.1.Spares s now (flow.advance s now).1 := by
  cases flow with
  | registration r stage => exact .inl (advance_spares_registration r stage h)
  | login l stage => exact advance_spares_login l stage h

/-- One step more: a flow that ended does nothing. -/
theorem Spares.advance (hspares : flow.Spares s now s')
    (h : (flow.advance s' now).2.1.succeeded = false) :
    (flow.advance s' now).2.1.Spares s now (flow.advance s' now).1 := by
  obtain rfl | ⟨l, stored, received, rfl, hflagged⟩ := hspares
  · exact advance_spares h
  · exact .inr ⟨l, stored, received, rfl, hflagged⟩

theorem finish_spares (h : (flow.finish s now).2.succeeded = false) :
    (flow.finish s now).2.Spares s now (flow.finish s now).1 := by
  have hsecond := not_succeeded_of_advance h
  have hfirst := not_succeeded_of_advance hsecond
  exact ((advance_spares hfirst).advance hsecond).advance h

end Flow

namespace Service

variable {v : Service} {i : Nat} {flow flow' : Flow} {now : UInt64}

theorem step_proceed_eq (h : v.flows[i]? = some flow) : v.step now (.proceed i) =
    ⟨(flow.advance v.store now).1, v.flows.set i (flow.advance v.store now).2.1,
      v.journal ++ (flow.advance v.store now).2.2.toList.map (⟨some i, ·⟩)⟩ := by
  simp only [step, h]

theorem step_keeps_succeeded (h : v.flows[i]? = some flow) (hs : flow.succeeded = true) (now : UInt64)
    (action : Action) : (v.step now action).flows[i]? = some flow := by
  have hlt := (List.getElem?_eq_some_iff.mp h).1
  cases action with
  | call call => exact h
  | register r => exact (List.getElem?_append_left hlt).trans h
  | logIn l => exact (List.getElem?_append_left hlt).trans h
  | proceed j =>
    cases hj : v.flows[j]? with
    | none => simp only [step, hj, h]
    | some other =>
      rw [step_proceed_eq hj]
      by_cases hij : j = i
      · subst hij
        obtain rfl := Option.some.inj (h.symm.trans hj)
        rw [Flow.advance_of_succeeded hs, List.getElem?_set_self hlt]
      · exact (List.getElem?_set_ne hij).trans h

theorem run_keeps_succeeded (h : v.flows[i]? = some flow) (hs : flow.succeeded = true)
    (actions : List TimedAction) : (v.run actions).flows[i]? = some flow := by
  induction actions generalizing v with
  | nil => exact h
  | cons a actions ih => exact ih (step_keeps_succeeded h hs a.time a.action)

theorem proceed_spares (hflow : (v.step now (.proceed i)).flows[i]? = some flow')
    (h : flow'.succeeded = false) :
    flow'.Spares v.store now (v.step now (.proceed i)).store := by
  cases hi : v.flows[i]? with
  | none =>
    left
    simp only [step, hi]
  | some flow =>
    have hlt := (List.getElem?_eq_some_iff.mp hi).1
    rw [step_proceed_eq hi] at hflow ⊢
    obtain rfl := Option.some.inj ((List.getElem?_set_self hlt).symm.trans hflow)
    exact Flow.advance_spares h

/-- A call that is refused and a registration or login that fails leave the store as it was, except
that a counter which went down flags its credential. A completed registration puts the credential in the
place of its ceremony; a completed login moves the counter of its credential and removes its ceremony. -/
theorem failures_leave_store :
    (∀ (s s' : Store) (now : UInt64) (call : Store.Call) (e : StoreError),
      s.perform now call = (s', .error e) → s.LeftBy now call e s') ∧
    (∀ (earlier later : List TimedAction) (now : UInt64) (i : Nat) (flow last : Flow),
      let v := initial.run earlier
      let v' := v.step now (.proceed i)
      v'.flows[i]? = some flow → (v'.run later).flows[i]? = some last → last.succeeded = false →
        flow.Spares v.store now v'.store) ∧
    (∀ (s : Store) (now : UInt64) (flow : Flow), (flow.finish s now).2.succeeded = false →
      (flow.finish s now).2.Spares s now (flow.finish s now).1) ∧
    (∀ (s s' : Store) (now : UInt64) (ceremony : Ceremony) (credential : Credential),
      s.perform now (.writeCredential ceremony credential) = (s', .ok ()) →
        (∃ stored, s.ceremonies.Replaces s'.ceremonies ceremony.challengeId (some stored) none) ∧
        s.credentials.Replaces s'.credentials credential.rawId none (some credential)) ∧
    ∀ (s s' : Store) (now : UInt64) (credentialId challengeId : Bytes) (count : UInt32),
      s.perform now (.moveCounter credentialId count challengeId) = (s', .ok ()) →
        (∃ stored, s.ceremonies.Replaces s'.ceremonies challengeId (some stored) none) ∧
        ∃ c, s.credentials.Replaces s'.credentials credentialId (some c)
          (some { c with signCounter := count, updatedAt := now }) := by
  refine ⟨fun _ _ _ _ _ => Store.left_of_perform, ?_, fun _ _ _ => Flow.finish_spares,
    fun _ _ _ _ _ => Store.write_replaces, fun _ _ _ _ _ _ => Store.move_replaces⟩
  intro earlier later now i flow last v v' hflow hlast hfailed
  -- success is for good, so a flow that failed in the end had not succeeded before
  have hs : flow.succeeded = false := by
    cases hs : flow.succeeded with
    | false => rfl
    | true =>
      have hkept := run_keeps_succeeded hflow hs later
      obtain rfl := Option.some.inj (hkept.symm.trans hlast)
      exact hs.symm.trans hfailed
  exact proceed_spares hflow hs

def sampleStore : Store :=
  Store.empty.run [⟨0, .putCeremony Store.sampleRegistration⟩,
    ⟨1, .writeCredential Store.sampleRegistration { Store.sampleCredential with signCounter := 5 }⟩,
    ⟨2, .putCeremony Store.sampleLogin⟩]

def sampleFailure : Registration where
  challengeId := [1]
  request := ⟨[], [], none, none, "session"⟩
  party := ⟨"a", "b", none⟩
  settings := { environment := .production, time := 0, policy := ⟨false, false, .allowEqual⟩ }

def sampleFailing : List TimedAction :=
  [.call (.putCeremony Store.sampleRegistration), .register sampleFailure, .proceed 0].map (⟨1, ·⟩)

theorem failures_leave_store_sample :
    (∃ s', sampleStore.perform 3 (.moveCounter [9] 4 [2]) = (s', .error (.counterNotMonotone 5 4)) ∧
      sampleStore.Flagged 3 [9] 5 4 s') ∧
    (∃ flow, ((initial.run sampleFailing).step 1 (.proceed 0)).flows[0]? = some flow ∧
      flow.succeeded = false ∧ flow.Spares (initial.run sampleFailing).store 1
        ((initial.run sampleFailing).step 1 (.proceed 0)).store) ∧
    ((Flow.registration sampleFailure .asked).finish sampleStore 3).2.Spares sampleStore 3
      ((Flow.registration sampleFailure .asked).finish sampleStore 3).1 ∧
    (∃ s', sampleStore.perform 3 (.moveCounter [9] 6 [2]) = (s', .ok ()) ∧
      ∃ c, sampleStore.credentials.Replaces s'.credentials [9] (some c)
        (some { c with signCounter := 6, updatedAt := 3 })) := by
  obtain ⟨hcalls, hflows, hfinish, _, hmoved⟩ := failures_leave_store
  have hdown : sampleStore.perform 3 (.moveCounter [9] 4 [2]) =
      ((sampleStore.perform 3 (.moveCounter [9] 4 [2])).1, .error (.counterNotMonotone 5 4)) := rfl
  have hup : sampleStore.perform 3 (.moveCounter [9] 6 [2]) =
      ((sampleStore.perform 3 (.moveCounter [9] 6 [2])).1, .ok ()) := rfl
  have hrefused : (((initial.run sampleFailing).step 1 (.proceed 0)).flows.map Flow.succeeded) =
      [false] := by decide +kernel
  have hended : ((Flow.registration sampleFailure .asked).finish sampleStore 3).2.succeeded = false := by
    decide +kernel
  obtain ⟨flow, others, hflow, hfailed, _⟩ := List.map_eq_cons_iff.mp hrefused
  have hfirst : ((initial.run sampleFailing).step 1 (.proceed 0)).flows[0]? = some flow := by
    rw [hflow]
    rfl
  exact ⟨⟨_, hdown, (hcalls _ _ _ _ _ hdown).2⟩,
    ⟨flow, hfirst, hfailed, hflows sampleFailing [] 1 0 flow flow hfirst hfirst hfailed⟩,
    hfinish _ _ _ hended, ⟨_, hup, (hmoved _ _ _ _ _ _ hup).2⟩⟩

end Service

end RelyingParty
