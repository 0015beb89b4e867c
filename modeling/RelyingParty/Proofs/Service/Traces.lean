import RelyingParty.Proofs.Service.ReplayProtection

namespace RelyingParty

namespace Registration

def lookUp (r : Registration) (time : UInt64) (answer : Except StoreError Ceremony) : Store.Event :=
  ⟨⟨time, .getCeremony r.challengeId⟩, answer⟩

def commit (ceremony : Ceremony) (credential : Credential) (time : UInt64)
    (answer : Except StoreError Unit) : Store.Event :=
  ⟨⟨time, .writeCredential ceremony credential⟩, answer⟩

inductive Trace (r : Registration) : Stage → List Store.Event → Prop
  | asked : Trace r .asked []
  | begun (time : UInt64) (ceremony : Ceremony) :
    Trace r (.begun ceremony) [r.lookUp time (.ok ceremony)]
  | unknown (time : UInt64) (e : StoreError) :
    Trace r (.ended (.error (.store e))) [r.lookUp time (.error e)]
  | verified (time : UInt64) {ceremony : Ceremony} {credential : Credential} {now : UInt64}
    (accepted : r.request.verify ceremony.challengeId r.party r.settings now = .ok credential) :
    Trace r (.verified ceremony credential) [r.lookUp time (.ok ceremony)]
  | refused (time : UInt64) {ceremony : Ceremony} {e : VerificationError} {now : UInt64}
    (refused : r.request.verify ceremony.challengeId r.party r.settings now = .error e) :
    Trace r (.ended (.error (.verification e))) [r.lookUp time (.ok ceremony)]
  | committed (time last : UInt64) {ceremony : Ceremony} {credential : Credential} {now : UInt64}
    (accepted : r.request.verify ceremony.challengeId r.party r.settings now = .ok credential) :
    Trace r (.ended (.ok credential))
      [r.lookUp time (.ok ceremony), commit ceremony credential last (.ok ())]
  | declined (time last : UInt64) {ceremony : Ceremony} {credential : Credential} {now : UInt64}
    (e : StoreError)
    (accepted : r.request.verify ceremony.challengeId r.party r.settings now = .ok credential) :
    Trace r (.ended (.error (.store e)))
      [r.lookUp time (.ok ceremony), commit ceremony credential last (.error e)]

end Registration

namespace Login

def lookUp (l : Login) (time : UInt64) (answer : Except StoreError (Ceremony × Credential)) :
    Store.Event :=
  ⟨⟨time, .getCeremonyAndCredential l.challengeId l.request.credentialId⟩, answer⟩

def commit (l : Login) (count : UInt32) (time : UInt64) (answer : Except StoreError Unit) :
    Store.Event :=
  ⟨⟨time, .moveCounter l.request.credentialId count l.challengeId⟩, answer⟩

inductive Trace (l : Login) : Stage → List Store.Event → Prop
  | asked : Trace l .asked []
  | begun (time : UInt64) (ceremony : Ceremony) (credential : Credential) :
    Trace l (.begun ceremony credential) [l.lookUp time (.ok (ceremony, credential))]
  | unknown (time : UInt64) (e : StoreError) :
    Trace l (.ended (.error (.store e))) [l.lookUp time (.error e)]
  | verified (time : UInt64) {ceremony : Ceremony} {credential : Credential}
    {assertion : VerifiedAssertion}
    (accepted : l.request.verify ceremony.challengeId credential l.party l.policy = .ok assertion) :
    Trace l (.verified assertion) [l.lookUp time (.ok (ceremony, credential))]
  | refused (time : UInt64) {ceremony : Ceremony} {credential : Credential} {e : VerificationError}
    (refused : l.request.verify ceremony.challengeId credential l.party l.policy = .error e) :
    Trace l (.ended (.error (.verification e))) [l.lookUp time (.ok (ceremony, credential))]
  | committed (time last : UInt64) {ceremony : Ceremony} {credential : Credential}
    {assertion : VerifiedAssertion}
    (accepted : l.request.verify ceremony.challengeId credential l.party l.policy = .ok assertion) :
    Trace l (.ended (.ok assertion))
      [l.lookUp time (.ok (ceremony, credential)), l.commit assertion.signCounter last (.ok ())]
  | declined (time last : UInt64) {ceremony : Ceremony} {credential : Credential}
    {assertion : VerifiedAssertion} (e : StoreError)
    (accepted : l.request.verify ceremony.challengeId credential l.party l.policy = .ok assertion) :
    Trace l (.ended (.error (.store e)))
      [l.lookUp time (.ok (ceremony, credential)), l.commit assertion.signCounter last (.error e)]

end Login

namespace Flow

variable {flow : Flow} {events : List Store.Event}

def Trace : Flow → List Store.Event → Prop
  | registration r stage => r.Trace stage
  | login l stage => l.Trace stage

theorem advance_trace_registration {r : Registration} {stage : Registration.Stage}
    (h : r.Trace stage events) (s : Store) (now : UInt64) :
    let result := (registration r stage).advance s now
    result.2.1.Trace (events ++ result.2.2.toList) := by
  cases h with
  | asked =>
    cases hc : s.liveCeremony now r.challengeId with
    | error e =>
      simp only [advance, advance.step, Registration.next, Store.perform, hc]
      exact .unknown now e
    | ok ceremony =>
      simp only [advance, advance.step, Registration.next, Store.perform, hc]
      exact .begun now ceremony
  | begun time ceremony =>
    cases hv : r.request.verify ceremony.challengeId r.party r.settings now with
    | error e =>
      simp only [advance, advance.step, Registration.next, hv]
      exact .refused time hv
    | ok credential =>
      simp only [advance, advance.step, Registration.next, hv]
      exact .verified time hv
  | @verified time ceremony credential _ accepted =>
    cases hw : s.perform now (.writeCredential ceremony credential) with
    | mk s' answer =>
      simp only [advance, advance.step, Registration.next, hw]
      cases answer with
      | error e => exact .declined time now e accepted
      | ok done => exact .committed time now accepted
  | unknown time e => exact .unknown time e
  | refused time refused => exact .refused time refused
  | committed time last accepted => exact .committed time last accepted
  | declined time last e accepted => exact .declined time last e accepted

theorem advance_trace_login {l : Login} {stage : Login.Stage} (h : l.Trace stage events) (s : Store)
    (now : UInt64) :
    let result := (login l stage).advance s now
    result.2.1.Trace (events ++ result.2.2.toList) := by
  cases h with
  | asked =>
    cases hc : s.ceremonyAndCredential now l.challengeId l.request.credentialId with
    | error e =>
      simp only [advance, advance.step, Login.next, Store.perform, hc]
      exact .unknown now e
    | ok found =>
      simp only [advance, advance.step, Login.next, Store.perform, hc]
      exact .begun now found.1 found.2
  | begun time ceremony credential =>
    cases hv : l.request.verify ceremony.challengeId credential l.party l.policy with
    | error e =>
      simp only [advance, advance.step, Login.next, hv]
      exact .refused time hv
    | ok assertion =>
      simp only [advance, advance.step, Login.next, hv]
      exact .verified time hv
  | @verified time _ _ assertion accepted =>
    cases hm : s.perform now
        (.moveCounter l.request.credentialId assertion.signCounter l.challengeId) with
    | mk s' answer =>
      simp only [advance, advance.step, Login.next, hm]
      cases answer with
      | error e => exact .declined time now e accepted
      | ok done => exact .committed time now accepted
  | unknown time e => exact .unknown time e
  | refused time refused => exact .refused time refused
  | committed time last accepted => exact .committed time last accepted
  | declined time last e accepted => exact .declined time last e accepted

theorem Trace.advance (h : flow.Trace events) (s : Store) (now : UInt64) :
    (flow.advance s now).2.1.Trace (events ++ (flow.advance s now).2.2.toList) := by
  cases flow with
  | registration r stage => exact advance_trace_registration h s now
  | login l stage => exact advance_trace_login h s now

end Flow

namespace Service

def eventsOf (v : Service) (i : Nat) : List Store.Event :=
  (v.journal.filter (·.flow == some i)).map (·.event)

/-- Every flow has made the calls of its stage, and nobody made calls for a flow that is still to come. -/
structure Traced (v : Service) : Prop where
  trace : ∀ {i : Nat} {flow : Flow}, v.flows[i]? = some flow → flow.Trace (v.eventsOf i)
  absent : ∀ {i : Nat}, v.flows.length ≤ i → v.eventsOf i = []

variable {v : Service} {now : UInt64}

theorem eventsOf_append_self (v : Service) (s : Store) (flows : List Flow) (i : Nat)
    (made : List Store.Event) :
    eventsOf ⟨s, flows, v.journal ++ made.map (⟨some i, ·⟩)⟩ i = v.eventsOf i ++ made := by
  simp [eventsOf, List.filter_map, Function.comp_def]

theorem eventsOf_append_of_ne (v : Service) (s : Store) (flows : List Flow) {i : Nat}
    {caller : Option Nat} (h : caller ≠ some i) (made : List Store.Event) :
    eventsOf ⟨s, flows, v.journal ++ made.map (⟨caller, ·⟩)⟩ i = v.eventsOf i := by
  simp [eventsOf, List.filter_map, Function.comp_def, h]

theorem Traced.open (h : v.Traced) {flow : Flow} (new : flow.Trace []) :
    Traced ⟨v.store, v.flows ++ [flow], v.journal⟩ where
  trace {i other} hother := by
    rcases Nat.lt_or_ge i v.flows.length with hi | hi
    · rw [List.getElem?_append_left hi] at hother
      exact h.trace hother
    · rw [List.getElem?_append_right hi] at hother
      obtain rfl := List.mem_singleton.mp (List.mem_of_getElem? hother)
      have hnone : v.eventsOf i = [] := h.absent hi
      exact hnone.symm ▸ new
  absent {i} hi := by
    rw [List.length_append] at hi
    exact h.absent (Nat.le_trans (Nat.le_add_right _ _) hi)

theorem Traced.proceed (h : v.Traced) {i : Nat} {flow flow' : Flow} {s' : Store}
    {made : List Store.Event} (hflow : v.flows[i]? = some flow)
    (trace : flow'.Trace (v.eventsOf i ++ made)) :
    Traced ⟨s', v.flows.set i flow', v.journal ++ made.map (⟨some i, ·⟩)⟩ where
  trace {j other} hother := by
    have hi := (List.getElem?_eq_some_iff.mp hflow).1
    by_cases hij : i = j
    · subst hij
      obtain rfl := Option.some.inj ((List.getElem?_set_self hi).symm.trans hother)
      rwa [eventsOf_append_self]
    -- the flows at other places are as they were, and so are their calls
    · rw [List.getElem?_set_ne hij] at hother
      rw [eventsOf_append_of_ne v _ _ (by simpa using hij)]
      exact h.trace hother
  absent {j} hj := by
    have hi := (List.getElem?_eq_some_iff.mp hflow).1
    rw [List.length_set] at hj
    have hij : some i ≠ some j := by
      intro heq
      exact absurd hi (Nat.not_lt.mpr (Option.some.inj heq ▸ hj))
    rw [eventsOf_append_of_ne v _ _ hij]
    exact h.absent hj

theorem Traced.step (h : v.Traced) (now : UInt64) (action : Action) : (v.step now action).Traced := by
  cases action with
  | call call =>
    have same (i : Nat) : (v.step now (.call call)).eventsOf i = v.eventsOf i := by
      have hcaller : (none : Option Nat) ≠ some i := nofun
      exact eventsOf_append_of_ne v _ v.flows hcaller [⟨⟨now, call⟩, (v.store.perform now call).2⟩]
    exact ⟨fun hflow => same _ ▸ h.trace hflow, fun hi => (same _).trans (h.absent hi)⟩
  | register r => exact h.open .asked
  | logIn l => exact h.open .asked
  | proceed i =>
    cases hflow : v.flows[i]? with
    | none => simpa only [Service.step, hflow] using h
    | some flow =>
      simp only [Service.step, hflow]
      exact h.proceed hflow ((h.trace hflow).advance v.store now)

theorem run_traced (actions : List TimedAction) : (initial.run actions).Traced := by
  induction actions using List.reverseRecOn with
  | nil =>
    refine ⟨?_, fun _ => rfl⟩
    intro i flow hflow
    cases hflow
  | append_singleton actions a ih =>
    rw [run, List.foldl_append]
    exact ih.step a.time a.action

end Service

end RelyingParty
