import RelyingParty.Proofs.ClientData
import RelyingParty.Proofs.Service.Basic

namespace RelyingParty

namespace Store

variable {s s' : Store} {now : UInt64} {change : Change}

/-- Completions and the ceremony still stored never exceed what was stored and put. -/
theorem Step.completes_le (h : Step s now change s') (challengeId : Bytes) :
    (change.completes challengeId).toNat + (s'.ceremonies.contains challengeId).toNat ≤
      (s.ceremonies.contains challengeId).toNat + (change.puts challengeId).toNat := by
  cases hcompletes : change.completes challengeId with
  | true =>
    obtain ⟨hbefore, hafter⟩ := h.consumed_of_completes hcompletes
    rw [hbefore, hafter]
    simp
  | false =>
    cases hs' : s'.ceremonies.contains challengeId with
    | false => simp
    | true =>
      obtain ⟨c, hc⟩ := Option.isSome_iff_exists.mp hs'
      rcases h.ceremony_before hc with ⟨rfl, hid⟩ | hc
      · simp [Change.puts, hid]
      · simp [Table.contains, hc]

theorem completes_le_puts (calls : List TimedCall) (challengeId : Bytes) :
    (empty.journal calls).countP (·.change.completes challengeId) +
        ((empty.run calls).ceremonies.contains challengeId).toNat ≤
      (empty.journal calls).countP (·.change.puts challengeId) := by
  apply run_induction (P := fun events s =>
    events.countP (·.change.completes challengeId) + (s.ceremonies.contains challengeId).toNat ≤
      events.countP (·.change.puts challengeId))
  · exact Nat.le_refl 0
  · intro events s e s' ih hstep
    have hle := hstep.completes_le challengeId
    have hone (p : Bool) : p.toNat = if p then 1 else 0 := by cases p <;> rfl
    simp only [List.countP_append, List.countP_singleton, ← hone]
    omega

end Store

def Registration.Sound (r : Registration) : Stage → Prop
  | .asked => True
  | .begun ceremony => ceremony.challengeId = r.challengeId
  | .verified ceremony _ =>
    ceremony.challengeId = r.challengeId ∧ Answers r.request.clientData r.challengeId
  | .ended (.ok _) => Answers r.request.clientData r.challengeId
  | .ended (.error _) => True

def Login.Sound (l : Login) : Stage → Prop
  | .asked => True
  | .begun ceremony _ => ceremony.challengeId = l.challengeId
  | .verified _ => Answers l.request.clientData l.challengeId
  | .ended (.ok _) => Answers l.request.clientData l.challengeId
  | .ended (.error _) => True

namespace Flow

variable {s : Store} {now : UInt64}

def Sound : Flow → Prop
  | registration r stage => r.Sound stage
  | login l stage => l.Sound stage

theorem Sound.answers {flow : Flow} (h : flow.Sound) (hs : flow.succeeded = true) :
    Answers flow.clientData flow.challengeId := by
  unfold succeeded at hs
  split at hs
  · exact h
  · exact h
  · cases hs

/-- What one step of a flow does: the flow stays sound, and a call that completes a ceremony
completes the one that the flow names and ends the flow with success. -/
structure Advance (flow : Flow) (s : Store) (now : UInt64) (s' : Store) (flow' : Flow)
    (event : Option Store.Event) : Prop where
  sound : flow'.Sound
  challengeId : flow'.challengeId = flow.challengeId
  clientData : flow'.clientData = flow.clientData
  silent : event = none → s' = s ∧ flow'.succeeded = flow.succeeded
  called : ∀ e, event = some e → s.perform e.time e.call = (s', e.answer) ∧ flow.succeeded = false ∧
    ∀ c, e.change.completes c = (flow'.succeeded && flow.challengeId == c)

theorem Advance.of_silent {flow flow' : Flow} (sound : flow'.Sound)
    (challengeId : flow'.challengeId = flow.challengeId)
    (clientData : flow'.clientData = flow.clientData)
    (succeeded : flow'.succeeded = flow.succeeded) : Advance flow s now s flow' none where
  sound := sound
  challengeId := challengeId
  clientData := clientData
  silent _ := ⟨rfl, succeeded⟩
  called _ h := by cases h

theorem Advance.of_call {flow flow' : Flow} {call : Store.Call} {s' : Store}
    {answer : Except StoreError call.Reply} (sound : flow'.Sound)
    (challengeId : flow'.challengeId = flow.challengeId)
    (clientData : flow'.clientData = flow.clientData)
    (performed : s.perform now call = (s', answer)) (running : flow.succeeded = false)
    (completes : ∀ c, (Store.Change.ofAnswer call answer).completes c =
      (flow'.succeeded && flow.challengeId == c)) :
    Advance flow s now s' flow' (some ⟨⟨now, call⟩, answer⟩) where
  sound := sound
  challengeId := challengeId
  clientData := clientData
  silent h := by cases h
  called e h := by
    cases h
    exact ⟨performed, running, completes⟩

theorem advance_registration (r : Registration) (stage : Registration.Stage) (hk : s.Keyed)
    (h : r.Sound stage) :
    let result := (registration r stage).advance s now
    Advance (registration r stage) s now result.1 result.2.1 result.2.2 := by
  cases stage with
  | asked =>
    cases hc : s.liveCeremony now r.challengeId with
    | error e =>
      simp only [advance, advance.step, Registration.next, Store.perform, hc]
      exact .of_call trivial rfl rfl (by rw [Store.perform, hc]) rfl fun _ => rfl
    | ok ceremony =>
      have hid := hk.ceremonies (Store.liveCeremony_eq_ok.mp hc).1
      simp only [advance, advance.step, Registration.next, Store.perform, hc]
      exact .of_call hid rfl rfl (by rw [Store.perform, hc]) rfl fun _ => rfl
  | begun ceremony =>
    cases hv : r.request.verify ceremony.challengeId r.party r.settings now with
    | error e =>
      simp only [advance, advance.step, Registration.next, hv]
      exact .of_silent trivial rfl rfl rfl
    | ok credential =>
      have hid : ceremony.challengeId = r.challengeId := h
      have hanswers := hid ▸ RegistrationRequest.answers_of_verify hv
      simp only [advance, advance.step, Registration.next, hv]
      exact .of_silent ⟨hid, hanswers⟩ rfl rfl rfl
  | verified ceremony credential =>
    obtain ⟨hid, hanswers⟩ := h
    cases hw : s.writeCredential now ceremony credential with
    | error e =>
      simp only [advance, advance.step, Registration.next, Store.perform, Store.commit, hw]
      exact .of_call trivial rfl rfl (by rw [Store.perform, hw]; rfl) rfl fun _ => rfl
    | ok s' =>
      simp only [advance, advance.step, Registration.next, Store.perform, Store.commit, hw]
      refine .of_call hanswers rfl rfl (by rw [Store.perform, hw]; rfl) rfl ?_
      intro c
      simp [Store.Change.ofAnswer, Store.Change.completes, succeeded, challengeId, hid]
  | ended outcome => exact .of_silent h rfl rfl rfl

theorem advance_login (l : Login) (stage : Login.Stage) (hk : s.Keyed) (h : l.Sound stage) :
    let result := (login l stage).advance s now
    Advance (login l stage) s now result.1 result.2.1 result.2.2 := by
  cases stage with
  | asked =>
    cases hc : s.ceremonyAndCredential now l.challengeId l.request.credentialId with
    | error e =>
      simp only [advance, advance.step, Login.next, Store.perform, hc]
      exact .of_call trivial rfl rfl (by rw [Store.perform, hc]) rfl fun _ => rfl
    | ok found =>
      obtain ⟨ceremony, credential⟩ := found
      have hid := hk.ceremonies (Store.ceremonyAndCredential_eq_ok.mp hc).1.1
      simp only [advance, advance.step, Login.next, Store.perform, hc]
      exact .of_call hid rfl rfl (by rw [Store.perform, hc]) rfl fun _ => rfl
  | begun ceremony credential =>
    cases hv : l.request.verify ceremony.challengeId credential l.party l.policy with
    | error e =>
      simp only [advance, advance.step, Login.next, hv]
      exact .of_silent trivial rfl rfl rfl
    | ok assertion =>
      have hid : ceremony.challengeId = l.challengeId := h
      have hanswers := hid ▸ AssertionRequest.answers_of_verify hv
      simp only [advance, advance.step, Login.next, hv]
      exact .of_silent hanswers rfl rfl rfl
  | verified assertion =>
    cases hm : s.moveCounter now l.request.credentialId assertion.signCounter l.challengeId with
    | mk s' answer =>
      cases answer with
      | error e =>
        simp only [advance, advance.step, Login.next, Store.perform, hm]
        refine .of_call trivial rfl rfl (by rw [Store.perform, hm]) rfl ?_
        intro c
        cases e <;> rfl
      | ok done =>
        simp only [advance, advance.step, Login.next, Store.perform, hm]
        refine .of_call h rfl rfl (by rw [Store.perform, hm]) rfl ?_
        intro c
        simp [Store.Change.ofAnswer, Store.Change.completes, succeeded, challengeId]
  | ended outcome => exact .of_silent h rfl rfl rfl

theorem Sound.advance {flow : Flow} (h : flow.Sound) (hk : s.Keyed) :
    let result := flow.advance s now
    Advance flow s now result.1 result.2.1 result.2.2 := by
  cases flow with
  | registration r stage => exact advance_registration r stage hk h
  | login l stage => exact advance_login l stage hk h

end Flow

namespace Service

def calls (v : Service) : List Store.TimedCall := v.journal.map (·.event.toTimedCall)

/-- The store is what the calls made of the empty one, and the journal tells their answers. -/
structure Recorded (v : Service) : Prop where
  store : v.store = Store.empty.run v.calls
  journal : v.journal.map (·.event) = Store.empty.journal v.calls

variable {v : Service} {now : UInt64}

theorem Recorded.keyed (h : v.Recorded) : v.store.Keyed := h.store ▸ Store.keyed_run v.calls

theorem Recorded.log (h : v.Recorded) {call : Store.Call} {s' : Store}
    {answer : Except StoreError call.Reply} (performed : v.store.perform now call = (s', answer))
    (flows : List Flow) (caller : Option Nat) :
    Recorded ⟨s', flows, v.journal ++ [⟨caller, ⟨now, call⟩, answer⟩]⟩ := by
  have hcalls : calls ⟨s', flows, v.journal ++ [⟨caller, ⟨now, call⟩, answer⟩]⟩ =
      v.calls ++ [⟨now, call⟩] := by simp [calls]
  refine ⟨?_, ?_⟩
  · rw [hcalls, Store.run_concat, ← h.store, performed]
  · rw [hcalls, Store.journal_concat, ← h.store, performed, ← h.journal]
    simp

/-- What the journal tells of flows. Each flow is sound; one that succeeded completed the ceremony
that it names, and a flow completes no other; and no two of them share a completion. -/
structure Accounted (v : Service) : Prop where
  sound : ∀ flow ∈ v.flows, flow.Sound
  committed : ∀ i flow, v.flows[i]? = some flow → flow.succeeded = true →
    ∃ event, ⟨some i, event⟩ ∈ v.journal ∧ event.change.completes flow.challengeId = true
  named : ∀ i event c, ⟨some i, event⟩ ∈ v.journal → event.change.completes c = true →
    ∃ flow, v.flows[i]? = some flow ∧ flow.challengeId = c
  counted : ∀ c, v.flows.countP (fun flow => flow.succeeded && flow.challengeId == c) ≤
    v.journal.countP (·.event.change.completes c)

theorem Accounted.log (h : v.Accounted) (s' : Store) (event : Store.Event) :
    Accounted ⟨s', v.flows, v.journal ++ [⟨none, event⟩]⟩ where
  sound := h.sound
  committed i flow hflow hs := by
    obtain ⟨e, hm, hc⟩ := h.committed i flow hflow hs
    exact ⟨e, List.mem_append_left _ hm, hc⟩
  named i e c hm hc := by
    rcases List.mem_append.mp hm with hm | hm
    · exact h.named i e c hm hc
    · simp at hm
  counted c := by
    rw [List.countP_append]
    exact Nat.le_add_right_of_le (h.counted c)

theorem Accounted.open (h : v.Accounted) {flow : Flow} (sound : flow.Sound)
    (running : flow.succeeded = false) :
    Accounted ⟨v.store, v.flows ++ [flow], v.journal⟩ where
  sound other hm := by
    rcases List.mem_append.mp hm with hm | hm
    · exact h.sound other hm
    · exact List.mem_singleton.mp hm ▸ sound
  committed i other hother hs := by
    by_cases hi : i < v.flows.length
    · rw [List.getElem?_append_left hi] at hother
      exact h.committed i other hother hs
    · rw [List.getElem?_append_right (Nat.le_of_not_lt hi)] at hother
      have hflow : flow = other := List.mem_singleton.mp (List.mem_of_getElem? hother) |>.symm
      rw [← hflow, running] at hs
      cases hs
  named i e c hm hc := by
    obtain ⟨other, hother, hid⟩ := h.named i e c hm hc
    obtain ⟨hi, _⟩ := List.getElem?_eq_some_iff.mp hother
    exact ⟨other, by rw [List.getElem?_append_left hi, hother], hid⟩
  counted c := by
    rw [List.countP_append]
    simpa [running] using h.counted c

theorem Accounted.advance (h : v.Accounted) {i : Nat} {flow flow' : Flow} {s' : Store}
    {event : Option Store.Event} (hflow : v.flows[i]? = some flow)
    (step : flow.Advance v.store now s' flow' event) :
    Accounted ⟨s', v.flows.set i flow', v.journal ++ event.toList.map (⟨some i, ·⟩)⟩ where
  sound other hm := by
    rcases List.mem_or_eq_of_mem_set hm with hm | rfl
    · exact h.sound other hm
    · exact step.sound
  committed j other hother hs := by
    by_cases hij : i = j
    · subst hij
      obtain ⟨hi, _⟩ := List.getElem?_eq_some_iff.mp hflow
      have hsame : flow' = other := by simpa [hi] using hother
      subst hsame
      rw [step.challengeId]
      cases event with
      | none =>
        rw [(step.silent rfl).2] at hs
        obtain ⟨e, hm, hc⟩ := h.committed i flow hflow hs
        exact ⟨e, List.mem_append_left _ hm, hc⟩
      | some e => exact ⟨e, by simp, by simp [(step.called e rfl).2.2, hs]⟩
    · rw [List.getElem?_set_ne hij] at hother
      obtain ⟨e, hm, hc⟩ := h.committed j other hother hs
      exact ⟨e, List.mem_append_left _ hm, hc⟩
  named j e c hm hc := by
    obtain ⟨hi, _⟩ := List.getElem?_eq_some_iff.mp hflow
    have hset : (v.flows.set i flow')[i]? = some flow' := by simp [hi]
    rcases List.mem_append.mp hm with hm | hm
    · obtain ⟨other, hother, hid⟩ := h.named j e c hm hc
      by_cases hij : i = j
      · subst hij
        have hsame : flow = other := Option.some.inj (hflow.symm.trans hother)
        exact ⟨flow', hset, by rw [step.challengeId, hsame, hid]⟩
      · exact ⟨other, by rw [List.getElem?_set_ne hij, hother], hid⟩
    · cases event with
      | none => simp at hm
      | some made =>
        obtain ⟨rfl, rfl⟩ : i = j ∧ made = e := by simpa [eq_comm] using hm
        rw [(step.called made rfl).2.2] at hc
        have hid : flow.challengeId = c := by simpa using (Bool.and_eq_true_iff.mp hc).2
        exact ⟨flow', hset, by rw [step.challengeId, hid]⟩
  counted c := by
    obtain ⟨hi, hget⟩ := List.getElem?_eq_some_iff.mp hflow
    have hle := h.counted c
    rw [List.countP_append, List.countP_set hi, hget]
    cases event with
    | none =>
      have hsame : (flow'.succeeded && flow'.challengeId == c) =
          (flow.succeeded && flow.challengeId == c) := by
        rw [(step.silent rfl).2, step.challengeId]
      have hpos : (if (flow.succeeded && flow.challengeId == c) = true then 1 else 0) ≤
          v.flows.countP (fun flow => flow.succeeded && flow.challengeId == c) := by
        split
        · exact List.countP_pos_iff.mpr ⟨flow, List.mem_of_getElem? hflow, ‹_›⟩
        · exact Nat.zero_le _
      simp only [hsame, Option.toList_none, List.map_nil, List.countP_nil]
      omega
    | some e =>
      obtain ⟨_, running, hc⟩ := step.called e rfl
      simp only [running, step.challengeId, hc c, Option.toList_some, List.map_cons, List.map_nil,
        List.countP_singleton, Bool.false_and, Bool.false_eq_true, if_false]
      omega

theorem Recorded.advance (h : v.Recorded) {i : Nat} {flow flow' : Flow} {s' : Store}
    {event : Option Store.Event} (step : flow.Advance v.store now s' flow' event) :
    Recorded ⟨s', v.flows.set i flow', v.journal ++ event.toList.map (⟨some i, ·⟩)⟩ := by
  cases event with
  | none =>
    obtain ⟨rfl, _⟩ := step.silent rfl
    rw [Option.toList_none, List.map_nil, List.append_nil]
    exact ⟨h.store, h.journal⟩
  | some e =>
    obtain ⟨⟨time, call⟩, answer⟩ := e
    exact h.log (step.called _ rfl).1 _ _

theorem step_accounted (hr : v.Recorded) (ha : v.Accounted) (action : Action) :
    (v.step now action).Recorded ∧ (v.step now action).Accounted := by
  cases action with
  | call call => exact ⟨hr.log rfl _ _, ha.log _ _⟩
  | register r => exact ⟨⟨hr.store, hr.journal⟩, ha.open trivial rfl⟩
  | logIn l => exact ⟨⟨hr.store, hr.journal⟩, ha.open trivial rfl⟩
  | proceed i =>
    cases hflow : v.flows[i]? with
    | none => simpa [Service.step, hflow] using ⟨hr, ha⟩
    | some flow =>
      have sound := ha.sound flow (List.mem_of_getElem? hflow)
      have step : Flow.Advance flow v.store now (flow.advance v.store now).1
        (flow.advance v.store now).2.1 (flow.advance v.store now).2.2 := sound.advance hr.keyed
      simp only [Service.step, hflow]
      exact ⟨hr.advance step, ha.advance hflow step⟩

theorem run_accounted (actions : List TimedAction) :
    (initial.run actions).Recorded ∧ (initial.run actions).Accounted := by
  induction actions using List.reverseRecOn with
  | nil =>
    refine ⟨⟨rfl, rfl⟩, ?_⟩
    constructor <;> simp [initial, run]
  | append_singleton actions a ih =>
    rw [run, List.foldl_append]
    exact step_accounted ih.1 ih.2 a.action

theorem completes_le_puts (actions : List TimedAction) {part : List Entry}
    (hpart : part <+: (initial.run actions).journal) (challengeId : Bytes) :
    part.countP (·.event.change.completes challengeId) ≤
      part.countP (·.event.change.puts challengeId) := by
  obtain ⟨recorded, _⟩ := run_accounted actions
  have hevents : part.map (·.event) <+: Store.empty.journal (initial.run actions).calls :=
    recorded.journal ▸ hpart.map (·.event)
  obtain ⟨earlier, hearlier⟩ := Store.calls_of_prefix hevents
  have hle := Store.completes_le_puts earlier challengeId
  rw [← hearlier, List.countP_map, List.countP_map] at hle
  exact Nat.le_trans (Nat.le_add_right _ _) hle

/-- Whatever a service does, and in whichever order the steps of its flows come: a challenge is
completed no more often than it was put; a registration or a login that succeeds completed exactly
the challenge that its client data states; and the same client data succeeds no more often than its
challenge was put. -/
theorem replay_protection (actions : List TimedAction) :
    let v := initial.run actions
    (∀ part, part <+: v.journal → ∀ challengeId,
      part.countP (·.event.change.completes challengeId) ≤
        part.countP (·.event.change.puts challengeId)) ∧
    (∀ i flow, v.flows[i]? = some flow → flow.succeeded = true →
      ∃ clientData, ClientData.ofJson flow.clientData = .ok clientData ∧
        (∃ event, ⟨some i, event⟩ ∈ v.journal ∧
          event.change.completes clientData.challenge = true) ∧
        ∀ event challengeId, ⟨some i, event⟩ ∈ v.journal →
          event.change.completes challengeId = true → challengeId = clientData.challenge) ∧
    (∀ json clientData, ClientData.ofJson json = .ok clientData →
      v.flows.countP (fun flow => flow.succeeded && flow.clientData == json) ≤
        v.journal.countP (·.event.change.puts clientData.challenge)) := by
  intro v
  obtain ⟨_, accounted⟩ := run_accounted actions
  refine ⟨fun part hpart => completes_le_puts actions hpart, ?_, ?_⟩
  · intro i flow hflow hs
    obtain ⟨clientData, hdecoded, hid⟩ :=
      (accounted.sound flow (List.mem_of_getElem? hflow)).answers hs
    refine ⟨clientData, hdecoded, hid ▸ accounted.committed i flow hflow hs, ?_⟩
    intro event challengeId hm hc
    obtain ⟨other, hother, hnamed⟩ := accounted.named i event challengeId hm hc
    have hsame : flow = other := Option.some.inj (hflow.symm.trans hother)
    rw [← hnamed, ← hsame, hid]
  · intro json clientData hdecoded
    calc v.flows.countP (fun flow => flow.succeeded && flow.clientData == json)
        ≤ v.flows.countP (fun flow => flow.succeeded && flow.challengeId == clientData.challenge) := by
          apply List.countP_mono_left
          intro flow hm h
          obtain ⟨hs, hjson⟩ := Bool.and_eq_true_iff.mp h
          obtain ⟨other, hother, hid⟩ := (accounted.sound flow hm).answers hs
          have heq : flow.clientData = json := by simpa using hjson
          rw [heq, hdecoded] at hother
          rw [Except.ok.inj hother]
          simp [hs, hid]
      _ ≤ v.journal.countP (·.event.change.completes clientData.challenge) := accounted.counted _
      _ ≤ v.journal.countP (·.event.change.puts clientData.challenge) :=
        completes_le_puts actions (List.prefix_refl _) _

def sampleClientData : Bytes :=
  Bytes.ofText "\x7b\"type\":\"webauthn.create\",\"challenge\":\"AQ\",\"origin\":\"b\"\x7d"

def sampleAttestation : Bytes :=
  [0xa3, 0x63, 0x66, 0x6d, 0x74, 0x64, 0x6e, 0x6f, 0x6e, 0x65, 0x67, 0x61, 0x74, 0x74, 0x53, 0x74, 0x6d,
    0x74, 0xa0, 0x68, 0x61, 0x75, 0x74, 0x68, 0x44, 0x61, 0x74, 0x61, 0x58, 57]
    ++ (idHash "a").bytes ++ [0x40, 0, 0, 0, 0] ++ List.replicate 16 0 ++ [0, 1, 9, 0xa0]

def sampleRegistration : Registration where
  challengeId := [1]
  request := ⟨sampleClientData, sampleAttestation, none, none, "session"⟩
  party := ⟨"a", "b", none⟩
  settings := { environment := .production, time := 0, policy := ⟨false, false, .allowEqual⟩ }

def sampleActions : List TimedAction :=
  [.call (.putCeremony (.begin [1] "session" .create none 0)), .register sampleRegistration,
    .register sampleRegistration, .proceed 0, .proceed 1, .proceed 0, .proceed 1, .proceed 0,
    .proceed 1].map (⟨5, ·⟩)

theorem replay_protection_sample :
    let v := initial.run sampleActions
    v.flows.map Flow.succeeded = [true, false] ∧
    v.journal.countP (·.event.change.completes [1]) ≤
      v.journal.countP (·.event.change.puts [1]) ∧
    (∃ event, ⟨some 0, event⟩ ∈ v.journal ∧ event.change.completes [1] = true) ∧
    v.flows.countP (fun flow => flow.succeeded && flow.clientData == sampleClientData) ≤
      v.journal.countP (·.event.change.puts [1]) := by
  intro v
  have hsucceeded : v.flows.map Flow.succeeded = [true, false] := by decide +kernel
  have hsent : v.flows.map Flow.clientData = [sampleClientData, sampleClientData] := by decide +kernel
  have hdecodes : (ClientData.ofJson sampleClientData).toOption.map (·.challenge) = some [1] := by
    decide +kernel
  obtain ⟨hcounts, hanswers, hsame⟩ := replay_protection sampleActions
  obtain ⟨clientData, hdecoded, hid⟩ : ∃ clientData,
      ClientData.ofJson sampleClientData = .ok clientData ∧ clientData.challenge = [1] := by
    cases h : ClientData.ofJson sampleClientData with
    | error e => simp [h, Except.toOption] at hdecodes
    | ok clientData => exact ⟨clientData, rfl, by simpa [h, Except.toOption] using hdecodes⟩
  obtain ⟨flow, others, hflows, hs, _⟩ := List.map_eq_cons_iff.mp hsucceeded
  have hfirst : flow.clientData = sampleClientData := by
    rw [hflows, List.map_cons] at hsent
    exact (List.cons.inj hsent).1
  obtain ⟨stated, hstated, hcompleted, _⟩ := hanswers 0 flow (by simp [v, hflows]) hs
  have hchallenge : stated.challenge = [1] := by
    rw [hfirst, hdecoded] at hstated
    rw [← Except.ok.inj hstated, hid]
  refine ⟨hsucceeded, hcounts v.journal (List.prefix_refl _) [1], ?_, ?_⟩
  · exact hchallenge ▸ hcompleted
  · exact hid ▸ hsame sampleClientData clientData hdecoded

end Service

end RelyingParty
