import RelyingParty.Proofs.Service.Traces
import RelyingParty.Proofs.Service.UninterruptedLogin
import RelyingParty.Proofs.Store.CounterHistory

open scoped List

namespace RelyingParty

/-- A login commits a count that its policy accepted after the counter that it read. -/
theorem Login.Trace.accepts {l : Login} {stage : Stage} {events : List Store.Event}
    (trace : l.Trace stage events) {first last : Store.Event} (order : [first, last] <+ events)
    {credentialId : Bytes} {count : UInt32} (hcount : last.change.countOf? credentialId = some count) :
    ∃ read, first.counter? credentialId = some read ∧ l.policy.counter.accepts read count = true := by
  have htwo : 2 ≤ events.length := order.length_le
  cases trace with
  | asked => simp at htwo
  | begun => simp at htwo
  | unknown => simp at htwo
  | verified => simp at htwo
  | refused => simp at htwo
  | declined time done e accepted =>
    obtain ⟨rfl, rfl⟩ : first = _ ∧ last = _ := by simpa using order.eq_of_length rfl
    cases e <;> cases hcount
  | @committed time done ceremony credential assertion accepted =>
    obtain ⟨rfl, rfl⟩ : first = _ ∧ last = _ := by simpa using order.eq_of_length rfl
    have hmoved : (if l.request.credentialId = credentialId then some assertion.signCounter
        else none) = some count := hcount
    obtain ⟨rfl, hassertion⟩ := Option.ite_none_right_eq_some.mp hmoved
    obtain rfl := Option.some.inj hassertion
    exact ⟨credential.signCounter, if_pos rfl, AssertionRequest.counter_of_verify accepted⟩

def Flow.isStrictLogin : Flow → Bool
  | registration _ _ => false
  | login l _ => l.policy.counter == .strictlyIncreasing

theorem Flow.isStrictLogin_iff {flow : Flow} : flow.isStrictLogin = true ↔
    ∃ l stage, flow = .login l stage ∧ l.policy.counter = .strictlyIncreasing := by
  cases flow <;> simp [isStrictLogin]

namespace Service

variable {v : Service} {i : Nat}

/-- The counts that were committed for a credential, in order. -/
def committedCounts (v : Service) (credentialId : Bytes) : List UInt32 :=
  v.journal.filterMap (·.event.change.countOf? credentialId)

theorem Recorded.events_of_sublist (h : v.Recorded) {entries : List Entry}
    (order : entries <+ v.journal) : entries.map (·.event) <+ Store.empty.journal v.calls :=
  h.journal ▸ order.map (·.event)

theorem eventsOf_of_sublist {first last : Entry} (order : [first, last] <+ v.journal)
    (hfirst : first.flow = some i) (hlast : last.flow = some i) :
    [first.event, last.event] <+ v.eventsOf i := by
  have hfilter := order.filter (·.flow == some i)
  simp only [List.filter_cons, hfirst, hlast, beq_self_eq_true, if_true, List.filter_nil] at hfilter
  exact hfilter.map (·.event)

theorem committedCounts_sorted (h : v.Recorded) (credentialId : Bytes) :
    (v.committedCounts credentialId).Pairwise (· ≤ ·) := by
  have hcounts : v.committedCounts credentialId =
      (Store.empty.journal v.calls).filterMap (·.change.countOf? credentialId) := by
    rw [← h.journal, List.filterMap_map]
    rfl
  have told := Store.toldCounters_sorted v.calls credentialId
  rw [hcounts, List.pairwise_filterMap]
  refine (List.pairwise_filterMap.mp told).imp ?_
  intro first last hle n hn m hm
  exact hle n (Store.Event.counter?_of_countOf? hn) m (Store.Event.counter?_of_countOf? hm)

/-- The counts committed for a credential never go down, and a strict login that read the credential
after a count was committed commits a greater one, unless the authenticator does not count. -/
theorem committed_counts_ordered (actions : List TimedAction) :
    let v := initial.run actions
    (∀ credentialId, (v.committedCounts credentialId).Pairwise (· ≤ ·)) ∧
    ∀ i l stage, v.flows[i]? = some (.login l stage) → l.policy.counter = .strictlyIncreasing →
      ∀ first read last, [first, read, last] <+ v.journal → read.flow = some i → last.flow = some i →
        ∀ credentialId n m, first.event.change.countOf? credentialId = some n →
          last.event.change.countOf? credentialId = some m → n < m ∨ n = 0 ∧ m = 0 := by
  intro v
  obtain ⟨recorded, _⟩ := run_accounted actions
  refine ⟨committedCounts_sorted recorded, ?_⟩
  intro i l stage hflow hstrict first read last order hread hlast credentialId n m hn hm
  have trace : l.Trace stage (v.eventsOf i) := (run_traced actions).trace hflow
  -- the login's own two calls bound the count from below by the counter that it read
  have own : [read, last] <+ v.journal := (List.sublist_cons_self first _).trans order
  have before : [first, read] <+ v.journal := .trans (by simp) order
  obtain ⟨counter, hcounter, haccepts⟩ := trace.accepts (eventsOf_of_sublist own hread hlast) hm
  have hle : n ≤ counter := Store.le_of_told_later (recorded.events_of_sublist before)
    (Store.Event.counter?_of_countOf? hn) hcounter
  rw [hstrict, CounterPolicy.strictlyIncreasing_accepts_iff] at haccepts
  rcases haccepts with hlt | ⟨rfl, rfl⟩
  · exact .inl (UInt32.lt_of_le_of_lt hle hlt)
  · exact .inr ⟨UInt32.le_zero_iff.mp hle, rfl⟩

def sampleCounted : List TimedAction :=
  [.call (.putCeremony Store.sampleRegistration),
    .call (.writeCredential Store.sampleRegistration Store.sampleCounting),
    .call (.putCeremony Store.sampleLogin),
    .call (.putCeremony { Store.sampleLogin with challengeId := [3] })].map (⟨3, ·⟩)

def sampleStrictLogin (challengeId : Bytes) (request : AssertionRequest) : Login :=
  ⟨challengeId, request, ⟨"a", "b", none⟩, Store.sampleStrict⟩

def sampleNextAnswer : AssertionRequest := Store.sampleAssertion "Aw" 7
  0xa88639cf6152ea3997e20575cdaed457db54d391149a2031f925e531dc6e120d3a5a3d86fcfafa261007f0b47a4bb244a69c3fff845ef41b62e0dcd52b4f26d2

def sampleCopiedAnswer : AssertionRequest := Store.sampleAssertion "Aw" 6
  0x22e848da5e9d9155fa6f511fef8c54f8df1d8c5a5d8f679e5daca2bd5f53a2863986252c5e08ab7cb501cb999172b69b6698cb8501de4a72b1bc697a4307d147

def sampleSuccessive : List TimedAction :=
  sampleCounted ++ [.logIn (sampleStrictLogin [2] Store.sampleAnswer),
    .logIn (sampleStrictLogin [3] sampleNextAnswer), .proceed 0, .proceed 0, .proceed 0, .proceed 1,
    .proceed 1, .proceed 1].map (⟨3, ·⟩)

theorem committed_counts_ordered_sample :
    let v := initial.run sampleSuccessive
    v.committedCounts [9] = [6, 7] ∧ (v.committedCounts [9]).Pairwise (· ≤ ·) ∧
      ∃ l stage first read last, v.flows[1]? = some (.login l stage) ∧
        l.policy.counter = .strictlyIncreasing ∧ [first, read, last] <+ v.journal ∧
        read.flow = some 1 ∧ last.flow = some 1 ∧
        first.event.change.countOf? [9] = some 6 ∧ last.event.change.countOf? [9] = some 7 ∧
        ((6 : UInt32) < 7 ∨ (6 : UInt32) = 0 ∧ (7 : UInt32) = 0) := by
  intro v
  obtain ⟨hsorted, hstrict⟩ := committed_counts_ordered sampleSuccessive
  -- the second login reads and commits in the last two calls, after the commit of the first
  obtain ⟨hcounts, hpolicies, hcalls⟩ : v.committedCounts [9] = [6, 7] ∧
      v.flows.map Flow.isStrictLogin = [true, true] ∧
      (v.journal.drop 5).map (fun entry => (entry.flow, entry.event.change.countOf? [9])) =
        [(some 0, some 6), (some 1, none), (some 1, some 7)] := by decide +kernel
  obtain ⟨first, rest, hjournal, hfirst, hrest⟩ := List.map_eq_cons_iff.mp hcalls
  obtain ⟨read, rest, rfl, hread, hrest⟩ := List.map_eq_cons_iff.mp hrest
  obtain ⟨last, rest, rfl, hlast, hrest⟩ := List.map_eq_cons_iff.mp hrest
  obtain rfl := List.map_eq_nil_iff.mp hrest
  obtain ⟨_, hfirst⟩ := Prod.mk.inj hfirst
  obtain ⟨hread, _⟩ := Prod.mk.inj hread
  obtain ⟨hlastFlow, hlast⟩ := Prod.mk.inj hlast
  have order : [first, read, last] <+ v.journal := hjournal ▸ List.drop_sublist 5 v.journal
  obtain ⟨other, flows, hflows, _, hsecond⟩ := List.map_eq_cons_iff.mp hpolicies
  obtain ⟨flow, none, rfl, hflow, _⟩ := List.map_eq_cons_iff.mp hsecond
  obtain ⟨l, stage, rfl, hpolicy⟩ := Flow.isStrictLogin_iff.mp hflow
  have hplace : v.flows[1]? = some (.login l stage) := by rw [hflows]; rfl
  exact ⟨hcounts, hsorted [9], l, stage, first, read, last, hplace, hpolicy, order, hread, hlastFlow,
    hfirst, hlast, hstrict 1 l stage hplace hpolicy _ _ _ order hread hlastFlow [9] 6 7 hfirst hlast⟩

def sampleOverlapping : List TimedAction :=
  sampleCounted ++ [.logIn (sampleStrictLogin [2] Store.sampleAnswer),
    .logIn (sampleStrictLogin [3] sampleCopiedAnswer), .proceed 0, .proceed 1, .proceed 0, .proceed 1,
    .proceed 0, .proceed 1].map (⟨3, ·⟩)

/-- Both commit the same count, so the counts of strict logins need not go up. -/
theorem overlapping_logins_repeat_count :
    let v := initial.run sampleOverlapping
    v.flows.map Flow.isStrictLogin = [true, true] ∧ v.flows.map Flow.succeeded = [true, true] ∧
      v.committedCounts [9] = [6, 6] ∧
      ¬ (v.committedCounts [9]).Pairwise (fun n m => n < m ∨ n = 0 ∧ m = 0) := by
  decide +kernel

end Service

end RelyingParty
