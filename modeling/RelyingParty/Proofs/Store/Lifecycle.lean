import RelyingParty.Proofs.Store.Provenance

namespace RelyingParty.Store

def lastCount (credentialId : Bytes) (changes : List Change) : Option UInt32 :=
  (changes.filterMap (·.countOf? credentialId)).getLast?

/-- The credential as it stands after changes, the last of which touched it at `time`. -/
def credentialAfter (c : Credential) (changes : List Change) (time : UInt64) : Credential :=
  { c with
    signCounter := (lastCount c.rawId changes).getD c.signCounter
    cloneWarning := c.cloneWarning || changes.any (·.flags c.rawId)
    updatedAt := time }

def changes (s : Store) (calls : List TimedCall) : List Change := (s.journal calls).map Event.change

theorem lastCount_append (credentialId : Bytes) (earlier later : List Change) :
    lastCount credentialId (earlier ++ later) =
      (lastCount credentialId later).or (lastCount credentialId earlier) := by
  simp [lastCount, List.getLast?_append]

theorem credentialAfter_append (c : Credential) (earlier later : List Change) (time last : UInt64) :
    credentialAfter c (earlier ++ later) last =
      credentialAfter (credentialAfter c earlier time) later last := by
  unfold credentialAfter
  simp only [lastCount_append, List.any_append, Bool.or_assoc]
  cases lastCount c.rawId later <;> rfl

theorem credentialAfter_of_untouched (c : Credential) {change : Change}
    (hcount : change.countOf? c.rawId = none) (hflag : change.flags c.rawId = false) :
    credentialAfter c [change] c.updatedAt = c := by
  simp [credentialAfter, lastCount, hcount, hflag]

variable {s s' : Store} {now : UInt64} {change : Change}

theorem Step.credential_after (h : Step s now change s') {c : Credential}
    (hc : s.credentials.get? c.rawId = some c) :
    ∃ time, s'.credentials.get? c.rawId = some (credentialAfter c [change] time) ∧
      c.signCounter ≤ (credentialAfter c [change] time).signCounter := by
  have untouched (hcount : change.countOf? c.rawId = none) (hflag : change.flags c.rawId = false)
      (hc : s'.credentials.get? c.rawId = some c) :
      ∃ time, s'.credentials.get? c.rawId = some (credentialAfter c [change] time) ∧
        c.signCounter ≤ (credentialAfter c [change] time).signCounter := by
    have hsame := credentialAfter_of_untouched c hcount hflag
    refine ⟨c.updatedAt, by rw [hsame, hc], ?_⟩
    rw [hsame]
    exact UInt32.le_refl _
  cases h with
  | nothing => exact untouched rfl rfl hc
  | put free => exact untouched rfl rfl hc
  | purged => exact untouched rfl rfl hc
  | registered due =>
    rename_i ceremony stored credential
    have hne : c.rawId ≠ credential.rawId := by
      intro heq
      have := due.fresh
      rw [← heq, hc] at this
      cases this
    exact untouched rfl rfl ((Table.get?_insert_of_ne _ _ hne).trans hc)
  | moved due le =>
    rename_i credentialId challengeId count stored credential
    by_cases heq : c.rawId = credentialId
    · subst heq
      have hsame : c = credential := Option.some.inj (hc.symm.trans due.found)
      subst hsame
      have hcount : (credentialAfter c [.moved c.rawId count challengeId] now).signCounter = count := by
        simp [credentialAfter, lastCount, Change.countOf?]
      refine ⟨now, ?_, hcount.symm ▸ le⟩
      rw [Table.get?_insert_self]
      simp [credentialAfter, lastCount, Change.countOf?, Change.flags]
    · have hcount : (Change.moved credentialId count challengeId).countOf? c.rawId = none := by
        simp [Change.countOf?, Ne.symm heq]
      exact untouched hcount rfl ((Table.get?_insert_of_ne _ _ heq).trans hc)
  | flagged due lt =>
    rename_i credentialId challengeId count stored credential
    by_cases heq : c.rawId = credentialId
    · subst heq
      have hsame : c = credential := Option.some.inj (hc.symm.trans due.found)
      subst hsame
      have hcount : (credentialAfter c [.flagged c.rawId] now).signCounter = c.signCounter := rfl
      refine ⟨now, ?_, hcount.symm ▸ UInt32.le_refl _⟩
      rw [Table.get?_insert_self]
      simp [credentialAfter, lastCount, Change.countOf?, Change.flags]
    · have hflag : (Change.flagged credentialId).flags c.rawId = false := by
        simp [Change.flags, Ne.symm heq]
      exact untouched rfl hflag ((Table.get?_insert_of_ne _ _ heq).trans hc)

theorem Step.rawId_ne_of_registered {ceremony : Ceremony} {other c : Credential}
    (h : Step s now (.registered ceremony other) s') (hc : s.credentials.get? c.rawId = some c) :
    other.rawId ≠ c.rawId := by
  intro heq
  cases h with
  | registered due =>
    have := due.fresh
    rw [heq, hc] at this
    cases this

theorem Step.credentialCount (h : Step s now change s') :
    s'.credentialCount = s.credentialCount + (if change.registers then 1 else 0) := by
  have replaced {credentialId : Bytes} {old new : Credential}
      (found : s.credentials.get? credentialId = some old) :
      (s.credentials.insert credentialId new).size = s.credentials.size := by
    rw [Table.size_insert, Table.size_erase_of_get?_eq_some found]
  cases h with
  | nothing => rfl
  | put free => rfl
  | purged => rfl
  | registered due =>
    have hsize := Table.size_erase_of_get?_eq_none due.fresh
    change (s.credentials.insert _ _).size = s.credentials.size + 1
    rw [Table.size_insert, hsize]
  | moved due le => exact replaced due.found
  | flagged due lt => exact replaced due.found

theorem credentialCount_run (calls : List TimedCall) :
    (empty.run calls).credentialCount = (empty.changes calls).countP Change.registers := by
  have h := run_induction (s := empty)
    (P := fun events s => s.credentialCount = (events.map Event.change).countP Change.registers)
    rfl ?_ calls
  · exact h
  · intro events s e s' ih hstep
    rw [hstep.credentialCount, ih, List.map_append, List.countP_append]
    simp

/-- A stored credential stays in the store, and the calls tell how it stands. -/
theorem credential_run (s : Store) {c : Credential} (hc : s.credentials.get? c.rawId = some c)
    (calls : List TimedCall) :
    ∃ time, (s.run calls).credentials.get? c.rawId = some (credentialAfter c (s.changes calls) time) ∧
      c.signCounter ≤ (credentialAfter c (s.changes calls) time).signCounter ∧
      ∀ ceremony other, .registered ceremony other ∈ s.changes calls → other.rawId ≠ c.rawId := by
  apply run_induction (P := fun events s' => ∃ time,
    s'.credentials.get? c.rawId = some (credentialAfter c (events.map Event.change) time) ∧
      c.signCounter ≤ (credentialAfter c (events.map Event.change) time).signCounter ∧
      ∀ ceremony other, .registered ceremony other ∈ events.map Event.change →
        other.rawId ≠ c.rawId)
  · have hsame : credentialAfter c [] c.updatedAt = c := by simp [credentialAfter, lastCount]
    refine ⟨c.updatedAt, by rw [List.map_nil, hsame, hc], ?_, by simp⟩
    rw [List.map_nil, hsame]
    exact UInt32.le_refl _
  · rintro events s e s' ⟨time, hstored, hle, hnew⟩ hstep
    obtain ⟨last, hlast, hle'⟩ := hstep.credential_after (c := credentialAfter c _ time) hstored
    refine ⟨last, ?_, ?_, ?_⟩
    · rw [List.map_append, List.map_singleton, credentialAfter_append c _ _ time]
      exact hlast
    · rw [List.map_append, List.map_singleton, credentialAfter_append c _ _ time]
      exact UInt32.le_trans hle hle'
    · intro ceremony other hm
      rw [List.map_append, List.map_singleton] at hm
      rcases List.mem_append.mp hm with hm | hm
      · exact hnew ceremony other hm
      · rw [← List.mem_singleton.mp hm] at hstep
        exact hstep.rawId_ne_of_registered (c := credentialAfter c _ time) hstored

theorem RegistersThen.stored {calls later : List TimedCall} {registered : Credential} {start : Store}
    (h : RegistersThen calls registered start later) :
    start.credentials.get? registered.rawId = some registered ∧
      empty.run calls = start.run later := by
  obtain ⟨earlier, time, ceremony, rfl, hok⟩ := h
  have hstep := perform_step (empty.run earlier) time (.writeCredential ceremony registered)
  rw [hok] at hstep
  refine ⟨?_, ?_⟩
  · generalize hs : empty.run earlier = s at hstep
    cases hstep with
    | registered due => exact Table.get?_insert_self _ _ _
  · rw [run_append, run_cons, hok]

/-- The life of credentials in any run. Records stand under their identifiers, and there are as many
credentials as were registered. Each stored one was registered; from then on it is in the store and
never registered again, with all but three members as they were. Its counter is that of the last
login and never goes down; its flag is raised exactly by refused counters and never taken back. -/
theorem credential_lifecycle (calls : List TimedCall) :
    (empty.run calls).Keyed ∧
    (empty.run calls).credentialCount = (empty.changes calls).countP Change.registers ∧
    (∀ credentialId current, (empty.run calls).credentials.get? credentialId = some current →
      ∃ registered start later, RegistersThen calls registered start later ∧
        registered.rawId = credentialId) ∧
    ∀ registered start later, RegistersThen calls registered start later →
      (∃ time, (empty.run calls).credentials.get? registered.rawId =
        some (credentialAfter registered (start.changes later) time)) ∧
      (∀ ceremony other, .registered ceremony other ∈ start.changes later →
        other.rawId ≠ registered.rawId) ∧
      ∀ part, part <+: later → ∀ previous current,
        (start.run part).credentials.get? registered.rawId = some previous →
        (empty.run calls).credentials.get? registered.rawId = some current →
        previous.signCounter ≤ current.signCounter ∧
          (previous.cloneWarning = true → current.cloneWarning = true) := by
  refine ⟨keyed_run calls, credentialCount_run calls, ?_, ?_⟩
  · intro credentialId current hstored
    exact registersThen_of_stored hstored
  · intro registered start later h
    obtain ⟨hstart, hrun⟩ := h.stored
    rw [hrun]
    obtain ⟨time, hstored, _, hnew⟩ := credential_run start hstart later
    refine ⟨⟨time, hstored⟩, hnew, ?_⟩
    rintro part ⟨rest, rfl⟩ previous current hprevious hcurrent
    have hid : previous.rawId = registered.rawId := by
      obtain ⟨_, h, _⟩ := credential_run start hstart part
      rw [Option.some.inj (hprevious.symm.trans h)]
      rfl
    rw [← hid] at hprevious hcurrent
    rw [run_append] at hcurrent
    obtain ⟨last, hlast, hle, _⟩ := credential_run (start.run part) hprevious rest
    rw [Option.some.inj (hcurrent.symm.trans hlast)]
    refine ⟨hle, ?_⟩
    intro hwarning
    simp [credentialAfter, hwarning]

def sampleLogins : List TimedCall :=
  [⟨2, .putCeremony sampleLogin⟩, ⟨3, .moveCounter [9] 5 [2]⟩, ⟨4, .putCeremony sampleLogin⟩,
    ⟨5, .moveCounter [9] 4 [2]⟩]

theorem credential_lifecycle_sample :
    let calls : List TimedCall := [⟨0, .putCeremony sampleRegistration⟩,
      ⟨1, .writeCredential sampleRegistration sampleCredential⟩] ++ sampleLogins
    (empty.run calls).credentialCount = 1 ∧
    (∃ time, (empty.run calls).credentials.get? [9] =
      some { sampleCredential with signCounter := 5, cloneWarning := true, updatedAt := time }) ∧
    ∃ registered start later, RegistersThen calls registered start later ∧ registered.rawId = [9] ∧
      ∃ previous current, (start.run (later.take 2)).credentials.get? [9] = some previous ∧
        (empty.run calls).credentials.get? [9] = some current ∧
        previous.signCounter ≤ current.signCounter := by
  intro calls
  let start := empty.run [⟨0, .putCeremony sampleRegistration⟩,
    ⟨1, .writeCredential sampleRegistration sampleCredential⟩]
  have hregisters : RegistersThen calls sampleCredential start sampleLogins :=
    ⟨[⟨0, .putCeremony sampleRegistration⟩], 1, sampleRegistration, rfl, rfl⟩
  obtain ⟨_, hcount, _, hlife⟩ := credential_lifecycle calls
  obtain ⟨hstored, _, hlater⟩ := hlife sampleCredential start sampleLogins hregisters
  have hprevious : (start.run (sampleLogins.take 2)).credentials.get? [9] =
    some { sampleCredential with signCounter := 5, updatedAt := 3 } := rfl
  obtain ⟨time, hcurrent⟩ := hstored
  have hle := hlater (sampleLogins.take 2) (List.take_prefix 2 _) _ _ hprevious hcurrent
  exact ⟨hcount, ⟨time, hcurrent⟩, sampleCredential, start, sampleLogins, hregisters, rfl, _, _,
    hprevious, hcurrent, hle.1⟩

end RelyingParty.Store
