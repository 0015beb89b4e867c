import Mathlib.Data.List.Induction
import RelyingParty.Proofs.Store.Operations

namespace RelyingParty.Store

inductive Call where
  | putCeremony (ceremony : Ceremony)
  | getCeremony (challengeId : Bytes)
  | getCeremonyAndCredential (challengeId credentialId : Bytes)
  | getCredential (credentialId : Bytes)
  | countCredentials
  | writeCredential (ceremony : Ceremony) (credential : Credential)
  | moveCounter (credentialId : Bytes) (count : UInt32) (challengeId : Bytes)
  | removeExpired

/-- What a call answers unless it is refused. -/
abbrev Call.Reply : Call → Type
  | putCeremony _ => Unit
  | getCeremony _ => Ceremony
  | getCeremonyAndCredential _ _ => Ceremony × Credential
  | getCredential _ => Credential
  | countCredentials => Nat
  | writeCredential _ _ => Unit
  | moveCounter _ _ _ => Unit
  | removeExpired => Nat

def commit (s : Store) : Except StoreError Store → Store × Except StoreError Unit
  | .ok s' => (s', .ok ())
  | .error e => (s, .error e)

def perform (s : Store) (now : UInt64) : (call : Call) → Store × Except StoreError call.Reply
  | .putCeremony c => s.commit (s.putCeremony c)
  | .getCeremony challengeId => (s, s.liveCeremony now challengeId)
  | .getCeremonyAndCredential challengeId credentialId =>
    (s, s.ceremonyAndCredential now challengeId credentialId)
  | .getCredential credentialId => (s, s.credential credentialId)
  | .countCredentials => (s, .ok s.credentialCount)
  | .writeCredential ceremony credential => s.commit (s.writeCredential now ceremony credential)
  | .moveCounter credentialId count challengeId => s.moveCounter now credentialId count challengeId
  | .removeExpired => ((s.removeExpired now).1, .ok (s.removeExpired now).2)

theorem commit_eq_ok {s : Store} {result : Except StoreError Store} :
    (s.commit result).2 = .ok () ↔ ∃ s', result = .ok s' := by
  cases result <;> simp [commit]

structure TimedCall where
  time : UInt64
  call : Call

structure Event extends TimedCall where
  answer : Except StoreError call.Reply

def run (s : Store) (calls : List TimedCall) : Store :=
  calls.foldl (fun s c => (s.perform c.time c.call).1) s

def journal (s : Store) : List TimedCall → List Event
  | [] => []
  | c :: calls =>
    let (s', answer) := s.perform c.time c.call
    ⟨c, answer⟩ :: s'.journal calls

@[simp] theorem run_nil (s : Store) : s.run [] = s := rfl

theorem run_cons (s : Store) (c : TimedCall) (calls : List TimedCall) :
    s.run (c :: calls) = (s.perform c.time c.call).1.run calls := rfl

theorem run_append (s : Store) (calls more : List TimedCall) :
    s.run (calls ++ more) = (s.run calls).run more :=
  List.foldl_append

theorem run_concat (s : Store) (calls : List TimedCall) (c : TimedCall) :
    s.run (calls ++ [c]) = ((s.run calls).perform c.time c.call).1 := run_append s calls [c]

@[simp] theorem journal_nil (s : Store) : s.journal [] = [] := rfl

theorem journal_append (s : Store) (calls more : List TimedCall) :
    s.journal (calls ++ more) = s.journal calls ++ (s.run calls).journal more := by
  induction calls generalizing s with
  | nil => rfl
  | cons c calls ih => exact congrArg (_ :: ·) (ih _)

theorem journal_concat (s : Store) (calls : List TimedCall) (c : TimedCall) :
    s.journal (calls ++ [c]) =
      s.journal calls ++ [⟨c, ((s.run calls).perform c.time c.call).2⟩] := journal_append s calls [c]

/-- The beginning of a journal is the journal of a shorter run. -/
theorem calls_of_prefix {s : Store} {calls : List TimedCall} {part : List Event}
    (h : part <+: s.journal calls) : ∃ earlier, part = s.journal earlier := by
  induction calls generalizing s part with
  | nil => exact ⟨[], List.prefix_nil.mp h⟩
  | cons c calls ih =>
    cases part with
    | nil => exact ⟨[], rfl⟩
    | cons e part =>
      obtain ⟨rfl, hpart⟩ := List.cons_prefix_cons.mp h
      obtain ⟨earlier, rfl⟩ := ih hpart
      exact ⟨c :: earlier, rfl⟩

inductive Change where
  | nothing
  | put (ceremony : Ceremony)
  | registered (ceremony : Ceremony) (credential : Credential)
  | moved (credentialId : Bytes) (count : UInt32) (challengeId : Bytes)
  | flagged (credentialId : Bytes)
  | purged

namespace Change

def ofAnswer : (call : Call) → Except StoreError call.Reply → Change
  | .putCeremony ceremony, .ok () => put ceremony
  | .writeCredential ceremony credential, .ok () => registered ceremony credential
  | .moveCounter credentialId count challengeId, .ok () => moved credentialId count challengeId
  | .moveCounter credentialId _ _, .error (.counterNotMonotone _ _) => flagged credentialId
  | .removeExpired, _ => purged
  | _, _ => nothing

def puts (challengeId : Bytes) : Change → Bool
  | put ceremony => ceremony.challengeId == challengeId
  | _ => false

def completes (challengeId : Bytes) : Change → Bool
  | registered ceremony _ => ceremony.challengeId == challengeId
  | moved _ _ other => other == challengeId
  | _ => false

def registers : Change → Bool
  | registered _ _ => true
  | _ => false

def countOf? (credentialId : Bytes) : Change → Option UInt32
  | moved other count _ => if other = credentialId then some count else none
  | _ => none

def flags (credentialId : Bytes) : Change → Bool
  | flagged other => other == credentialId
  | _ => false

end Change

def Event.change (e : Event) : Change := .ofAnswer e.call e.answer

inductive Step (s : Store) (now : UInt64) : Change → Store → Prop
  | nothing : Step s now .nothing s
  | put {ceremony : Ceremony} (free : s.ceremonies.get? ceremony.challengeId = none) :
    Step s now (.put ceremony)
      { s with ceremonies := s.ceremonies.insert ceremony.challengeId ceremony }
  | registered {ceremony stored : Ceremony} {credential : Credential}
    (due : s.Registers now ceremony credential stored) :
    Step s now (.registered ceremony credential)
      ⟨s.ceremonies.erase ceremony.challengeId, s.credentials.insert credential.rawId credential⟩
  | moved {credentialId challengeId : Bytes} {count : UInt32} {stored : Ceremony}
    {credential : Credential} (due : s.LogsIn now credentialId challengeId stored credential)
    (le : credential.signCounter ≤ count) :
    Step s now (.moved credentialId count challengeId)
      ⟨s.ceremonies.erase challengeId, s.credentials.insert credentialId
        { credential with signCounter := count, updatedAt := now }⟩
  | flagged {credentialId challengeId : Bytes} {count : UInt32} {stored : Ceremony}
    {credential : Credential} (due : s.LogsIn now credentialId challengeId stored credential)
    (lt : count < credential.signCounter) :
    Step s now (.flagged credentialId)
      ⟨s.ceremonies, s.credentials.insert credentialId
        { credential with cloneWarning := true, updatedAt := now }⟩
  | purged : Step s now .purged
      { s with ceremonies := s.ceremonies.filter fun c => !c.isExpired now }

variable {s : Store} {now : UInt64}

theorem perform_moveCounter_step (credentialId : Bytes) (count : UInt32) (challengeId : Bytes) :
    s.Step now (.ofAnswer (.moveCounter credentialId count challengeId)
      (s.moveCounter now credentialId count challengeId).2)
      (s.moveCounter now credentialId count challengeId).1 := by
  unfold moveCounter
  cases ht : s.loginTarget now credentialId challengeId with
  | error e =>
    rcases loginTarget_eq_error ht with rfl | ⟨condition, rfl⟩
    · exact .nothing
    · exact .nothing
  | ok credential =>
    obtain ⟨stored, due⟩ := loginTarget_eq_ok.mp ht
    by_cases hlt : count < credential.signCounter
    · simp only [hlt, if_true]
      exact .flagged due hlt
    · simp only [hlt, if_false]
      exact .moved due (UInt32.not_lt.mp hlt)

/-- Every call makes the change that its answer tells. -/
theorem perform_step (s : Store) (now : UInt64) (call : Call) :
    s.Step now (.ofAnswer call (s.perform now call).2) (s.perform now call).1 := by
  cases call with
  | putCeremony c =>
    change s.Step now (.ofAnswer (.putCeremony c) (s.commit (s.putCeremony c)).2)
      (s.commit (s.putCeremony c)).1
    cases hp : s.putCeremony c with
    | error e => exact .nothing
    | ok s' =>
      obtain ⟨free, rfl⟩ := putCeremony_eq_ok.mp hp
      exact .put free
  | writeCredential ceremony credential =>
    change s.Step now (.ofAnswer (.writeCredential ceremony credential)
      (s.commit (s.writeCredential now ceremony credential)).2)
      (s.commit (s.writeCredential now ceremony credential)).1
    cases hw : s.writeCredential now ceremony credential with
    | error e => exact .nothing
    | ok s' =>
      obtain ⟨⟨stored, due⟩, rfl⟩ := writeCredential_eq_ok.mp hw
      exact .registered due
  | moveCounter credentialId count challengeId =>
    exact perform_moveCounter_step credentialId count challengeId
  | removeExpired => exact .purged
  | getCeremony challengeId => exact .nothing
  | getCeremonyAndCredential challengeId credentialId => exact .nothing
  | getCredential credentialId => exact .nothing
  | countCredentials => exact .nothing

/-- What holds of the journal and the store before any call, and is kept by every change that a call
may make, holds after every run. -/
theorem run_induction {P : List Event → Store → Prop} (start : P [] s)
    (step : ∀ events s e s', P events s → Step s e.time e.change s' → P (events ++ [e]) s')
    (calls : List TimedCall) : P (s.journal calls) (s.run calls) := by
  induction calls using List.reverseRecOn with
  | nil => exact start
  | append_singleton calls c ih =>
    rw [journal_concat, run_concat]
    exact step _ _ ⟨c, _⟩ _ ih (perform_step _ c.time c.call)

/-- Every record stands under its own identifier. -/
structure Keyed (s : Store) : Prop where
  ceremonies : ∀ {challengeId c}, s.ceremonies.get? challengeId = some c → c.challengeId = challengeId
  credentials : ∀ {credentialId c}, s.credentials.get? credentialId = some c → c.rawId = credentialId

theorem keyed_empty : empty.Keyed := ⟨by simp [empty], by simp [empty]⟩

variable {s' : Store} {change : Change}

/-- A stored ceremony was there before, unless it is the one that the call put. -/
theorem Step.ceremony_before (h : Step s now change s') {challengeId : Bytes} {c : Ceremony}
    (hc : s'.ceremonies.get? challengeId = some c) :
    (change = .put c ∧ c.challengeId = challengeId) ∨ s.ceremonies.get? challengeId = some c := by
  have erased {other : Bytes} (h : (s.ceremonies.erase other).get? challengeId = some c) :
      s.ceremonies.get? challengeId = some c := by
    by_cases heq : challengeId = other
    · simp [heq] at h
    · rwa [Table.get?_erase_of_ne _ heq] at h
  cases h with
  | nothing => exact Or.inr hc
  | put free =>
    rename_i ceremony
    by_cases heq : challengeId = ceremony.challengeId
    · subst heq
      have hsame : ceremony = c := by simpa using hc
      exact Or.inl ⟨by rw [hsame], by rw [hsame]⟩
    · exact Or.inr (by rwa [Table.get?_insert_of_ne _ _ heq] at hc)
  | registered due => exact Or.inr (erased hc)
  | moved due le => exact Or.inr (erased hc)
  | flagged due lt => exact Or.inr hc
  | purged =>
    rw [Table.get?_filter] at hc
    exact Or.inr (Option.filter_eq_some_iff.mp hc).1

/-- A completed ceremony was stored, and is no longer. -/
theorem Step.consumed_of_completes (h : Step s now change s') {challengeId : Bytes}
    (hc : change.completes challengeId = true) :
    s.ceremonies.contains challengeId = true ∧ s'.ceremonies.contains challengeId = false := by
  have stored {c : Ceremony} (live : s.HasLive now challengeId c) :
      s.ceremonies.contains challengeId = true := by
    simp [Table.contains, live.1]
  cases h <;> simp only [Change.completes, Bool.false_eq_true, beq_iff_eq] at hc
  case registered due =>
    subst hc
    exact ⟨stored due.live, by simp [Table.contains]⟩
  case moved due le =>
    subst hc
    exact ⟨stored due.live, by simp [Table.contains]⟩

/-- A stored credential was there before, perhaps with other changing members, unless it is the one
that the call registered. -/
theorem Step.credential_before (h : Step s now change s') {credentialId : Bytes} {c : Credential}
    (hc : s'.credentials.get? credentialId = some c) :
    (∃ ceremony, change = .registered ceremony c ∧ c.rawId = credentialId) ∨
      ∃ old, s.credentials.get? credentialId = some old ∧ c.rawId = old.rawId := by
  have replaced {other : Bytes} {old new : Credential} (found : s.credentials.get? other = some old)
      (h : (s.credentials.insert other new).get? credentialId = some c)
      (hsame : new.rawId = old.rawId) :
      ∃ old, s.credentials.get? credentialId = some old ∧ c.rawId = old.rawId := by
    by_cases heq : credentialId = other
    · subst heq
      have hnew : new = c := by simpa using h
      exact ⟨old, found, hnew ▸ hsame⟩
    · exact ⟨c, by rwa [Table.get?_insert_of_ne _ _ heq] at h, rfl⟩
  cases h with
  | nothing => exact Or.inr ⟨c, hc, rfl⟩
  | put free => exact Or.inr ⟨c, hc, rfl⟩
  | registered due =>
    rename_i ceremony stored credential
    by_cases heq : credentialId = credential.rawId
    · subst heq
      have hsame : credential = c := by simpa using hc
      exact Or.inl ⟨ceremony, by rw [hsame], by rw [hsame]⟩
    · exact Or.inr ⟨c, by rwa [Table.get?_insert_of_ne _ _ heq] at hc, rfl⟩
  | moved due le => exact Or.inr (replaced due.found hc rfl)
  | flagged due lt => exact Or.inr (replaced due.found hc rfl)
  | purged => exact Or.inr ⟨c, hc, rfl⟩

theorem Step.keyed (h : Step s now change s') (hk : s.Keyed) : s'.Keyed where
  ceremonies hc := by
    rcases h.ceremony_before hc with ⟨_, hid⟩ | hc
    · exact hid
    · exact hk.ceremonies hc
  credentials hc := by
    rcases h.credential_before hc with ⟨_, _, hid⟩ | ⟨old, hold, hid⟩
    · exact hid
    · exact hid.trans (hk.credentials hold)

theorem keyed_run (calls : List TimedCall) : (empty.run calls).Keyed :=
  run_induction (P := fun _ s => s.Keyed) keyed_empty (fun _ _ _ _ hk h => h.keyed hk) calls

end RelyingParty.Store
