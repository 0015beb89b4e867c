import RelyingParty.Proofs.Store.Run

namespace RelyingParty

/-- The tables differ in no record but the one under the key. -/
structure Table.Replaces {α : Type} (t t' : Table α) (key : Bytes) (old new : Option α) : Prop where
  before : t.get? key = old
  after : t'.get? key = new
  others : ∀ other, other ≠ key → t'.get? other = t.get? other

theorem Table.replaces_insert {α : Type} {t : Table α} {key : Bytes} {old : Option α}
    (h : t.get? key = old) (a : α) : t.Replaces (t.insert key a) key old (some a) :=
  ⟨h, t.get?_insert_self key a, fun _ hother => t.get?_insert_of_ne a hother⟩

theorem Table.replaces_erase {α : Type} {t : Table α} {key : Bytes} {old : Option α}
    (h : t.get? key = old) : t.Replaces (t.erase key) key old none :=
  ⟨h, t.get?_erase_self key, fun _ hother => t.get?_erase_of_ne hother⟩

namespace Store

variable {s s' : Store} {now : UInt64}

/-- The credential is flagged because the received counter is below the stored one. -/
structure Flagged (s : Store) (now : UInt64) (credentialId : Bytes) (stored received : UInt32)
    (s' : Store) : Prop where
  lt : received < stored
  ceremonies : s'.ceremonies = s.ceremonies
  credential : ∃ c, c.signCounter = stored ∧
    s.credentials.Replaces s'.credentials credentialId (some c)
      (some { c with cloneWarning := true, updatedAt := now })

/-- What a refused call leaves. -/
def LeftBy (s : Store) (now : UInt64) : Call → StoreError → Store → Prop
  | .moveCounter credentialId count _, .counterNotMonotone stored received, s' =>
    received = count ∧ s.Flagged now credentialId stored received s'
  | _, _, s' => s' = s

theorem commit_eq_error {result : Except StoreError Store} {e : StoreError}
    (h : s.commit result = (s', .error e)) : s' = s := by
  cases result with
  | ok next => cases h
  | error cause =>
    cases h
    rfl

theorem left_of_moveCounter {credentialId challengeId : Bytes} {count : UInt32} {e : StoreError}
    (h : s.moveCounter now credentialId count challengeId = (s', .error e)) :
    s.LeftBy now (.moveCounter credentialId count challengeId) e s' := by
  unfold moveCounter at h
  cases htarget : s.loginTarget now credentialId challengeId with
  | error cause =>
    rw [htarget] at h
    cases h
    obtain rfl | ⟨condition, rfl⟩ := loginTarget_eq_error htarget
    · rfl
    · rfl
  | ok c =>
    obtain ⟨stored, due⟩ := loginTarget_eq_ok.mp htarget
    rw [htarget] at h
    by_cases hlt : count < c.signCounter
    · simp only [hlt, if_true, Prod.mk.injEq, Except.error.injEq] at h
      obtain ⟨rfl, rfl⟩ := h
      exact ⟨rfl, hlt, rfl, c, rfl, Table.replaces_insert due.found _⟩
    · simp [hlt] at h

theorem left_of_perform {call : Call} {e : StoreError} (h : s.perform now call = (s', .error e)) :
    s.LeftBy now call e s' := by
  cases call with
  | putCeremony c => exact commit_eq_error h
  | writeCredential ceremony credential => exact commit_eq_error h
  | moveCounter credentialId count challengeId => exact left_of_moveCounter h
  | getCeremony challengeId => exact (congrArg Prod.fst h).symm
  | getCeremonyAndCredential challengeId credentialId => exact (congrArg Prod.fst h).symm
  | getCredential credentialId => exact (congrArg Prod.fst h).symm
  | countCredentials => cases h
  | removeExpired => cases h

theorem write_replaces {ceremony : Ceremony} {credential : Credential}
    (h : s.perform now (.writeCredential ceremony credential) = (s', .ok ())) :
    (∃ stored, s.ceremonies.Replaces s'.ceremonies ceremony.challengeId (some stored) none) ∧
      s.credentials.Replaces s'.credentials credential.rawId none (some credential) := by
  have hstep : s.Step now (.registered ceremony credential) s' := by
    simpa only [h, Change.ofAnswer] using perform_step s now (.writeCredential ceremony credential)
  cases hstep with
  | registered due =>
    exact ⟨⟨_, Table.replaces_erase due.live.1⟩, Table.replaces_insert due.fresh credential⟩

theorem move_replaces {credentialId challengeId : Bytes} {count : UInt32}
    (h : s.perform now (.moveCounter credentialId count challengeId) = (s', .ok ())) :
    (∃ stored, s.ceremonies.Replaces s'.ceremonies challengeId (some stored) none) ∧
      ∃ c, s.credentials.Replaces s'.credentials credentialId (some c)
        (some { c with signCounter := count, updatedAt := now }) := by
  have hstep : s.Step now (.moved credentialId count challengeId) s' := by
    simpa only [h, Change.ofAnswer] using
      perform_step s now (.moveCounter credentialId count challengeId)
  cases hstep with
  | moved due le =>
    exact ⟨⟨_, Table.replaces_erase due.live.1⟩, _, Table.replaces_insert due.found _⟩

end Store

end RelyingParty
