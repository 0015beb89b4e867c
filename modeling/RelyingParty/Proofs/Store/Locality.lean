import RelyingParty.Proofs.Store.Run

namespace RelyingParty

inductive Table.Write (α : Type) where
  | keep
  | put (key : Bytes) (a : α)
  | drop (key : Bytes)

namespace Table

variable {α : Type} {t u : Table α} {w : Write α} {key : Bytes}

def Write.key? : Write α → Option Bytes
  | keep => none
  | put key _ => some key
  | drop key => some key

def write (t : Table α) : Write α → Table α
  | .keep => t
  | .put key a => t.insert key a
  | .drop key => t.erase key

theorem Write.forall_key?_keep {P : Bytes → Prop} : ∀ key ∈ (keep : Write α).key?, P key := nofun

theorem get?_write_of_ne (t : Table α) (h : key ∉ w.key?) : (t.write w).get? key = t.get? key := by
  cases w with
  | keep => rfl
  | put other a => exact get?_insert_of_ne t a fun heq => h (congrArg some heq.symm)
  | drop other => exact get?_erase_of_ne t fun heq => h (congrArg some heq.symm)

theorem contains_congr (h : t.get? key = u.get? key) : t.contains key = u.contains key := by
  rw [contains, contains, h]

/-- What stands under the key that is written does not depend on the table. -/
theorem get?_write_self (t u : Table α) (h : key ∈ w.key?) :
    (t.write w).get? key = (u.write w).get? key := by
  cases w with
  | keep => cases h
  | put other a =>
    obtain rfl := Option.some.inj h
    exact (get?_insert_self t other a).trans (get?_insert_self u other a).symm
  | drop other =>
    obtain rfl := Option.some.inj h
    exact (get?_erase_self t other).trans (get?_erase_self u other).symm

theorem get?_write_congr (w : Write α) (h : t.get? key = u.get? key) :
    (t.write w).get? key = (u.write w).get? key := by
  by_cases hw : key ∈ w.key?
  · exact get?_write_self t u hw
  · rw [get?_write_of_ne t hw, get?_write_of_ne u hw, h]

end Table

namespace Store

def Call.challengeId? : Call → Option Bytes
  | .putCeremony ceremony => some ceremony.challengeId
  | .getCeremony challengeId => some challengeId
  | .getCeremonyAndCredential challengeId _ => some challengeId
  | .getCredential _ => none
  | .countCredentials => none
  | .writeCredential ceremony _ => some ceremony.challengeId
  | .moveCounter _ _ challengeId => some challengeId
  | .removeExpired => none

def Call.credentialId? : Call → Option Bytes
  | .putCeremony _ => none
  | .getCeremony _ => none
  | .getCeremonyAndCredential _ credentialId => some credentialId
  | .getCredential credentialId => some credentialId
  | .countCredentials => none
  | .writeCredential _ credential => some credential.rawId
  | .moveCounter credentialId _ _ => some credentialId
  | .removeExpired => none

structure Writes where
  ceremony : Table.Write Ceremony
  credential : Table.Write Credential

def apply (s : Store) (w : Writes) : Store :=
  ⟨s.ceremonies.write w.ceremony, s.credentials.write w.credential⟩

structure Writes.Within (w : Writes) (call : Call) : Prop where
  ceremony : ∀ challengeId ∈ w.ceremony.key?, challengeId ∈ call.challengeId?
  credential : ∀ credentialId ∈ w.credential.key?, credentialId ∈ call.credentialId?

structure LooksAlike (s t : Store) (now : UInt64) (call : Call) : Prop where
  noPurge : call ≠ .removeExpired
  used : ∀ ceremony, call = .putCeremony ceremony →
    t.ceremonies.contains ceremony.challengeId = s.ceremonies.contains ceremony.challengeId
  live : ∀ challengeId ∈ call.challengeId?, t.liveCeremony now challengeId = s.liveCeremony now challengeId
  credential : ∀ credentialId ∈ call.credentialId?,
    t.credentials.get? credentialId = s.credentials.get? credentialId
  count : call = .countCredentials → t.credentialCount = s.credentialCount

variable {s t : Store} {now : UInt64} {call : Call}

theorem liveCeremony_congr {challengeId : Bytes}
    (h : t.ceremonies.get? challengeId = s.ceremonies.get? challengeId) :
    t.liveCeremony now challengeId = s.liveCeremony now challengeId := by
  rw [liveCeremony, liveCeremony, h]

theorem credential_congr {credentialId : Bytes}
    (h : t.credentials.get? credentialId = s.credentials.get? credentialId) :
    t.credential credentialId = s.credential credentialId := by
  rw [credential, credential, h]

/-- A call answers stores that look alike in the same way and writes the same to them. -/
def ActsAlike (s t : Store) (now : UInt64) (call : Call) : Prop :=
  ∃ w answer, w.Within call ∧ s.perform now call = (s.apply w, answer) ∧
    t.perform now call = (t.apply w, answer)

/-- A call that writes nothing. -/
theorem actsAlike_of_reads (answer : Except StoreError call.Reply)
    (hs : s.perform now call = (s, answer)) (ht : t.perform now call = (t, answer)) :
    s.ActsAlike t now call :=
  ⟨⟨.keep, .keep⟩, answer, ⟨Table.Write.forall_key?_keep, Table.Write.forall_key?_keep⟩, hs, ht⟩

theorem putCeremony_actsAlike {ceremony : Ceremony}
    (used : t.ceremonies.contains ceremony.challengeId = s.ceremonies.contains ceremony.challengeId) :
    s.ActsAlike t now (.putCeremony ceremony) := by
  cases hused : s.ceremonies.contains ceremony.challengeId with
  | true =>
    refine actsAlike_of_reads (.error (.conditionFailed .challengeInUse)) ?_ ?_
    · simp only [perform, putCeremony, hused, if_true, commit]
    · simp only [perform, putCeremony, used, hused, if_true, commit]
  | false =>
    refine ⟨⟨.put ceremony.challengeId ceremony, .keep⟩, .ok (),
      ⟨fun _ h => h, Table.Write.forall_key?_keep⟩, ?_, ?_⟩
    · simp only [perform, putCeremony, hused, Bool.false_eq_true, if_false, commit]
      rfl
    · simp only [perform, putCeremony, used, hused, Bool.false_eq_true, if_false, commit]
      rfl

theorem writeCredential_actsAlike {ceremony : Ceremony} {credential : Credential}
    (live : t.liveCeremony now ceremony.challengeId = s.liveCeremony now ceremony.challengeId)
    (found : t.credentials.get? credential.rawId = s.credentials.get? credential.rawId) :
    s.ActsAlike t now (.writeCredential ceremony credential) := by
  have known := Table.contains_congr found
  have refused : (s.writeCredential now ceremony credential).map (fun _ => ()) =
      (t.writeCredential now ceremony credential).map fun _ => () := by
    rw [writeCredential, writeCredential, live, known, map_bind_eq, map_bind_eq]
    congr 1
    funext stored
    split_ifs <;> rfl
  cases hw : s.writeCredential now ceremony credential with
  | error e =>
    have hw' := (error_iff_of_map_eq refused).mp hw
    refine actsAlike_of_reads (.error e) ?_ ?_
    · simp only [perform, hw, commit]
    · simp only [perform, hw', commit]
  | ok s' =>
    obtain ⟨⟨stored, due⟩, rfl⟩ := writeCredential_eq_ok.mp hw
    have due' : t.Registers now ceremony credential stored :=
      ⟨liveCeremony_eq_ok.mp (live.trans (liveCeremony_eq_ok.mpr due.live)), due.session, due.kind,
        found.trans due.fresh⟩
    refine ⟨⟨.drop ceremony.challengeId, .put credential.rawId credential⟩, .ok (),
      ⟨fun _ h => h, fun _ h => h⟩, ?_, ?_⟩
    · simp only [perform, hw, commit]
      rfl
    · simp only [perform, writeCredential_eq_ok.mpr ⟨⟨stored, due'⟩, rfl⟩, commit]
      rfl

theorem moveCounter_actsAlike {credentialId challengeId : Bytes} {count : UInt32}
    (live : t.liveCeremony now challengeId = s.liveCeremony now challengeId)
    (found : t.credentials.get? credentialId = s.credentials.get? credentialId) :
    s.ActsAlike t now (.moveCounter credentialId count challengeId) := by
  have target :
      t.loginTarget now credentialId challengeId = s.loginTarget now credentialId challengeId := by
    rw [loginTarget, loginTarget, live, credential_congr found]
  cases htarget : s.loginTarget now credentialId challengeId with
  | error e =>
    refine actsAlike_of_reads (.error e) ?_ ?_
    · simp only [perform, moveCounter, htarget]
    · simp only [perform, moveCounter, target, htarget]
  | ok credential =>
    by_cases hlt : count < credential.signCounter
    · refine ⟨⟨.keep, .put credentialId { credential with cloneWarning := true, updatedAt := now }⟩,
        .error (.counterNotMonotone credential.signCounter count),
        ⟨Table.Write.forall_key?_keep, fun _ h => h⟩, ?_, ?_⟩
      · simp only [perform, moveCounter, htarget, hlt, if_true]
        rfl
      · simp only [perform, moveCounter, target, htarget, hlt, if_true]
        rfl
    · refine ⟨⟨.drop challengeId,
          .put credentialId { credential with signCounter := count, updatedAt := now }⟩,
        .ok (), ⟨fun _ h => h, fun _ h => h⟩, ?_, ?_⟩
      · simp only [perform, moveCounter, htarget, hlt, if_false]
        rfl
      · simp only [perform, moveCounter, target, htarget, hlt, if_false]
        rfl

/-- What a call answers and writes depends only on what it sees. -/
theorem LooksAlike.actsAlike (h : s.LooksAlike t now call) : s.ActsAlike t now call := by
  cases call with
  | putCeremony ceremony => exact putCeremony_actsAlike (h.used ceremony rfl)
  | getCeremony challengeId =>
    have hlive := h.live challengeId rfl
    exact actsAlike_of_reads _ rfl (congrArg (Prod.mk t) hlive)
  | getCeremonyAndCredential challengeId credentialId =>
    have hpair : t.ceremonyAndCredential now challengeId credentialId =
        s.ceremonyAndCredential now challengeId credentialId := by
      rw [ceremonyAndCredential, ceremonyAndCredential, h.live challengeId rfl,
        credential_congr (h.credential credentialId rfl)]
    exact actsAlike_of_reads _ rfl (congrArg (Prod.mk t) hpair)
  | getCredential credentialId =>
    have hfound := credential_congr (h.credential credentialId rfl)
    exact actsAlike_of_reads _ rfl (congrArg (Prod.mk t) hfound)
  | countCredentials =>
    have hcount := h.count rfl
    exact actsAlike_of_reads _ rfl (congrArg (fun n => (t, Except.ok n)) hcount)
  | writeCredential ceremony credential =>
    exact writeCredential_actsAlike (h.live _ rfl) (h.credential _ rfl)
  | moveCounter credentialId count challengeId =>
    exact moveCounter_actsAlike (h.live _ rfl) (h.credential _ rfl)
  | removeExpired => exact absurd rfl h.noPurge

end Store

end RelyingParty
