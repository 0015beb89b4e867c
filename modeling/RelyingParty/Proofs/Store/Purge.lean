import RelyingParty.Proofs.Store.Locality
import RelyingParty.Proofs.Store.Provenance

namespace RelyingParty

theorem Ceremony.isExpired_iff {c : Ceremony} {now : UInt64} :
    c.isExpired now = true ↔ c.expiry ≤ now.toNat := by
  simp [isExpired]

theorem Ceremony.isExpired_mono {c : Ceremony} {now later : UInt64} (hle : now ≤ later)
    (h : c.expiry ≤ now.toNat) : c.isExpired later = true :=
  isExpired_iff.mpr (Nat.le_trans h (UInt64.le_iff_toNat_le.mp hle))

/-- As many records are filtered out as do not satisfy the condition. -/
theorem Table.size_sub_size_filter {α : Type} (t : Table α) (p : α → Bool) :
    t.size - (t.filter p).size = t.entries.countP fun entry => !p entry.2 := by
  have hsplit := t.entries.length_eq_countP_add_countP fun entry => p entry.2
  have hkept : (t.filter p).size = t.entries.countP fun entry => p entry.2 :=
    List.countP_eq_length_filter.symm
  rw [size, hsplit, hkept, Nat.add_sub_cancel_left]
  simp only [Bool.not_eq_true, Bool.decide_eq_false]

namespace Store

variable {origin s t : Store} {now later : UInt64} {challengeId : Bytes}

theorem get?_removeExpired {c : Ceremony} :
    (s.removeExpired now).1.ceremonies.get? challengeId = some c ↔
      s.ceremonies.get? challengeId = some c ∧ now.toNat < c.expiry := by
  rw [removeExpired, Table.get?_filter, Option.filter_eq_some_iff, ← Nat.not_le, ← Ceremony.isExpired_iff]
  simp

/-- A ceremony that had run out is stored under the challenge in the first store only. -/
structure Missing (s t : Store) (now : UInt64) (challengeId : Bytes) : Prop where
  gone : t.ceremonies.get? challengeId = none
  expired : ∃ c, s.ceremonies.get? challengeId = some c ∧ c.expiry ≤ now.toNat

theorem Missing.liveCeremony (h : s.Missing t now challengeId) (hle : now ≤ later) :
    t.liveCeremony later challengeId = s.liveCeremony later challengeId := by
  obtain ⟨c, hc, hexpired⟩ := h.expired
  have hs : s.liveCeremony later challengeId = .error .notFound := by
    simp only [Store.liveCeremony, hc, Ceremony.isExpired_mono hle hexpired, if_true]
  have ht : t.liveCeremony later challengeId = .error .notFound := by
    simp only [Store.liveCeremony, h.gone]
  rw [hs, ht]

/-- The stores differ only in ceremonies that had run out, under challenges that `origin` used. -/
structure LacksExpired (origin : Store) (now : UInt64) (s t : Store) : Prop where
  credentials : t.credentials = s.credentials
  ceremonies : ∀ challengeId, t.ceremonies.get? challengeId = s.ceremonies.get? challengeId ∨
    s.Missing t now challengeId ∧ origin.ceremonies.get? challengeId ≠ none

theorem lacksExpired_removeExpired (s : Store) (now : UInt64) :
    LacksExpired s now s (s.removeExpired now).1 where
  credentials := rfl
  ceremonies challengeId := by
    cases hc : s.ceremonies.get? challengeId with
    | none =>
      left
      exact Option.eq_none_iff_forall_ne_some.mpr fun c h =>
        absurd (hc.symm.trans (get?_removeExpired.mp h).1) nofun
    | some c =>
      by_cases hlive : now.toNat < c.expiry
      · exact .inl (get?_removeExpired.mpr ⟨hc, hlive⟩)
      · refine .inr ⟨⟨?_, c, hc, Nat.not_lt.mp hlive⟩, nofun⟩
        refine Option.eq_none_iff_forall_ne_some.mpr fun other h => ?_
        obtain ⟨hother, hlt⟩ := get?_removeExpired.mp h
        cases hc.symm.trans hother
        exact hlive hlt

theorem LacksExpired.liveCeremony (h : LacksExpired origin now s t) (hle : now ≤ later) :
    t.liveCeremony later challengeId = s.liveCeremony later challengeId := by
  obtain hsame | ⟨missing, _⟩ := h.ceremonies challengeId
  · exact liveCeremony_congr hsame
  · exact missing.liveCeremony hle

/-- The call purges nothing, and puts no ceremony under a challenge that the store uses. -/
def Call.KeepsOff (origin : Store) : Call → Prop
  | .putCeremony ceremony => origin.ceremonies.get? ceremony.challengeId = none
  | .removeExpired => False
  | _ => True

instance (origin : Store) : DecidablePred (Call.KeepsOff origin)
  | .putCeremony ceremony =>
    inferInstanceAs (Decidable (origin.ceremonies.get? ceremony.challengeId = none))
  | .removeExpired => inferInstanceAs (Decidable False)
  | .getCeremony _ | .getCeremonyAndCredential _ _ | .getCredential _ | .countCredentials
  | .writeCredential _ _ | .moveCounter _ _ _ => inferInstanceAs (Decidable True)

variable {call : Call}

theorem LacksExpired.looksAlike (h : LacksExpired origin now s t) (hle : now ≤ later)
    (off : call.KeepsOff origin) : s.LooksAlike t later call where
  noPurge := by
    rintro rfl
    exact off
  -- the one call that sees a ceremony that has run out
  used ceremony hcall := by
    subst hcall
    obtain hsame | ⟨_, hused⟩ := h.ceremonies ceremony.challengeId
    · exact Table.contains_congr hsame
    · exact absurd off hused
  live _ _ := h.liveCeremony hle
  credential _ _ := by rw [h.credentials]
  count _ := by rw [credentialCount, credentialCount, h.credentials]

theorem LacksExpired.apply (h : LacksExpired origin now s t) (w : Writes) :
    LacksExpired origin now (s.apply w) (t.apply w) where
  credentials := congrArg (Table.write · w.credential) h.credentials
  ceremonies challengeId := by
    by_cases hw : challengeId ∈ w.ceremony.key?
    -- a ceremony that only one store has is gone from both, once its challenge is written
    · exact .inl (Table.get?_write_self _ _ hw)
    · have hs := Table.get?_write_of_ne s.ceremonies hw
      have ht := Table.get?_write_of_ne t.ceremonies hw
      obtain hsame | ⟨⟨hgone, hexpired⟩, hused⟩ := h.ceremonies challengeId
      · exact .inl (ht.trans (hsame.trans hs.symm))
      · exact .inr ⟨⟨ht.trans hgone, by simpa only [Store.apply, hs] using hexpired⟩, hused⟩

theorem LacksExpired.step (h : LacksExpired origin now s t) (hle : now ≤ later)
    (off : call.KeepsOff origin) :
    (t.perform later call).2 = (s.perform later call).2 ∧
      LacksExpired origin now (s.perform later call).1 (t.perform later call).1 := by
  obtain ⟨w, answer, _, hs, ht⟩ := (h.looksAlike hle off).actsAlike
  rw [hs, ht]
  exact ⟨rfl, h.apply w⟩

theorem LacksExpired.run (h : LacksExpired origin now s t) {calls : List TimedCall}
    (off : ∀ c ∈ calls, now ≤ c.time ∧ c.call.KeepsOff origin) :
    t.journal calls = s.journal calls ∧ LacksExpired origin now (s.run calls) (t.run calls) := by
  induction calls generalizing s t with
  | nil => exact ⟨rfl, h⟩
  | cons c calls ih =>
    obtain ⟨⟨hle, hoff⟩, off⟩ := List.forall_mem_cons.mp off
    obtain ⟨hanswer, hnext⟩ := h.step hle hoff
    obtain ⟨hjournal, hrun⟩ := ih hnext off
    refine ⟨?_, hrun⟩
    simp only [journal, hanswer, hjournal]

theorem removeExpired_snd (s : Store) (now : UInt64) :
    (s.removeExpired now).2 =
      s.ceremonies.entries.countP fun entry => entry.2.expiry ≤ now.toNat := by
  have hcount := s.ceremonies.size_sub_size_filter fun c => !c.isExpired now
  simp only [Bool.not_not] at hcount
  exact hcount

theorem put_after_purge {ceremony : Ceremony} :
    ((s.removeExpired now).1.perform later (.putCeremony ceremony)).2 = .ok () ↔
      ∀ old, s.ceremonies.get? ceremony.challengeId = some old → old.expiry ≤ now.toNat := by
  have hfree : ((s.removeExpired now).1.perform later (.putCeremony ceremony)).2 = .ok () ↔
      (s.removeExpired now).1.ceremonies.get? ceremony.challengeId = none := by
    refine commit_eq_ok.trans ⟨?_, fun h => ⟨_, putCeremony_eq_ok.mpr ⟨h, rfl⟩⟩⟩
    rintro ⟨s', h⟩
    exact (putCeremony_eq_ok.mp h).1
  rw [hfree, Option.eq_none_iff_forall_ne_some]
  constructor
  · intro h old hold
    exact Nat.not_lt.mp fun hlt => h old (get?_removeExpired.mpr ⟨hold, hlt⟩)
  · intro h old hstill
    obtain ⟨hold, hlt⟩ := get?_removeExpired.mp hstill
    exact Nat.not_lt.mpr (h old hold) hlt

/-- A purge removes the ceremonies that have run out, tells their number and frees their challenges. No
call that comes later and puts nothing under a challenge used before it can tell whether the purge was
made: the answers are the same, and so are the credentials and the live ceremonies all along. -/
theorem purge_is_unobservable (s : Store) (now : UInt64) :
    (s.removeExpired now).2 = s.ceremonies.entries.countP (fun entry =>
      min (entry.2.createdAt.toNat + entry.2.ttl.toNat) (UInt64.size - 1) ≤ now.toNat) ∧
    (∀ challengeId c, (s.removeExpired now).1.ceremonies.get? challengeId = some c ↔
      s.ceremonies.get? challengeId = some c ∧
        now.toNat < min (c.createdAt.toNat + c.ttl.toNat) (UInt64.size - 1)) ∧
    (∀ time ceremony, ((s.removeExpired now).1.perform time (.putCeremony ceremony)).2 = .ok () ↔
      ∀ old, s.ceremonies.get? ceremony.challengeId = some old →
        min (old.createdAt.toNat + old.ttl.toNat) (UInt64.size - 1) ≤ now.toNat) ∧
    ∀ calls, (∀ c ∈ calls, now ≤ c.time ∧ c.call.KeepsOff s) →
      (s.removeExpired now).1.journal calls = s.journal calls ∧
      ∀ part, part <+: calls →
        ((s.removeExpired now).1.run part).credentials = (s.run part).credentials ∧
        ∀ time, now ≤ time → ∀ challengeId,
          ((s.removeExpired now).1.run part).liveCeremony time challengeId =
            (s.run part).liveCeremony time challengeId := by
  have start := lacksExpired_removeExpired s now
  refine ⟨removeExpired_snd s now, fun _ _ => get?_removeExpired, fun _ _ => put_after_purge, ?_⟩
  intro calls off
  refine ⟨(start.run off).1, ?_⟩
  intro part hpart
  have after := (start.run fun c hc => off c (hpart.subset hc)).2
  exact ⟨after.credentials, fun _ hle _ => after.liveCeremony hle⟩

def sampleStore : Store := empty.run (sampleCalls ++ [⟨2, .putCeremony sampleRegistration⟩])

def sampleLater : List TimedCall :=
  [⟨300, .getCeremony [1]⟩, ⟨301, .putCeremony (.begin [4] "session" .get none 301)⟩,
    ⟨301, .getCeremonyAndCredential [2] [9]⟩, ⟨301, .moveCounter [9] 7 [2]⟩,
    ⟨900, .getCeremony [4]⟩, ⟨900, .countCredentials⟩]

theorem purge_is_unobservable_sample :
    (sampleStore.removeExpired 300).2 = 1 ∧
    ((sampleStore.removeExpired 300).1.perform 300 (.putCeremony sampleRegistration)).2 = .ok () ∧
    (sampleStore.perform 300 (.putCeremony sampleRegistration)).2 =
      .error (.conditionFailed .challengeInUse) ∧
    (sampleStore.removeExpired 300).1.journal sampleLater = sampleStore.journal sampleLater ∧
    ((sampleStore.removeExpired 300).1.run sampleLater).credentials =
      (sampleStore.run sampleLater).credentials := by
  obtain ⟨count, _, freed, unseen⟩ := purge_is_unobservable sampleStore 300
  obtain ⟨answers, throughout⟩ := unseen sampleLater (by decide)
  exact ⟨count.trans rfl, (freed 300 sampleRegistration).mpr (by decide), rfl, answers,
    (throughout sampleLater List.prefix_rfl).1⟩

end Store

end RelyingParty
