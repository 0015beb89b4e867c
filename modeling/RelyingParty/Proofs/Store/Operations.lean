import RelyingParty.Proofs.Outcome
import RelyingParty.Store.Basic

namespace RelyingParty.Store

variable {s s' : Store} {now : UInt64}

/-- The ceremony is stored under the challenge and has not run out. -/
def HasLive (s : Store) (now : UInt64) (challengeId : Bytes) (c : Ceremony) : Prop :=
  s.ceremonies.get? challengeId = some c ∧ now.toNat < c.expiry

theorem liveCeremony_eq_ok {challengeId : Bytes} {c : Ceremony} :
    s.liveCeremony now challengeId = .ok c ↔ s.HasLive now challengeId c := by
  unfold liveCeremony HasLive
  cases hc : s.ceremonies.get? challengeId with
  | none => simp
  | some stored =>
    by_cases hx : stored.isExpired now = true
    · have hle : stored.expiry ≤ now.toNat := by simpa [Ceremony.isExpired] using hx
      simp only [hx, if_true, reduceCtorEq, Option.some.injEq, false_iff, not_and]
      rintro rfl
      exact Nat.not_lt.mpr hle
    · have hlt : now.toNat < stored.expiry := by simpa [Ceremony.isExpired] using hx
      simp only [hx, Bool.false_eq_true, if_false, Except.ok.injEq, Option.some.injEq, iff_self_and]
      rintro rfl
      exact hlt

theorem liveCeremony_eq_error {challengeId : Bytes} {e : StoreError}
    (h : s.liveCeremony now challengeId = .error e) : e = .notFound := by
  unfold liveCeremony at h
  split at h
  next => split at h <;> simp_all
  next => simp_all

theorem credential_eq_ok {credentialId : Bytes} {c : Credential} :
    s.credential credentialId = .ok c ↔ s.credentials.get? credentialId = some c := by
  unfold credential
  cases s.credentials.get? credentialId <;> simp

theorem putCeremony_eq_ok {c : Ceremony} :
    s.putCeremony c = .ok s' ↔
      s.ceremonies.get? c.challengeId = none ∧
        s' = { s with ceremonies := s.ceremonies.insert c.challengeId c } := by
  unfold putCeremony
  by_cases hc : s.ceremonies.contains c.challengeId = true
  · have hsome : s.ceremonies.get? c.challengeId ≠ none := by
      simpa [Table.contains, Option.isSome_iff_ne_none] using hc
    simp [hc, hsome]
  · have hnone := Table.contains_eq_false_iff.mp (Bool.eq_false_iff.mpr hc)
    simp [hc, hnone, eq_comm]

theorem ceremonyAndCredential_eq_ok {challengeId credentialId : Bytes} {c : Ceremony}
    {credential : Credential} :
    s.ceremonyAndCredential now challengeId credentialId = .ok (c, credential) ↔
      s.HasLive now challengeId c ∧ c.admits credentialId = true ∧
        s.credentials.get? credentialId = some credential := by
  unfold ceremonyAndCredential
  rw [bind_eq_ok]
  constructor
  · rintro ⟨stored, hlive, h⟩
    split at h
    next => simp at h
    next hadmits =>
      obtain ⟨found, hfound, h⟩ := bind_eq_ok.mp h
      obtain ⟨rfl, rfl⟩ := Prod.mk.inj (Except.ok.inj h)
      exact ⟨liveCeremony_eq_ok.mp hlive, by simpa using hadmits, credential_eq_ok.mp hfound⟩
  · rintro ⟨hlive, hadmits, hfound⟩
    refine ⟨c, liveCeremony_eq_ok.mpr hlive, ?_⟩
    simp only [hadmits, Bool.not_true, Bool.false_eq_true, if_false]
    exact bind_eq_ok.mpr ⟨credential, credential_eq_ok.mpr hfound, rfl⟩

structure Registers (s : Store) (now : UInt64) (ceremony : Ceremony) (credential : Credential)
    (stored : Ceremony) : Prop where
  live : s.HasLive now ceremony.challengeId stored
  session : stored.sessionId = ceremony.sessionId
  kind : stored.kind = .create
  fresh : s.credentials.get? credential.rawId = none

theorem writeCredential_eq_ok {ceremony : Ceremony} {credential : Credential} :
    s.writeCredential now ceremony credential = .ok s' ↔
      (∃ stored, s.Registers now ceremony credential stored) ∧
        s' = ⟨s.ceremonies.erase ceremony.challengeId,
          s.credentials.insert credential.rawId credential⟩ := by
  unfold writeCredential
  rw [bind_eq_ok]
  constructor
  · rintro ⟨stored, hlive, h⟩
    split at h
    next => simp at h
    next hsession =>
      split at h
      next => simp at h
      next hkind =>
        split at h
        next => simp at h
        next hfresh =>
          have hfresh := Table.contains_eq_false_iff.mp (Bool.eq_false_iff.mpr hfresh)
          exact ⟨⟨stored, liveCeremony_eq_ok.mp hlive, by simpa using hsession,
            by simpa using hkind, hfresh⟩, (Except.ok.inj h).symm⟩
  · rintro ⟨⟨stored, hlive, hsession, hkind, hfresh⟩, rfl⟩
    have hfresh := Table.contains_eq_false_iff.mpr hfresh
    exact ⟨stored, liveCeremony_eq_ok.mpr hlive, by simp [hsession, hkind, hfresh]⟩

structure LogsIn (s : Store) (now : UInt64) (credentialId challengeId : Bytes) (stored : Ceremony)
    (credential : Credential) : Prop where
  live : s.HasLive now challengeId stored
  kind : stored.kind = .get
  admits : stored.admits credentialId = true
  found : s.credentials.get? credentialId = some credential

theorem loginTarget_eq_ok {credentialId challengeId : Bytes} {credential : Credential} :
    s.loginTarget now credentialId challengeId = .ok credential ↔
      ∃ stored, s.LogsIn now credentialId challengeId stored credential := by
  unfold loginTarget
  rw [bind_eq_ok]
  constructor
  · rintro ⟨stored, hlive, h⟩
    split at h
    next => simp at h
    next hkind =>
      split at h
      next => simp at h
      next hadmits =>
        exact ⟨stored, liveCeremony_eq_ok.mp hlive, by simpa using hkind, by simpa using hadmits,
          credential_eq_ok.mp h⟩
  · rintro ⟨stored, hlive, hkind, hadmits, hfound⟩
    exact ⟨stored, liveCeremony_eq_ok.mpr hlive,
      by simpa [hkind, hadmits] using credential_eq_ok.mpr hfound⟩

/-- Before the counters are compared, a login is refused for what is missing or for its ceremony. -/
theorem loginTarget_eq_error {credentialId challengeId : Bytes} {e : StoreError}
    (h : s.loginTarget now credentialId challengeId = .error e) :
    e = .notFound ∨ ∃ condition, e = .conditionFailed condition := by
  unfold loginTarget at h
  rcases bind_eq_error.mp h with h | ⟨stored, _, h⟩
  · exact Or.inl (liveCeremony_eq_error h)
  · split at h
    next => exact Or.inr ⟨_, (Except.error.inj h).symm⟩
    next =>
      split at h
      next => exact Or.inr ⟨_, (Except.error.inj h).symm⟩
      next =>
        unfold credential at h
        split at h
        next => simp at h
        next => exact Or.inl (Except.error.inj h).symm

theorem moveCounter_eq_ok {credentialId challengeId : Bytes} {count : UInt32} :
    (s.moveCounter now credentialId count challengeId).2 = .ok () ↔
      ∃ stored credential, s.LogsIn now credentialId challengeId stored credential ∧
        credential.signCounter ≤ count := by
  unfold moveCounter
  constructor
  · intro h
    split at h
    next => simp at h
    next credential ht =>
      obtain ⟨stored, due⟩ := loginTarget_eq_ok.mp ht
      split at h
      next => simp at h
      next hlt => exact ⟨stored, credential, due, UInt32.not_lt.mp hlt⟩
  · rintro ⟨stored, credential, due, hle⟩
    rw [loginTarget_eq_ok.mpr ⟨stored, due⟩]
    simp [UInt32.not_lt.mpr hle]

/-- A login that finds nothing to log in with leaves the store as it was. -/
theorem moveCounter_fst_of_not_logsIn {credentialId challengeId : Bytes} (count : UInt32)
    (h : ∀ stored credential, ¬ s.LogsIn now credentialId challengeId stored credential) :
    (s.moveCounter now credentialId count challengeId).1 = s := by
  unfold moveCounter
  split
  next => rfl
  next credential ht =>
    obtain ⟨stored, due⟩ := loginTarget_eq_ok.mp ht
    exact absurd due (h stored credential)

end RelyingParty.Store
