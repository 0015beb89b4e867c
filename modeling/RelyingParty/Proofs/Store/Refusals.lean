import RelyingParty.Proofs.Store.Operations

namespace RelyingParty.Store

variable {s : Store} {now : UInt64}

theorem not_hasLive_of_none {challengeId : Bytes} (h : s.ceremonies.get? challengeId = none)
    (c : Ceremony) : ¬ s.HasLive now challengeId c := by
  rintro ⟨hc, _⟩
  rw [h] at hc
  cases hc

theorem not_hasLive_of_late {challengeId : Bytes} {c : Ceremony}
    (h : s.ceremonies.get? challengeId = some c) (late : ¬ now.toNat < c.expiry) (other : Ceremony) :
    ¬ s.HasLive now challengeId other := by
  rintro ⟨hother, hlive⟩
  have hsame : c = other := Option.some.inj (h.symm.trans hother)
  exact late (hsame ▸ hlive)

theorem liveCeremony_of_not_live {challengeId : Bytes} (h : ∀ c, ¬ s.HasLive now challengeId c) :
    s.liveCeremony now challengeId = .error .notFound := by
  cases hc : s.liveCeremony now challengeId with
  | ok c => exact absurd (liveCeremony_eq_ok.mp hc) (h c)
  | error e => rw [liveCeremony_eq_error hc]

section Registration

variable {ceremony stored : Ceremony} {credential : Credential}

theorem writeCredential_of_not_live (h : ∀ c, ¬ s.HasLive now ceremony.challengeId c) :
    s.writeCredential now ceremony credential = .error .notFound := by
  rw [writeCredential, liveCeremony_of_not_live h]
  rfl

theorem writeCredential_of_otherSession (live : s.HasLive now ceremony.challengeId stored)
    (session : stored.sessionId ≠ ceremony.sessionId) :
    s.writeCredential now ceremony credential = .error (.conditionFailed .otherSession) := by
  rw [writeCredential, liveCeremony_eq_ok.mpr live]
  exact if_pos session

theorem writeCredential_of_known (live : s.HasLive now ceremony.challengeId stored)
    (session : stored.sessionId = ceremony.sessionId) (kind : stored.kind = .create)
    (known : s.credentials.get? credential.rawId ≠ none) :
    s.writeCredential now ceremony credential = .error .alreadyExists := by
  have hcontains : s.credentials.contains credential.rawId = true := by
    simpa [Table.contains, Option.isSome_iff_ne_none] using known
  rw [writeCredential, liveCeremony_eq_ok.mpr live]
  change (if stored.sessionId ≠ ceremony.sessionId then _ else _) = _
  rw [if_neg (not_not.mpr session), if_neg (not_not.mpr kind), if_pos hcontains]

end Registration

section Login

variable {credentialId challengeId : Bytes} {count : UInt32} {stored : Ceremony}
  {credential : Credential}

theorem moveCounter_of_not_live (h : ∀ c, ¬ s.HasLive now challengeId c) :
    s.moveCounter now credentialId count challengeId = (s, .error .notFound) := by
  rw [moveCounter, loginTarget, liveCeremony_of_not_live h]
  rfl

theorem moveCounter_of_create (live : s.HasLive now challengeId stored) (kind : stored.kind = .create) :
    s.moveCounter now credentialId count challengeId =
      (s, .error (.conditionFailed .notLogin)) := by
  have hother : stored.kind ≠ .get := by
    rw [kind]
    exact nofun
  have htarget : s.loginTarget now credentialId challengeId =
      .error (.conditionFailed .notLogin) := by
    rw [loginTarget, liveCeremony_eq_ok.mpr live]
    exact if_pos hother
  rw [moveCounter, htarget]

theorem moveCounter_of_lt (due : s.LogsIn now credentialId challengeId stored credential)
    (lt : count < credential.signCounter) :
    s.moveCounter now credentialId count challengeId =
      (⟨s.ceremonies, s.credentials.insert credentialId
        { credential with cloneWarning := true, updatedAt := now }⟩,
        .error (.counterNotMonotone credential.signCounter count)) := by
  rw [moveCounter, loginTarget_eq_ok.mpr ⟨stored, due⟩]
  exact if_pos lt

theorem moveCounter_of_le (due : s.LogsIn now credentialId challengeId stored credential)
    (le : credential.signCounter ≤ count) :
    s.moveCounter now credentialId count challengeId =
      (⟨s.ceremonies.erase challengeId, s.credentials.insert credentialId
        { credential with signCounter := count, updatedAt := now }⟩, .ok ()) := by
  rw [moveCounter, loginTarget_eq_ok.mpr ⟨stored, due⟩]
  exact if_neg (UInt32.not_lt.mpr le)

end Login

end RelyingParty.Store
