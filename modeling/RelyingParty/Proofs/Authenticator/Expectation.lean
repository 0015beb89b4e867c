import RelyingParty.Authenticator.Expectation
import RelyingParty.Proofs.Authenticator.Layout
import RelyingParty.Proofs.Checks

namespace RelyingParty

/-- Counters may start anywhere. -/
theorem CounterPolicy.accepts_zero (policy : CounterPolicy) (received : UInt32) :
    policy.accepts 0 received = true := by
  cases policy with
  | allowEqual => simp [accepts]
  | strictlyIncreasing =>
    have hzero : received = 0 ∨ 0 < received := by
      rcases UInt32.lt_or_eq_of_le (UInt32.zero_le (a := received)) with h | h
      · exact .inr h
      · exact .inl h.symm
    rcases hzero with rfl | hpos
    · rfl
    · simp [accepts, hpos]

theorem CounterPolicy.strictlyIncreasing_accepts_iff {stored received : UInt32} :
    strictlyIncreasing.accepts stored received = true ↔
      stored < received ∨ received = 0 ∧ stored = 0 := by
  simp [accepts]

/-- No counter goes down under either policy. -/
theorem CounterPolicy.le_of_accepts {policy : CounterPolicy} {stored received : UInt32}
    (h : policy.accepts stored received = true) : stored ≤ received := by
  cases policy with
  | allowEqual => simpa [accepts] using h
  | strictlyIncreasing =>
    rcases strictlyIncreasing_accepts_iff.mp h with hlt | ⟨rfl, rfl⟩
    · exact UInt32.le_of_lt hlt
    · exact UInt32.le_refl 0

theorem eq_idHash_iff {hash : FixedBytes 32} {bs : Bytes} (h : hash.bytes = bs) (id : String) :
    hash = idHash id ↔ bs = (sha256 (Bytes.ofText id)).bytes := by
  rw [← h]
  exact Iff.of_eq (FixedBytes.mk.injEq ..)

namespace AuthenticatorData

def flagsAt (raw : Bytes) : Flags := ⟨raw.getD 32 0⟩

def counterAt (raw : Bytes) : UInt32 := .ofNat (Bytes.toNat ((raw.drop 33).take 4))

variable {raw : Bytes} {mayBeMissing : Bool} {data checked : AuthenticatorData}
  {expectation : Expectation} {injected : Option AttestedCredential}

theorem fixed_bytes (h : data.toBytes = .ok raw) :
    ∃ rest, raw = data.rpIdHash.bytes ++ data.flags.bits :: Bytes.ofNat 4 data.signCounter.toNat ++ rest := by
  obtain ⟨front, _, rfl⟩ := toBytes_eq_ok.mp h
  exact ⟨front ++ data.extensions.getD [], by simp⟩

theorem parse_fixed (h : parse raw mayBeMissing = .ok data) :
    data.rpIdHash.bytes = raw.take 32 ∧ data.flags = flagsAt raw ∧ data.signCounter = counterAt raw := by
  obtain ⟨rest, rfl⟩ := fixed_bytes (wellFormed_of_parse h).1
  have hhash := data.rpIdHash.length_eq
  have hcounter := Bytes.length_ofNat 4 data.signCounter.toNat
  refine ⟨?_, ?_, ?_⟩
  · simp [hhash]
  · simp [flagsAt, List.getD, hhash]
  · have hdrop : (data.rpIdHash.bytes ++ data.flags.bits :: Bytes.ofNat 4 data.signCounter.toNat
        ++ rest).drop 33 = Bytes.ofNat 4 data.signCounter.toNat ++ rest := by
      simp [List.drop_append, hhash]
    have htake : (Bytes.ofNat 4 data.signCounter.toNat ++ rest).take 4 =
        Bytes.ofNat 4 data.signCounter.toNat := List.take_left' hcounter
    rw [counterAt, hdrop, htake, counter_of_bytes]

/-- The check of authenticator data, one thing after the other. -/
theorem check_eq (data : AuthenticatorData) (expectation : Expectation)
    (injected : Option AttestedCredential) :
    data.check expectation injected = (do
      ensure (expectation.acceptsHash data.rpIdHash = true) .rpIdMismatch
      ensure (expectation.requireUserPresence = true → data.flags.userPresent = true)
        .userPresenceRequired
      ensure (expectation.requireUserVerification = true → data.flags.userVerified = true)
        .userVerificationRequired
      ensure (expectation.counterPolicy.accepts expectation.lastSignCounter data.signCounter = true)
        (.counterRegression expectation.lastSignCounter data.signCounter)
      ensure (data.attested.isSome = true ∨ injected.isSome = true ∨ data.flags.attestedData = false)
        .attestedDataMissing
      .ok { data with attested := data.attested.or injected }) := by
  unfold check
  rw [refuse_eq_ensure (q := expectation.acceptsHash data.rpIdHash = true) (by simp),
    refuse_eq_ensure (q := expectation.requireUserPresence = true → data.flags.userPresent = true)
      (by simp),
    refuse_eq_ensure (q := expectation.requireUserVerification = true → data.flags.userVerified = true)
      (by simp),
    refuse_eq_ensure (q := expectation.counterPolicy.accepts expectation.lastSignCounter
      data.signCounter = true) (by simp)]
  -- the four checks are the same on both sides
  iterate 4 (congr 1; funext _)
  obtain ⟨rpIdHash, flags, signCounter, attested, extensions⟩ := data
  cases attested with
  | some attested => rw [ensure_of (.inl rfl)]; rfl
  | none =>
    cases injected with
    | some injected => rw [ensure_of (.inr (.inl rfl))]; rfl
    | none => exact refuse_eq_ensure (by simp) _ _

theorem check_eq_ok : data.check expectation injected = .ok checked ↔
    expectation.acceptsHash data.rpIdHash = true ∧
      (expectation.requireUserPresence = true → data.flags.userPresent = true) ∧
      (expectation.requireUserVerification = true → data.flags.userVerified = true) ∧
      expectation.counterPolicy.accepts expectation.lastSignCounter data.signCounter = true ∧
      (data.attested.isSome = true ∨ injected.isSome = true ∨ data.flags.attestedData = false) ∧
      { data with attested := data.attested.or injected } = checked := by
  rw [check_eq]
  simp only [ensure_bind_eq_ok, Except.ok.injEq]

end AuthenticatorData

end RelyingParty
