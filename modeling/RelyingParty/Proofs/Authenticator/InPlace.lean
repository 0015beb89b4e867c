import RelyingParty.Proofs.Authenticator.Expectation

namespace RelyingParty

section Change

variable {ε σ : Type} {s changed : σ} {change : Except ε σ} {e : ε}

/-- What a change of a state answers that may be refused, with the state as it leaves it. -/
def leaving (s : σ) : Except ε σ → Except ε Unit × σ
  | .ok changed => (.ok (), changed)
  | .error e => (.error e, s)

theorem leaving_eq_ok : leaving s change = (.ok (), changed) ↔ change = .ok changed := by
  cases change <;> simp [leaving]

theorem leaving_eq_error : leaving s change = (.error e, changed) ↔ change = .error e ∧ changed = s := by
  cases change <;> simp [leaving, eq_comm]

theorem run_get {next : σ → ExceptT ε (StateM σ) Unit} :
    (get >>= next).run.run s = (next s).run.run s := rfl

/-- A refusal leaves the state as it is. -/
theorem run_refuse {condition : Prop} [Decidable condition] {next : Unit → ExceptT ε (StateM σ) Unit}
    (h : (next ()).run.run s = leaving s change) :
    (if condition then throw e >>= next else next ()).run.run s =
      leaving s (if condition then .error e else change) := by
  split
  next => rfl
  next => exact h

end Change

/-- The things that authenticator data is checked for, in the order in which they are asked. -/
inductive ExpectationCheck where
  | party
  | userPresence
  | userVerification
  | counter
  | attestedData

def ExpectationCheck.all : List ExpectationCheck :=
  [party, userPresence, userVerification, counter, attestedData]

theorem ExpectationCheck.mem_all (check : ExpectationCheck) : check ∈ all := by
  cases check <;> simp [all]

def Expectation.Names (expectation : Expectation) (hash : FixedBytes 32) : Prop :=
  hash = sha256 (Bytes.ofText expectation.rpId) ∨
    ∃ id ∈ expectation.appId, hash = sha256 (Bytes.ofText id)

instance (expectation : Expectation) (hash : FixedBytes 32) : Decidable (expectation.Names hash) :=
  inferInstanceAs (Decidable (_ ∨ _))

theorem Expectation.acceptsHash_iff_names {expectation : Expectation} {hash : FixedBytes 32} :
    expectation.acceptsHash hash = true ↔ expectation.Names hash := by
  unfold acceptsHash Names idHash
  cases expectation.appId <;> simp

namespace AuthenticatorData

structure Meets (data : AuthenticatorData) (expectation : Expectation)
    (injected : Option AttestedCredential) : Prop where
  party : expectation.Names data.rpIdHash
  userPresence : expectation.requireUserPresence = true → data.flags.userPresent = true
  userVerification : expectation.requireUserVerification = true → data.flags.userVerified = true
  counter : expectation.counterPolicy.accepts expectation.lastSignCounter data.signCounter = true
  attestedData : data.attested.isSome = true ∨ injected.isSome = true ∨ data.flags.attestedData = false

def outcome (data : AuthenticatorData) (expectation : Expectation)
    (injected : Option AttestedCredential) : ExpectationCheck → Except VerificationError Unit
  | .party => ensure (expectation.Names data.rpIdHash) .rpIdMismatch
  | .userPresence => ensure (expectation.requireUserPresence = true → data.flags.userPresent = true)
      .userPresenceRequired
  | .userVerification =>
    ensure (expectation.requireUserVerification = true → data.flags.userVerified = true)
      .userVerificationRequired
  | .counter =>
    ensure (expectation.counterPolicy.accepts expectation.lastSignCounter data.signCounter = true)
      (.counterRegression expectation.lastSignCounter data.signCounter)
  | .attestedData =>
    ensure (data.attested.isSome = true ∨ injected.isSome = true ∨ data.flags.attestedData = false)
      .attestedDataMissing

/-- The data with a credential in the place of one that it does not hold. -/
def completed (data : AuthenticatorData) (injected : Option AttestedCredential) : AuthenticatorData :=
  { data with attested := data.attested.or injected }

variable {data after : AuthenticatorData} {expectation : Expectation}
  {injected again : Option AttestedCredential}

theorem check_eq_forM : data.check expectation injected =
    (ExpectationCheck.all.forM (data.outcome expectation injected) >>= fun _ =>
      .ok (data.completed injected)) := by
  rw [check_eq, ensure_congr Expectation.acceptsHash_iff_names]
  unfold ExpectationCheck.all
  simp only [forM_cons, outcome, bind_assoc]
  rfl

theorem meets_iff : data.Meets expectation injected ↔
    ∀ check, data.outcome expectation injected check = .ok () := by
  constructor
  · intro h check
    cases check with
    | party => exact ensure_of h.party _
    | userPresence => exact ensure_of h.userPresence _
    | userVerification => exact ensure_of h.userVerification _
    | counter => exact ensure_of h.counter _
    | attestedData => exact ensure_of h.attestedData _
  · intro h
    exact ⟨ensure_eq_ok.mp (h .party), ensure_eq_ok.mp (h .userPresence),
      ensure_eq_ok.mp (h .userVerification), ensure_eq_ok.mp (h .counter),
      ensure_eq_ok.mp (h .attestedData)⟩

theorem check_eq_ok_iff_meets : data.check expectation injected = .ok after ↔
    data.Meets expectation injected ∧ after = data.completed injected := by
  rw [check_eq_forM, then_eq_ok, forM_eq_ok, meets_iff, Except.ok.injEq, eq_comm (a := after)]
  exact and_congr_left fun _ => ⟨fun h check => h check check.mem_all, fun h check _ => h check⟩

theorem check_eq_error_iff {e : VerificationError} : data.check expectation injected = .error e ↔
    FirstFault (data.outcome expectation injected) ExpectationCheck.all e := by
  rw [check_eq_forM, bind_eq_error, forM_eq_error]
  constructor
  · rintro (h | ⟨_, _, h⟩)
    · exact h
    · cases h
  · exact .inl

theorem run_checkInPlace (data : AuthenticatorData) (expectation : Expectation)
    (injected : Option AttestedCredential) : (checkInPlace expectation injected).run.run data =
      leaving data (data.check expectation injected) := by
  unfold checkInPlace check
  rw [run_get]
  -- the four refusals come in the same order on both sides
  iterate 4 refine run_refuse ?_
  obtain ⟨rpIdHash, flags, signCounter, attested, extensions⟩ := data
  cases attested with
  | some attested => rfl
  | none =>
    cases injected with
    | some injected => rfl
    | none =>
      dsimp only
      generalize flags.attestedData = announced
      cases announced <;> rfl

theorem Meets.completed (h : data.Meets expectation injected) :
    (data.completed injected).Meets expectation again where
  party := h.party
  userPresence := h.userPresence
  userVerification := h.userVerification
  counter := h.counter
  attestedData := by
    rcases h.attestedData with hheld | hinjected | hflag
    · exact .inl (by simp [AuthenticatorData.completed, hheld])
    · exact .inl (by simp [AuthenticatorData.completed, hinjected])
    · exact .inr (.inr hflag)

theorem completed_of_isSome (h : data.attested.isSome = true) : data.completed again = data := by
  obtain ⟨held, hheld⟩ := Option.isSome_iff_exists.mp h
  rw [completed, hheld, Option.some_or, ← hheld]

/-- Only a credential that the data does not hold is put into it. -/
theorem completed_attested_ne (h : (data.completed injected).attested ≠ data.attested) :
    data.attested = none ∧ (data.completed injected).attested = injected := by
  have hnone : data.attested = none := by
    by_contra hsome
    have hheld := Option.isSome_iff_ne_none.mpr hsome
    exact h (congrArg attested (completed_of_isSome hheld))
  refine ⟨hnone, ?_⟩
  rw [completed, hnone, Option.none_or]

theorem run_checkInPlace_completed (h : data.Meets expectation injected) :
    (checkInPlace expectation again).run.run (data.completed injected) =
      (.ok (), (data.completed injected).completed again) := by
  rw [run_checkInPlace, leaving_eq_ok]
  exact check_eq_ok_iff_meets.mpr ⟨h.completed, rfl⟩

/-- The check of data that is held answers that all is well exactly if the data meets everything that is
asked of it, and otherwise with the first check that it fails, as the check of data that is passed on does.
Only the attested credential can change, and only where all is well and none was sent: then it is the
injected one. A second check with the same expectation passes, whatever is injected, and where a credential
is held it changes nothing. -/
theorem keeps_what_was_sent (data : AuthenticatorData) (expectation : Expectation)
    (injected : Option AttestedCredential) (answer : Except VerificationError Unit)
    (after : AuthenticatorData)
    (h : (checkInPlace expectation injected).run.run data = (answer, after)) :
    (answer = .ok () ↔ data.Meets expectation injected) ∧
    (∀ e, answer = .error e ↔
      FirstFault (data.outcome expectation injected) ExpectationCheck.all e) ∧
    data.check expectation injected = answer.map (fun _ => after) ∧
    (after.rpIdHash = data.rpIdHash ∧ after.flags = data.flags ∧
      after.signCounter = data.signCounter ∧ after.extensions = data.extensions) ∧
    (∀ e, answer = .error e → after = data) ∧
    (answer = .ok () → after.attested = data.attested.or injected) ∧
    (after.attested ≠ data.attested →
      answer = .ok () ∧ data.attested = none ∧ after.attested = injected) ∧
    (answer = .ok () → ∀ again, ∃ final,
      (checkInPlace expectation again).run.run after = (.ok (), final) ∧
        (after.attested.isSome = true → final = after)) := by
  rw [run_checkInPlace] at h
  cases answer with
  | error e =>
    obtain ⟨hcheck, rfl⟩ := leaving_eq_error.mp h
    have hfault (e' : VerificationError) : (Except.error e : Except VerificationError Unit) = .error e' ↔
        FirstFault (after.outcome expectation injected) ExpectationCheck.all e' := by
      rw [← check_eq_error_iff, hcheck, Except.error.injEq, Except.error.injEq]
    have hmeets : ¬ after.Meets expectation injected := by
      intro hmeets
      cases hcheck.symm.trans (check_eq_ok_iff_meets.mpr ⟨hmeets, rfl⟩)
    exact ⟨iff_of_false nofun hmeets, hfault, hcheck, ⟨rfl, rfl, rfl, rfl⟩, fun _ _ => rfl, nofun,
      fun hne => absurd rfl hne, nofun⟩
  | ok _ =>
    have hcheck := leaving_eq_ok.mp h
    obtain ⟨hmeets, rfl⟩ := check_eq_ok_iff_meets.mp hcheck
    have hfault (e : VerificationError) : (Except.ok () : Except VerificationError Unit) = .error e ↔
        FirstFault (data.outcome expectation injected) ExpectationCheck.all e := by
      rw [← check_eq_error_iff, hcheck]
      exact iff_of_false nofun nofun
    refine ⟨iff_of_true rfl hmeets, hfault, hcheck, ⟨rfl, rfl, rfl, rfl⟩, nofun, fun _ => rfl, ?_, ?_⟩
    · intro hne
      exact ⟨rfl, completed_attested_ne hne⟩
    · intro _ again
      exact ⟨_, run_checkInPlace_completed hmeets, completed_of_isSome⟩

def sampleHeld : AuthenticatorData := ⟨idHash "a", ⟨0x41⟩, 5, none, none⟩

def sampleInjected : AttestedCredential := ⟨⟨List.replicate 16 2, rfl⟩, [9], [0xa0]⟩

def sampleExpectation (lastSignCounter : UInt32) : Expectation :=
  ⟨"a", none, true, false, lastSignCounter, .strictlyIncreasing⟩

theorem keeps_what_was_sent_sample :
    sampleHeld.Meets (sampleExpectation 4) (some sampleInjected) ∧
      (sampleHeld.completed (some sampleInjected)).attested = some sampleInjected ∧
      (∃ final, (checkInPlace (sampleExpectation 4) none).run.run
        (sampleHeld.completed (some sampleInjected)) = (.ok (), final) ∧
          final = sampleHeld.completed (some sampleInjected)) ∧
      FirstFault (sampleHeld.outcome (sampleExpectation 5) (some sampleInjected)) ExpectationCheck.all
        (.counterRegression 5 5) := by
  have hpassed : (checkInPlace (sampleExpectation 4) (some sampleInjected)).run.run sampleHeld =
      (.ok (), sampleHeld.completed (some sampleInjected)) := by
    rw [run_checkInPlace, leaving_eq_ok]
    decide +kernel
  have hrefused : (checkInPlace (sampleExpectation 5) (some sampleInjected)).run.run sampleHeld =
      (.error (.counterRegression 5 5), sampleHeld) := by
    rw [run_checkInPlace, leaving_eq_error]
    decide +kernel
  obtain ⟨hmeets, _, _, _, _, hattested, _, hagain⟩ := keeps_what_was_sent _ _ _ _ _ hpassed
  obtain ⟨_, hfault, _⟩ := keeps_what_was_sent _ _ _ _ _ hrefused
  obtain ⟨final, hfinal, hsame⟩ := hagain rfl none
  exact ⟨hmeets.mp rfl, hattested rfl, ⟨final, hfinal, hsame rfl⟩, (hfault _).mp rfl⟩

end AuthenticatorData

end RelyingParty
