import RelyingParty.Proofs.Registration.StoredKey
import RelyingParty.Proofs.Service.UninterruptedLogin

namespace RelyingParty

/-- `p` asks for everything that `q` asks for. -/
structure Policy.AtLeastAsStrict (p q : Policy) : Prop where
  userPresence : q.requireUserPresence = true → p.requireUserPresence = true
  userVerification : q.requireUserVerification = true → p.requireUserVerification = true
  counter : q.counter = .strictlyIncreasing → p.counter = .strictlyIncreasing

/-- The refusals that a policy is asked about. -/
def VerificationError.OfPolicy (e : VerificationError) : Prop :=
  e = .userPresenceRequired ∨ e = .userVerificationRequired ∨
    ∃ stored received, e = .counterRegression stored received

/-- The first outcome is the second, or a refusal of the policy. -/
def Tightens {α : Type} (x y : Except VerificationError α) : Prop :=
  x = y ∨ ∃ e, x = .error e ∧ e.OfPolicy

section Tightens

variable {α β : Type} {x y : Except VerificationError α}

theorem tightens_refl (x : Except VerificationError α) : Tightens x x := agreesUnless_refl x

theorem Tightens.bind {f g : α → Except VerificationError β} (hx : Tightens x y)
    (hf : ∀ a, Tightens (f a) (g a)) : Tightens (x >>= f) (y >>= g) :=
  AgreesUnless.bind hx fun a _ => hf a

theorem tightens_ensure {asked needed : Prop} [Decidable asked] [Decidable needed]
    {e : VerificationError} (h : asked → needed) (he : e.OfPolicy) :
    Tightens (ensure asked e) (ensure needed e) := by
  by_cases hasked : asked
  · rw [ensure_of hasked, ensure_of (h hasked)]
    exact tightens_refl _
  · exact .inr ⟨e, ensure_of_not hasked e, he⟩

theorem Tightens.accepts {a : α} (h : Tightens x y) (hx : x = .ok a) : y = .ok a :=
  AgreesUnless.accepts h hx

theorem Tightens.refuses (h : Tightens x y) (hne : x ≠ y) : ∃ e, x = .error e ∧ e.OfPolicy :=
  h.resolve_left hne

end Tightens

variable {p q : Policy}

theorem Policy.AtLeastAsStrict.accepts (h : p.AtLeastAsStrict q) {stored received : UInt32}
    (haccepts : p.counter.accepts stored received = true) : q.counter.accepts stored received = true := by
  cases hq : q.counter with
  | allowEqual => simpa [CounterPolicy.accepts] using CounterPolicy.le_of_accepts haccepts
  | strictlyIncreasing => rwa [h.counter hq] at haccepts

def Expectation.under (expectation : Expectation) (policy : Policy) : Expectation :=
  { expectation with
    requireUserPresence := policy.requireUserPresence
    requireUserVerification := policy.requireUserVerification
    counterPolicy := policy.counter }

theorem AuthenticatorData.check_tightens (h : p.AtLeastAsStrict q) (data : AuthenticatorData)
    (expectation : Expectation) (injected : Option AttestedCredential) :
    Tightens (data.check (expectation.under p) injected) (data.check (expectation.under q) injected) := by
  rw [check_eq, check_eq]
  have hpresence (hp : p.requireUserPresence = true → data.flags.userPresent = true)
      (hq : q.requireUserPresence = true) : data.flags.userPresent = true := hp (h.userPresence hq)
  have hverification (hp : p.requireUserVerification = true → data.flags.userVerified = true)
      (hq : q.requireUserVerification = true) : data.flags.userVerified = true :=
    hp (h.userVerification hq)
  refine (tightens_refl _).bind fun _ => ?_
  refine (tightens_ensure hpresence (.inl rfl)).bind fun _ => ?_
  refine (tightens_ensure hverification (.inr (.inl rfl))).bind fun _ => ?_
  exact (tightens_ensure h.accepts (.inr (.inr ⟨_, _, rfl⟩))).bind fun _ => tightens_refl _

theorem AssertionRequest.verify_tightens (h : p.AtLeastAsStrict q) (request : AssertionRequest)
    (challenge : Bytes) (credential : Credential) (party : Party) :
    Tightens (request.verify challenge credential party p)
      (request.verify challenge credential party q) := by
  unfold verify verifyUsing
  split
  · exact tightens_refl _
  · refine (tightens_refl _).bind fun parts => ?_
    refine (tightens_refl _).bind fun clientData => ?_
    refine (tightens_refl _).bind fun _ => ?_
    refine (tightens_refl _).bind fun parsed => ?_
    have hcheck := parsed.check_tightens h (request.expectation credential party p)
      (request.injected credential)
    exact hcheck.bind fun authData => tightens_refl _

theorem Attestation.checkStatement_policy (settings : RegistrationSettings) (policy : Policy)
    (format : AttestationFormat) (s : Statement) :
    checkStatement { settings with policy } format s = checkStatement settings format s := by
  cases format <;> rfl

theorem RegistrationRequest.verify_tightens (h : p.AtLeastAsStrict q) (request : RegistrationRequest)
    (challenge : Bytes) (party : Party) (settings : RegistrationSettings) (now : UInt64) :
    Tightens (request.verify challenge party { settings with policy := p } now)
      (request.verify challenge party { settings with policy := q } now) := by
  unfold verify
  simp only [Attestation.checkStatement_policy]
  refine (tightens_refl _).bind fun clientData => ?_
  refine (tightens_refl _).bind fun _ => ?_
  refine (tightens_refl _).bind fun object => ?_
  have hcheck := object.authData.check_tightens h (expectation party p) none
  exact hcheck.bind fun authData => tightens_refl _

/-- What passes under a policy passes with the same result under every policy that is less strict. Where
the outcomes under the two differ, the stricter one has refused for what a policy asks about. -/
theorem stricter_policy_only_refuses (h : p.AtLeastAsStrict q) :
    (∀ (request : AssertionRequest) (challenge : Bytes) (credential : Credential) (party : Party),
      (∀ verified, request.verify challenge credential party p = .ok verified →
        request.verify challenge credential party q = .ok verified) ∧
      (request.verify challenge credential party p ≠ request.verify challenge credential party q →
        ∃ e, request.verify challenge credential party p = .error e ∧ e.OfPolicy)) ∧
    ∀ (request : RegistrationRequest) (challenge : Bytes) (party : Party)
      (settings : RegistrationSettings) (now : UInt64),
      let verify (policy : Policy) := request.verify challenge party { settings with policy } now
      (∀ credential, verify p = .ok credential → verify q = .ok credential) ∧
      (verify p ≠ verify q → ∃ e, verify p = .error e ∧ e.OfPolicy) := by
  constructor
  · intro request challenge credential party
    have hverify := request.verify_tightens h challenge credential party
    exact ⟨fun _ => hverify.accepts, hverify.refuses⟩
  · intro request challenge party settings now verify
    have hverify : Tightens (verify p) (verify q) := request.verify_tightens h challenge party settings now
    exact ⟨fun _ => hverify.accepts, hverify.refuses⟩

open Store (sampleAnswer sampleAssertion sampleCounting sampleStrict) in
open RegistrationRequest (sampleKeyless sampleParty sampleSettings) in
theorem stricter_policy_only_refuses_sample :
    let lenient : Policy := ⟨false, false, .allowEqual⟩
    -- the counter has moved on: both policies accept
    sampleAnswer.verify [2] sampleCounting sampleParty lenient = .ok ⟨6, true, false⟩ ∧
    -- the counter stands still: the lenient policy comes to the signature
    (sampleAssertion "Ag" 5 0).verify [2] sampleCounting sampleParty lenient = .error .signatureInvalid ∧
    (∃ e, (sampleAssertion "Ag" 5 0).verify [2] sampleCounting sampleParty sampleStrict = .error e ∧
      e.OfPolicy) ∧
    (∃ credential, sampleKeyless.verify [1] sampleParty { sampleSettings with policy := lenient } 5 =
      .ok credential) ∧
    ∃ e, sampleKeyless.verify [1] sampleParty { sampleSettings with policy := sampleStrict } 5 = .error e ∧
      e.OfPolicy := by
  intro lenient
  let growing : Policy := ⟨false, false, .strictlyIncreasing⟩
  have hstrict : sampleStrict.AtLeastAsStrict lenient := ⟨nofun, nofun, nofun⟩
  have hgrowing : growing.AtLeastAsStrict lenient := ⟨nofun, nofun, nofun⟩
  have hanswer : sampleAnswer.verify [2] sampleCounting sampleParty sampleStrict =
      .ok ⟨6, true, false⟩ := by decide +kernel
  have hstill : (sampleAssertion "Ag" 5 0).verify [2] sampleCounting sampleParty lenient =
      .error .signatureInvalid := by decide +kernel
  have hdiffer : (sampleAssertion "Ag" 5 0).verify [2] sampleCounting sampleParty sampleStrict ≠
      (sampleAssertion "Ag" 5 0).verify [2] sampleCounting sampleParty lenient := by decide +kernel
  have hregistered : sampleKeyless.verify [1] sampleParty { sampleSettings with policy := growing } 5 =
      .ok ⟨[9], [0xa0], .none, ⟨List.replicate 16 0, rfl⟩, 0, false, none, "session", 5, 5⟩ := by
    decide +kernel
  have habsent : sampleKeyless.verify [1] sampleParty { sampleSettings with policy := sampleStrict } 5 ≠
      sampleKeyless.verify [1] sampleParty { sampleSettings with policy := lenient } 5 := by
    decide +kernel
  obtain ⟨login, registration⟩ := stricter_policy_only_refuses hstrict
  obtain ⟨_, registrationGrowing⟩ := stricter_policy_only_refuses hgrowing
  exact ⟨(login sampleAnswer _ _ _).1 _ hanswer, hstill, (login _ _ _ _).2 hdiffer,
    ⟨_, (registrationGrowing sampleKeyless _ _ sampleSettings _).1 _ hregistered⟩,
    (registration sampleKeyless _ _ sampleSettings _).2 habsent⟩

end RelyingParty
