import RelyingParty.Proofs.Assertion.Verification
import RelyingParty.Proofs.ClientData.Verification

namespace RelyingParty

section Refusals

variable {ε ζ α β : Type} {P Q : ε → Prop}

def RefusedOnly (x : Except ε α) (P : ε → Prop) : Prop := ∀ e, x = .error e → P e

theorem refusedOnly_ok (a : α) : RefusedOnly (.ok a) P := by
  intro e h
  cases h

theorem refusedOnly_error {e : ε} (h : P e) : RefusedOnly (.error e : Except ε α) P := by
  intro other hother
  cases hother
  exact h

theorem RefusedOnly.bind {x : Except ε α} {f : α → Except ε β} (hx : RefusedOnly x P)
    (hf : ∀ a, RefusedOnly (f a) P) : RefusedOnly (x >>= f) P := by
  intro e h
  rcases bind_eq_error.mp h with h | ⟨a, _, h⟩
  · exact hx e h
  · exact hf a e h

theorem RefusedOnly.mono {x : Except ε α} (hx : RefusedOnly x P) (h : ∀ e, P e → Q e) :
    RefusedOnly x Q :=
  fun e he => h e (hx e he)

theorem refusedOnly_mapError {x : Except ζ α} {f : ζ → ε} (h : ∀ cause, P (f cause)) :
    RefusedOnly (x.mapError f) P := by
  cases x with
  | error cause => exact refusedOnly_error (h cause)
  | ok a => exact refusedOnly_ok a

theorem refusedOnly_ensure {condition : Prop} [Decidable condition] {e : ε} (h : ¬ condition → P e) :
    RefusedOnly (ensure condition e) P := by
  unfold ensure
  split
  next => exact refusedOnly_ok ()
  next hfails => exact refusedOnly_error (h hfails)

theorem refusedOnly_forM {outcome : α → Except ε Unit} {checks : List α}
    (h : ∀ check ∈ checks, RefusedOnly (outcome check) P) :
    RefusedOnly (checks.forM outcome) P := by
  intro e he
  obtain ⟨earlier, check, later, rfl, _, hfault⟩ := forM_eq_error.mp he
  exact h check (by simp) e hfault

end Refusals

def VerificationError.About (kind : ErrorKind) (e : VerificationError) : Prop := e.kind = kind

theorem Cbor.Entries.member_refusedOnly {α : Type} (read : Cbor.Item → Option α) (entries : Cbor.Entries)
    (name : String) : RefusedOnly (entries.member read name) (VerificationError.About .malformedInput) := by
  unfold member
  split
  · exact refusedOnly_ok _
  · exact refusedOnly_error rfl

namespace ClientData

theorem ofJson_refusedOnly (bs : Bytes) : RefusedOnly (ofJson bs) (VerificationError.About .malformedInput) := by
  unfold ofJson
  split
  · exact refusedOnly_error rfl
  · split
    · exact refusedOnly_ok _
    · exact refusedOnly_error rfl

theorem check_refusedOnly (clientData : ClientData) (challenge : Bytes) (kind : CeremonyKind)
    (origin : String) :
    RefusedOnly (clientData.check challenge kind origin) (VerificationError.About .clientDataMismatch) := by
  rw [check_eq]
  refine refusedOnly_forM fun check _ => ?_
  cases check with
  | type => exact refusedOnly_ensure fun _ => rfl
  | challenge => exact refusedOnly_ensure fun _ => rfl
  | origin => exact refusedOnly_ensure fun _ => rfl
  | tokenBinding => exact refusedOnly_ensure fun _ => rfl

end ClientData

theorem AttestedCredential.read_refusedOnly (bs : Bytes) :
    RefusedOnly (read bs) (VerificationError.About .malformedInput) := by
  unfold read
  split
  · exact refusedOnly_error rfl
  · split
    · exact refusedOnly_error rfl
    · split
      · exact refusedOnly_error rfl
      · split
        · exact refusedOnly_error rfl
        · exact refusedOnly_error rfl
        · split
          · exact refusedOnly_error rfl
          · exact refusedOnly_ok _

namespace AuthenticatorData

/-- Bytes that are no authenticator data are malformed, or lack what their flags announce. -/
theorem parse_refusedOnly (bs : Bytes) (mayBeMissing : Bool) :
    RefusedOnly (parse bs mayBeMissing)
      (fun e => e.About .malformedInput ∨ e = .attestedDataMissing ∧ mayBeMissing = false) := by
  have attested (flags : Flags) (rest : Bytes) : RefusedOnly (readAttested flags mayBeMissing rest)
      (fun e => e.About .malformedInput ∨ e = .attestedDataMissing ∧ mayBeMissing = false) := by
    unfold readAttested
    split
    · split
      · refine RefusedOnly.bind ?_ fun _ => refusedOnly_ok _
        exact (AttestedCredential.read_refusedOnly rest).mono fun _ => .inl
      · split
        next => exact refusedOnly_ok _
        next hneeded => exact refusedOnly_error (.inr ⟨rfl, Bool.eq_false_iff.mpr hneeded⟩)
    · exact refusedOnly_ok _
  have extensions (flags : Flags) (rest : Bytes) : RefusedOnly (readExtensions flags rest)
      (fun e => e.About .malformedInput ∨ e = .attestedDataMissing ∧ mayBeMissing = false) := by
    unfold readExtensions
    split
    · split
      · exact refusedOnly_error (.inl rfl)
      · exact refusedOnly_ok _
    · split
      · exact refusedOnly_ok _
      · exact refusedOnly_error (.inl rfl)
  unfold parse
  split
  · refine (attested _ _).bind fun _ => ?_
    exact (extensions _ _).bind fun _ => refusedOnly_ok _
  · exact refusedOnly_error (.inl rfl)

end AuthenticatorData

theorem VerificationError.About.ne {e : VerificationError} {kind other : ErrorKind} (h : e.About kind)
    (hne : kind ≠ other) : ¬ e.About other :=
  fun hother => hne (h.symm.trans hother)

theorem AssertionPayload.parts_malformed (payload : AssertionPayload) :
    RefusedOnly payload.parts (VerificationError.About .malformedInput) := by
  cases payload with
  | split authData signature => exact refusedOnly_ok _
  | combined bs =>
    refine RefusedOnly.bind (refusedOnly_mapError fun _ => rfl) fun entries => ?_
    refine (entries.member_refusedOnly _ _).bind fun _ => ?_
    exact (entries.member_refusedOnly _ _).bind fun _ => refusedOnly_ok _

/-- A refusal that is not worded as that of a registration, and that misses attested credential data only
where nothing is taken in its place. -/
structure VerificationError.OfLogin (useSaved : Bool) (e : VerificationError) : Prop where
  kind : ¬ e.About .attestationInvalid
  missing : e = .attestedDataMissing → useSaved = false

theorem VerificationError.About.ofLogin {e : VerificationError} {kind : ErrorKind} {useSaved : Bool}
    (h : e.About kind) (hne : kind ≠ .attestationInvalid) (hne' : kind ≠ .authenticatorDataInvalid) :
    e.OfLogin useSaved where
  kind := h.ne hne
  missing he := absurd (h.symm.trans (congrArg VerificationError.kind he)) hne'

/-- A key is refused as malformed or as of an unsupported kind. -/
theorem VerificationError.key_not_about_attestation (cause : KeyError) :
    ¬ (VerificationError.key cause).About .attestationInvalid := by
  cases cause <;> simp [About, kind]

namespace AssertionRequest

variable {request : AssertionRequest} {challenge : Bytes} {credential : Credential} {party : Party}
  {policy : Policy}

theorem parts_refusedOnly (request : AssertionRequest) (useSaved : Bool) :
    RefusedOnly request.payload.parts (VerificationError.OfLogin useSaved) :=
  request.payload.parts_malformed.mono fun _ he => he.ofLogin (by decide) (by decide)

/-- No check of a login but that of the credential's identifier refuses it as a registration. -/
theorem outcome_refusedOnly {check : LoginCheck} (h : check ≠ .credentialId) :
    RefusedOnly (request.outcome challenge credential party policy check)
      (VerificationError.OfLogin request.useSavedAttestedData) := by
  have parts := request.parts_refusedOnly request.useSavedAttestedData
  have parse (ad : Bytes) : RefusedOnly (AuthenticatorData.parse ad request.useSavedAttestedData)
      (VerificationError.OfLogin request.useSavedAttestedData) := by
    refine (AuthenticatorData.parse_refusedOnly _ _).mono fun e he => ?_
    rcases he with he | ⟨rfl, hneeded⟩
    · exact he.ofLogin (by decide) (by decide)
    · exact ⟨nofun, fun _ => hneeded⟩
  cases check with
  | credentialId => exact absurd rfl h
  | payload => exact parts.bind fun _ => refusedOnly_ok _
  | clientData =>
    refine RefusedOnly.bind ?_ fun clientData => ?_
    · exact (ClientData.ofJson_refusedOnly _).mono fun _ he => he.ofLogin (by decide) (by decide)
    · exact (clientData.check_refusedOnly _ _ _).mono fun _ he => he.ofLogin (by decide) (by decide)
  | authData => exact parts.bind fun _ => (parse _).bind fun _ => refusedOnly_ok _
  | party => exact parts.bind fun _ => refusedOnly_ensure fun _ => ⟨nofun, nofun⟩
  | userPresence => exact parts.bind fun _ => refusedOnly_ensure fun _ => ⟨nofun, nofun⟩
  | userVerification => exact parts.bind fun _ => refusedOnly_ensure fun _ => ⟨nofun, nofun⟩
  | counter => exact parts.bind fun _ => refusedOnly_ensure fun _ => ⟨nofun, nofun⟩
  | attestedData =>
    refine parts.bind fun _ => (parse _).bind fun _ => refusedOnly_ensure fun hfails => ⟨nofun, ?_⟩
    intro _
    exact Bool.eq_false_iff.mpr fun hsaved => hfails (.inr (.inl hsaved))
  | signature =>
    refine parts.bind fun _ => RefusedOnly.bind ?_ fun _ => ?_
    · exact refusedOnly_mapError fun cause => ⟨VerificationError.key_not_about_attestation cause, nofun⟩
    · exact refusedOnly_ensure fun _ => ⟨nofun, nofun⟩

/-- A login with the credential that was found is refused only for what logins are about. -/
theorem verify_refusedOnly (h : request.credentialId = credential.rawId) :
    RefusedOnly (request.verify challenge credential party policy)
      (VerificationError.OfLogin request.useSavedAttestedData) := by
  rw [verify_eq]
  refine (refusedOnly_forM fun check _ => ?_).bind fun _ => ?_
  · by_cases hcheck : check = .credentialId
    · rw [hcheck, outcome, ensure_of h]
      exact refusedOnly_ok ()
    · exact outcome_refusedOnly hcheck
  · exact (request.parts_refusedOnly _).bind fun _ => refusedOnly_ok _

theorem verify_eq_credentialIdMismatch_iff :
    request.verify challenge credential party policy = .error .credentialIdMismatch ↔
      request.credentialId ≠ credential.rawId := by
  constructor
  · intro h hid
    exact (verify_refusedOnly hid _ h).kind rfl
  · intro h
    exact if_pos h

end AssertionRequest

end RelyingParty
