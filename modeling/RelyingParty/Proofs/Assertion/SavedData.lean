import RelyingParty.Proofs.Assertion.ErrorKinds

namespace RelyingParty

open AuthenticatorData (flagsAt)

namespace AuthenticatorData

variable {raw : Bytes} {data : AuthenticatorData}

/-- The bytes announce an attested credential and hold no more than its model and the length of its
identifier. -/
structure LacksAttested (raw : Bytes) : Prop where
  announced : (flagsAt raw).attestedData = true
  fixed : 37 ≤ raw.length
  short : raw.length ≤ 55

theorem readAttested_agrees (flags : Flags) (bs : Bytes) :
    AgreesUnless
      (fun e => e = .attestedDataMissing ∧ flags.attestedData = true ∧
        bs.length ≤ AttestedCredential.minLength)
      (readAttested flags false bs) (readAttested flags true bs) := by
  unfold readAttested
  split
  next hflag =>
    split
    next => exact agreesUnless_refl _
    next hshort => exact .inr ⟨.attestedDataMissing, rfl, rfl, hflag, Nat.le_of_not_lt hshort⟩
  next => exact agreesUnless_refl _

/-- Reading with the attested credential data left out differs only where it is missing. -/
theorem parse_agrees (raw : Bytes) :
    AgreesUnless (fun e => e = .attestedDataMissing ∧ LacksAttested raw) (parse raw false)
      (parse raw true) := by
  unfold parse
  split
  next rpIdHash bits a b c d rest hfixed =>
    obtain rfl := FixedBytes.split?_eq_some.mp hfixed
    have hhash := rpIdHash.length_eq
    have hflags : flagsAt (rpIdHash.bytes ++ bits :: a :: b :: c :: d :: rest) = ⟨bits⟩ := by
      simp [flagsAt, List.getD, hhash]
    have hread := readAttested_agrees ⟨bits⟩ rest
    refine (hread.mono ?_).bind fun _ _ => agreesUnless_refl _
    rintro e ⟨he, hflag, hshort⟩
    have hlength : (rpIdHash.bytes ++ bits :: a :: b :: c :: d :: rest).length = 37 + rest.length := by
      simp only [List.length_append, List.length_cons, hhash]
      omega
    rw [AttestedCredential.minLength] at hshort
    exact ⟨he, hflags.symm ▸ hflag, by omega, by omega⟩
  next => exact agreesUnless_refl _

theorem attested_of_parse (h : parse raw false = .ok data) :
    data.attested.isSome = true ∨ (flagsAt raw).attestedData = false := by
  have hattested := (wellFormed_of_parse h).2.attested
  rw [← (parse_fixed h).2.1]
  unfold AttestedAs at hattested
  split at hattested
  next =>
    obtain ⟨credential, hsome, _⟩ | ⟨hmissing, _⟩ := hattested
    · exact .inl (by rw [hsome]; rfl)
    · cases hmissing
  next hflag => exact .inr (by simpa using hflag)

end AuthenticatorData

namespace AssertionRequest

def usingSaved (request : AssertionRequest) (useSaved : Bool) : AssertionRequest :=
  { request with useSavedAttestedData := useSaved }

def LacksAttested (request : AssertionRequest) : Prop :=
  ∃ ad signature, request.payload.parts = .ok (ad, signature) ∧ AuthenticatorData.LacksAttested ad

variable (request : AssertionRequest) (challenge : Bytes) (credential : Credential) (party : Party)
  (policy : Policy)

theorem outcome_agrees (check : LoginCheck) :
    AgreesUnless (fun e => e = .attestedDataMissing ∧ request.LacksAttested)
      ((request.usingSaved false).outcome challenge credential party policy check)
      ((request.usingSaved true).outcome challenge credential party policy check) := by
  have parsed {ad signature : Bytes} (hparts : request.payload.parts = .ok (ad, signature)) :
      AgreesUnless (fun e => e = .attestedDataMissing ∧ request.LacksAttested)
        (AuthenticatorData.parse ad false) (AuthenticatorData.parse ad true) :=
    (AuthenticatorData.parse_agrees ad).mono fun e he => ⟨he.1, ad, signature, hparts, he.2⟩
  cases check with
  | authData =>
    refine (agreesUnless_refl request.payload.parts).bind fun (ad, signature) hparts => ?_
    exact (parsed hparts).bind fun _ _ => agreesUnless_refl _
  | attestedData =>
    refine (agreesUnless_refl request.payload.parts).bind fun (ad, signature) hparts => ?_
    refine (parsed hparts).bind fun data hdata => ?_
    -- without the stored values, the data that was read holds what it announces
    have hheld := AuthenticatorData.attested_of_parse hdata
    rw [ensure_of (hheld.imp_right .inr), ensure_of (.inr (.inl rfl))]
    exact agreesUnless_refl _
  | _ => exact agreesUnless_refl _

theorem verify_agrees :
    AgreesUnless (fun e => e = .attestedDataMissing ∧ request.LacksAttested)
      ((request.usingSaved false).verify challenge credential party policy)
      ((request.usingSaved true).verify challenge credential party policy) := by
  rw [verify_eq, verify_eq]
  have hchecks := agreesUnless_forM fun check (_ : check ∈ LoginCheck.all) =>
    request.outcome_agrees challenge credential party policy check
  exact hchecks.bind fun _ _ => agreesUnless_refl _

/-- With the stored values, no attested credential data is missed. -/
theorem verify_saved_ne_missing {e : VerificationError}
    (h : (request.usingSaved true).verify challenge credential party policy = .error e) :
    e ≠ .attestedDataMissing := by
  rintro rfl
  by_cases hid : request.credentialId = credential.rawId
  · have hfound : (request.usingSaved true).credentialId = credential.rawId := hid
    have hlogin := verify_refusedOnly hfound _ h
    cases hlogin.missing rfl
  · cases h.symm.trans (verify_eq_credentialIdMismatch_iff.mpr hid)

/-- Taking the stored values in place of what an authenticator left out changes nothing but the refusal of
a login for missing attested data, and that only where the data announces an attested credential and is
too short for one. What is accepted without the stored values is accepted with them alike, every other
refusal stays the same, and the data is never missed with them. -/
theorem saved_data_only_repairs_absence :
    let verify (useSaved : Bool) :=
      { request with useSavedAttestedData := useSaved }.verify challenge credential party policy
    (verify true = verify false ∨
      verify false = .error .attestedDataMissing ∧
        ∃ ad signature, request.payload.parts = .ok (ad, signature) ∧
          (flagsAt ad).attestedData = true ∧ 37 ≤ ad.length ∧ ad.length ≤ 55) ∧
    (∀ verified, verify false = .ok verified → verify true = .ok verified) ∧
    (∀ e, verify false = .error e → e ≠ .attestedDataMissing → verify true = .error e) ∧
    ∀ e, verify true = .error e → e ≠ .attestedDataMissing ∧
      (verify false = .error e ∨ verify false = .error .attestedDataMissing) := by
  intro verify
  have hagrees : AgreesUnless (fun e => e = .attestedDataMissing ∧ request.LacksAttested)
      (verify false) (verify true) := request.verify_agrees challenge credential party policy
  refine ⟨?_, fun _ => hagrees.accepts, ?_, ?_⟩
  · rcases hagrees with hsame | ⟨e, he, rfl, ad, signature, hparts, hlacks⟩
    · exact .inl hsame.symm
    · exact .inr ⟨he, ad, signature, hparts, hlacks.announced, hlacks.fixed, hlacks.short⟩
  · intro e he hne
    exact hagrees.refuses he fun hexcused => hne hexcused.1
  · intro e he
    refine ⟨request.verify_saved_ne_missing challenge credential party policy he, ?_⟩
    rcases hagrees with hsame | ⟨_, hmissing, rfl, _⟩
    · exact .inl (hsame.trans he)
    · exact .inr hmissing

end AssertionRequest

end RelyingParty
