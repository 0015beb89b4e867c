import RelyingParty.Proofs.Registration.Verification

namespace RelyingParty.RegistrationRequest

variable {request : RegistrationRequest} {challenge : Bytes} {party : Party}
  {settings : RegistrationSettings} {now : UInt64} {credential : Credential}
  {format : AttestationFormat} {ad : Bytes} {attested : AttestedCredential} {entries : Cbor.Entries}

theorem Accepted.decode_key
    (h : request.Accepted challenge party settings format ad attested entries) :
    ∃ item, Cbor.decode attested.publicKey = .ok item := by
  obtain ⟨data, hparse, hattested⟩ := h.authData
  obtain ⟨_, hdata⟩ := AuthenticatorData.wellFormed_of_parse hparse
  exact (hdata.attested.wellFormed hattested).key

/-- A key of an app is a point that was read, any other key is one CBOR item, and that of a credential
which signs its own statement was read from it. -/
theorem key_of_registration (h : request.verify challenge party settings now = .ok credential) :
    (credential.attestationType = .appleAppAttest →
      ∃ key, PublicKey.ofRawPoint credential.publicKey = .ok key) ∧
    (credential.attestationType ≠ .appleAppAttest →
      ∃ item, Cbor.decode credential.publicKey = .ok item) ∧
    ∀ object, Attestation.Object.ofCbor request.attestationObject = .ok object →
      object.format = .packed → object.entries.getText? "x5c" = none →
      ∃ key, PublicKey.ofCose credential.publicKey = .ok key := by
  obtain ⟨format, ad, attested, entries, haccepted, hissues⟩ := accepted_of_verify h
  obtain ⟨contribution, hstatement⟩ := haccepted.statement
  obtain ⟨data, _, _, hobject⟩ := haccepted.object_eq
  have htype := hissues.attestationType
  have hstores := hissues.stores
  refine ⟨?_, ?_, ?_⟩
  · intro happ
    cases format with
    | none => cases htype.symm.trans happ
    | packed => cases htype.symm.trans happ
    | appleAppAttest =>
      obtain ⟨leaf, bs, hleaf, _, hkey, _⟩ :=
        Attestation.AppleAppAttest.contribution_of_check hstatement
      obtain ⟨other, _, hother, _, hstored, _⟩ := hstores
      obtain rfl := Option.some.inj (hleaf.symm.trans hother)
      exact hstored ▸ hkey
  · intro hother
    cases format with
    | none => exact hstores.1 ▸ haccepted.decode_key
    | packed => exact hstores.1 ▸ haccepted.decode_key
    | appleAppAttest => exact absurd htype hother
  · intro object hread hformat hchain
    obtain rfl := Except.ok.inj (hobject.symm.trans hread)
    obtain rfl := hformat
    exact hstores.1 ▸ Attestation.Packed.key_of_check hstatement hchain

def sampleKeyless : RegistrationRequest where
  clientData := Bytes.ofText "\x7b\"type\":\"webauthn.create\",\"challenge\":\"AQ\",\"origin\":\"b\"\x7d"
  attestationObject :=
    [0xa3, 0x63, 0x66, 0x6d, 0x74, 0x64, 0x6e, 0x6f, 0x6e, 0x65, 0x67, 0x61, 0x74, 0x74, 0x53, 0x74,
      0x6d, 0x74, 0xa0, 0x68, 0x61, 0x75, 0x74, 0x68, 0x44, 0x61, 0x74, 0x61, 0x58, 57]
      ++ (idHash "a").bytes ++ [0x40, 0, 0, 0, 0] ++ List.replicate 16 0 ++ [0, 1, 9, 0xa0]
  signedClientData := none
  credentialId := none
  sessionId := "session"

def sampleParty : Party := ⟨"a", "b", none⟩

def sampleSettings : RegistrationSettings where
  environment := .production
  time := 0
  policy := ⟨false, false, .allowEqual⟩

theorem verify_sampleKeyless : sampleKeyless.verify [1] sampleParty sampleSettings 5 =
    .ok ⟨[9], [0xa0], .none, ⟨List.replicate 16 0, rfl⟩, 0, false, none, "session", 5, 5⟩ := by
  decide +kernel

theorem key_of_registration_sample :
    ∃ credential, sampleKeyless.verify [1] sampleParty sampleSettings 5 = .ok credential ∧
      credential.attestationType ≠ .appleAppAttest ∧
      ∃ item, Cbor.decode credential.publicKey = .ok item := by
  have hother : AttestationType.none ≠ .appleAppAttest := by decide
  obtain ⟨_, hitem, _⟩ := key_of_registration verify_sampleKeyless
  exact ⟨_, verify_sampleKeyless, hother, hitem hother⟩

/-- A credential may be registered with a key that no login can read. -/
theorem registered_key_unreadable :
    ¬ ∀ (request : RegistrationRequest) (challenge : Bytes) (party : Party)
      (settings : RegistrationSettings) (now : UInt64) (credential : Credential),
      request.verify challenge party settings now = .ok credential →
      (credential.attestationType = .appleAppAttest →
        ∃ key, PublicKey.ofRawPoint credential.publicKey = .ok key) ∧
      (credential.attestationType ≠ .appleAppAttest →
        ∃ key, PublicKey.ofCose credential.publicKey = .ok key) := by
  intro h
  have hother : AttestationType.none ≠ .appleAppAttest := by decide
  have hunread : PublicKey.ofCose [0xa0] = .error (.missingParameter 1) := by rfl
  obtain ⟨key, hkey⟩ := (h sampleKeyless [1] sampleParty sampleSettings 5 _ verify_sampleKeyless).2 hother
  cases hunread.symm.trans hkey

end RelyingParty.RegistrationRequest
