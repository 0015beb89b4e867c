import RelyingParty.Proofs.Attestation.Statement
import RelyingParty.Proofs.Authenticator.Expectation

namespace RelyingParty

open AuthenticatorData (flagsAt counterAt)
open Attestation (Stores checkStatement)

namespace RegistrationRequest

variable (request : RegistrationRequest) (challenge : Bytes) (party : Party)
  (settings : RegistrationSettings)

def statement (ad : Bytes) (attested : AttestedCredential) (entries : Cbor.Entries) :
    Attestation.Statement where
  rawAuthData := ad
  signCounter := counterAt ad
  attested := attested
  clientDataHash := sha256 (request.signedClientData.getD request.clientData)
  entries := entries

/-- Everything that is asked of a registration whose attestation object has these parts. -/
structure Accepted (format : AttestationFormat) (ad : Bytes) (attested : AttestedCredential)
    (entries : Cbor.Entries) : Prop where
  clientData : ∃ clientData, ClientData.ofJson request.clientData = .ok clientData ∧
    clientData.check challenge .create party.origin = .ok ()
  object : ∃ members, Cbor.decodeMap request.attestationObject = .ok members ∧
    (members.getText? "fmt").bind Cbor.Item.text? = some format.name ∧
    (members.getText? "authData").bind Cbor.Item.bytes? = some ad ∧
    (members.getText? "attStmt").bind Cbor.Item.map? = some entries
  authData : ∃ data, AuthenticatorData.parse ad false = .ok data ∧ data.attested = some attested
  party : ad.take 32 = (sha256 (Bytes.ofText party.id)).bytes
  userPresence : settings.policy.requireUserPresence = true → (flagsAt ad).userPresent = true
  userVerification : settings.policy.requireUserVerification = true → (flagsAt ad).userVerified = true
  claimedId : ∀ id, request.credentialId = some id → id = attested.credentialId
  statement : ∃ contribution,
    checkStatement settings format (request.statement ad attested entries) = .ok contribution

structure Issues (format : AttestationFormat) (ad : Bytes) (attested : AttestedCredential)
    (entries : Cbor.Entries) (now : UInt64) (credential : Credential) : Prop where
  rawId : credential.rawId = attested.credentialId
  aaguid : credential.aaguid = attested.aaguid
  signCounter : credential.signCounter = counterAt ad
  sessionId : credential.sessionId = request.sessionId
  attestationType : credential.attestationType = format.type
  cloneWarning : credential.cloneWarning = false
  createdAt : credential.createdAt = now
  updatedAt : credential.updatedAt = now
  stores : Stores format (request.statement ad attested entries) credential.publicKey credential.receipt

variable {request challenge party settings} {now : UInt64} {credential : Credential}

/-- The counter is not asked for, since it may start anywhere. -/
theorem check_data_eq_ok {ad : Bytes} {data checked : AuthenticatorData}
    (h : AuthenticatorData.parse ad false = .ok data) (hattested : data.attested.isSome = true) :
    data.check (expectation party settings.policy) none = .ok checked ↔
      ad.take 32 = (sha256 (Bytes.ofText party.id)).bytes ∧
      (settings.policy.requireUserPresence = true → (flagsAt ad).userPresent = true) ∧
      (settings.policy.requireUserVerification = true → (flagsAt ad).userVerified = true) ∧
      data = checked := by
  obtain ⟨hhash, hflags, _⟩ := AuthenticatorData.parse_fixed h
  have hparty : (expectation party settings.policy).acceptsHash data.rpIdHash = true ↔
      ad.take 32 = (sha256 (Bytes.ofText party.id)).bytes := by
    rw [← eq_idHash_iff hhash, Expectation.acceptsHash, expectation, Option.any_none, Bool.or_false]
    exact decide_eq_true_iff
  have hcounter := settings.policy.counter.accepts_zero data.signCounter
  rw [AuthenticatorData.check_eq_ok, hparty, ← hflags]
  simp only [expectation, hcounter, hattested, Option.or_none, true_or, true_and]

def issued (request : RegistrationRequest) (format : AttestationFormat) (ad : Bytes)
    (attested : AttestedCredential) (now : UInt64) (contribution : Attestation.Contribution) :
    Credential :=
  { Credential.ofAttested attested (counterAt ad) request.sessionId now with
    attestationType := format.type
    receipt := contribution.receipt
    publicKey := contribution.publicKey.getD attested.publicKey }

theorem issues_iff {contribution : Attestation.Contribution} {format : AttestationFormat} {ad : Bytes}
    {attested : AttestedCredential} {entries : Cbor.Entries}
    (h : checkStatement settings format (request.statement ad attested entries) = .ok contribution) :
    request.Issues format ad attested entries now credential ↔
      request.issued format ad attested now contribution = credential := by
  constructor
  · intro hissues
    obtain ⟨hkey, hreceipt⟩ := (Attestation.stores_iff h).mp hissues.stores
    cases credential
    simp only [issued, Credential.ofAttested, Credential.mk.injEq]
    exact ⟨hissues.rawId.symm, hkey.symm, hissues.attestationType.symm, hissues.aaguid.symm,
      hissues.signCounter.symm, hissues.cloneWarning.symm, hreceipt.symm, hissues.sessionId.symm,
      hissues.createdAt.symm, hissues.updatedAt.symm⟩
  · rintro rfl
    exact ⟨rfl, rfl, rfl, rfl, rfl, rfl, rfl, rfl, (Attestation.stores_iff h).mpr ⟨rfl, rfl⟩⟩

theorem claims_other {attested : AttestedCredential} :
    request.credentialId.any (· ≠ attested.credentialId) = true ↔
      ¬ ∀ id, request.credentialId = some id → id = attested.credentialId := by
  cases request.credentialId <;> simp

theorem accepted_of_verify (h : request.verify challenge party settings now = .ok credential) :
    ∃ format ad attested entries,
      request.Accepted challenge party settings format ad attested entries ∧
      request.Issues format ad attested entries now credential := by
  unfold verify at h
  obtain ⟨clientData, hjson, h⟩ := bind_eq_ok.mp h
  obtain ⟨_, hcheck, h⟩ := bind_eq_ok.mp h
  obtain ⟨object, hobject, h⟩ := bind_eq_ok.mp h
  obtain ⟨checked, hchecked, h⟩ := bind_eq_ok.mp h
  obtain ⟨members, hmembers, hformat, had, hentries, hparse, hsome⟩ :=
    Attestation.Object.ofCbor_eq_ok.mp hobject
  obtain ⟨hparty, hpresence, hverification, rfl⟩ := (check_data_eq_ok hparse hsome).mp hchecked
  obtain ⟨_, _, hcounter⟩ := AuthenticatorData.parse_fixed hparse
  obtain ⟨attested, hattested⟩ := Option.isSome_iff_exists.mp hsome
  -- the credential that the data attests is the one that the object was read with
  simp only [hattested, hcounter] at h
  split at h
  next => cases h
  next hclaimed =>
    obtain ⟨contribution, hcontribution, h⟩ := bind_eq_ok.mp h
    refine ⟨object.format, object.rawAuthData, attested, object.entries, ?_,
      (issues_iff hcontribution).mpr (Except.ok.inj h)⟩
    exact {
      clientData := ⟨clientData, hjson, hcheck⟩
      object := ⟨members, hmembers, hformat, had, hentries⟩
      authData := ⟨object.authData, hparse, hattested⟩
      party := hparty
      userPresence := hpresence
      userVerification := hverification
      claimedId := not_not.mp (mt claims_other.mpr hclaimed)
      statement := ⟨contribution, hcontribution⟩ }

theorem Accepted.object_eq {format : AttestationFormat} {ad : Bytes} {attested : AttestedCredential}
    {entries : Cbor.Entries}
    (h : request.Accepted challenge party settings format ad attested entries) :
    ∃ data, AuthenticatorData.parse ad false = .ok data ∧ data.attested = some attested ∧
      Attestation.Object.ofCbor request.attestationObject = .ok ⟨format, ad, data, entries⟩ := by
  obtain ⟨members, hmembers, hformat, had, hentries⟩ := h.object
  obtain ⟨data, hparse, hattested⟩ := h.authData
  have hsome : data.attested.isSome = true := by rw [hattested]; rfl
  exact ⟨data, hparse, hattested, Attestation.Object.ofCbor_eq_ok.mpr
    ⟨members, hmembers, hformat, had, hentries, hparse, hsome⟩⟩

theorem verify_of_accepted {format : AttestationFormat} {ad : Bytes} {attested : AttestedCredential}
    {entries : Cbor.Entries}
    (h : request.Accepted challenge party settings format ad attested entries)
    (hissues : request.Issues format ad attested entries now credential) :
    request.verify challenge party settings now = .ok credential := by
  obtain ⟨clientData, hjson, hcheck⟩ := h.clientData
  obtain ⟨data, hparse, hattested, hobject⟩ := h.object_eq
  obtain ⟨contribution, hcontribution⟩ := h.statement
  have hsome : data.attested.isSome = true := by rw [hattested]; rfl
  obtain ⟨_, _, hcounter⟩ := AuthenticatorData.parse_fixed hparse
  have hchecked := (check_data_eq_ok hparse hsome).mpr
    ⟨h.party, h.userPresence, h.userVerification, rfl⟩
  have hclaimed := mt claims_other.mp (not_not.mpr h.claimedId)
  unfold verify
  simp only [hjson, hcheck, hobject, hchecked, hattested, hcounter, ok_bind, if_neg hclaimed]
  exact bind_eq_ok.mpr ⟨contribution, hcontribution,
    congrArg Except.ok ((issues_iff hcontribution).mp hissues)⟩

end RegistrationRequest

end RelyingParty
