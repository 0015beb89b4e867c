import RelyingParty.Assertion
import RelyingParty.Proofs.Authenticator.Expectation

namespace RelyingParty

open AuthenticatorData (flagsAt counterAt)

inductive LoginCheck where
  | credentialId
  | payload
  | clientData
  | authData
  | party
  | userPresence
  | userVerification
  | counter
  | attestedData
  | signature

def LoginCheck.all : List LoginCheck :=
  [credentialId, payload, clientData, authData, party, userPresence, userVerification, counter,
    attestedData, signature]

theorem LoginCheck.mem_all (check : LoginCheck) : check ∈ all := by
  cases check <;> simp [all]

def VerifiedAssertion.ofBytes (ad : Bytes) : VerifiedAssertion :=
  ⟨counterAt ad, (flagsAt ad).userPresent, (flagsAt ad).userVerified⟩

namespace AssertionRequest

variable (request : AssertionRequest) (challenge : Bytes) (credential : Credential) (party : Party)
  (policy : Policy)

/-- The authenticator data is for the party. Credentials of the former kind may use its former
identifier if the client says that it did. -/
def NamesParty (ad : Bytes) : Prop :=
  ad.take 32 = (sha256 (Bytes.ofText party.id)).bytes ∨
    ad.take 32 = (sha256 (Bytes.ofText party.legacyAppId)).bytes ∧
      credential.attestationType = .fidoU2f ∧ request.appIdExtension = true

instance (ad : Bytes) : Decidable (request.NamesParty credential party ad) :=
  inferInstanceAs (Decidable (_ ∨ _))

/-- What is signed: the authenticator data and the digest of the client data, or of what stands in its
place. -/
def message (ad : Bytes) : Bytes :=
  ad ++ (sha256 (request.signedClientData.getD request.clientData)).bytes

/-- The signature is one of the message under the credential's key. The key is a point for apps, which
sign a digest of the message, and for the former kind where the client used the former identifier. -/
def Signs (message signature : Bytes) : Prop :=
  match credential.attestationType, request.appIdExtension with
  | .appleAppAttest, _ => ∃ key, PublicKey.ofRawPoint credential.publicKey = .ok key ∧
      key.verify (sha256 message).bytes signature = .ok true
  | .fidoU2f, true => ∃ key, PublicKey.ofRawPoint credential.publicKey = .ok key ∧
      key.verify message signature = .ok true
  | _, _ => ∃ key, PublicKey.ofCose credential.publicKey = .ok key ∧
      key.verify message signature = .ok true

/-- Everything that is asked of a login with authenticator data `ad`. -/
structure Accepted (ad signature : Bytes) : Prop where
  credentialId : request.credentialId = credential.rawId
  payload : request.payload.parts = .ok (ad, signature)
  clientData : ∃ clientData, ClientData.ofJson request.clientData = .ok clientData ∧
    clientData.check challenge .get party.origin = .ok ()
  party : request.NamesParty credential party ad
  userPresence : policy.requireUserPresence = true → (flagsAt ad).userPresent = true
  userVerification : policy.requireUserVerification = true → (flagsAt ad).userVerified = true
  counter : policy.counter.accepts credential.signCounter (counterAt ad) = true
  authData : ∃ data, AuthenticatorData.parse ad request.useSavedAttestedData = .ok data ∧
    (data.attested.isSome = true ∨ request.useSavedAttestedData = true ∨
      (flagsAt ad).attestedData = false)
  signature : request.Signs credential (request.message ad) signature

def outcome : LoginCheck → Except VerificationError Unit
  | .credentialId => ensure (request.credentialId = credential.rawId) .credentialIdMismatch
  | .payload => do
    let _ ← request.payload.parts
    .ok ()
  | .clientData => do
    let clientData ← ClientData.ofJson request.clientData
    clientData.check challenge .get party.origin
  | .authData => do
    let (ad, _) ← request.payload.parts
    let _ ← AuthenticatorData.parse ad request.useSavedAttestedData
    .ok ()
  | .party => do
    let (ad, _) ← request.payload.parts
    ensure (request.NamesParty credential party ad) .rpIdMismatch
  | .userPresence => do
    let (ad, _) ← request.payload.parts
    ensure (policy.requireUserPresence = true → (flagsAt ad).userPresent = true) .userPresenceRequired
  | .userVerification => do
    let (ad, _) ← request.payload.parts
    ensure (policy.requireUserVerification = true → (flagsAt ad).userVerified = true)
      .userVerificationRequired
  | .counter => do
    let (ad, _) ← request.payload.parts
    ensure (policy.counter.accepts credential.signCounter (counterAt ad) = true)
      (.counterRegression credential.signCounter (counterAt ad))
  | .attestedData => do
    let (ad, _) ← request.payload.parts
    let data ← AuthenticatorData.parse ad request.useSavedAttestedData
    ensure (data.attested.isSome = true ∨ request.useSavedAttestedData = true ∨
      (flagsAt ad).attestedData = false) .attestedDataMissing
  | .signature => do
    let (ad, signature) ← request.payload.parts
    let isSigned ← (request.isSigned credential (request.message ad) signature).mapError .key
    ensure (isSigned = true) .signatureInvalid

variable {request challenge credential party policy} {ad signature : Bytes}

theorem isSigned_eq_true {message : Bytes} :
    request.isSigned credential message signature = .ok true ↔
      request.Signs credential message signature := by
  unfold isSigned isSignedUsing Signs keyForm signedMessage
  rw [bind_eq_ok]
  cases credential.attestationType with
  | appleAppAttest => simp [KeyForm.read]
  | fidoU2f => cases request.appIdExtension <;> simp [KeyForm.read]
  | none => simp [KeyForm.read]
  | packed => simp [KeyForm.read]

theorem acceptsHash_iff {data : AuthenticatorData} (h : data.rpIdHash.bytes = ad.take 32) :
    (request.expectation credential party policy).acceptsHash data.rpIdHash = true ↔
      request.NamesParty credential party ad := by
  have hid := eq_idHash_iff h
  unfold Expectation.acceptsHash NamesParty expectation appId?
  by_cases hformer : credential.attestationType = .fidoU2f ∧ request.appIdExtension = true
  · simp [hid, hformer]
  · simp [hid, hformer]

/-- The check of the data that a login sent, as one of its bytes. -/
theorem check_data_eq {data : AuthenticatorData}
    (h : AuthenticatorData.parse ad request.useSavedAttestedData = .ok data) :
    data.check (request.expectation credential party policy) (request.injected credential) = (do
      ensure (request.NamesParty credential party ad) .rpIdMismatch
      ensure (policy.requireUserPresence = true → (flagsAt ad).userPresent = true)
        .userPresenceRequired
      ensure (policy.requireUserVerification = true → (flagsAt ad).userVerified = true)
        .userVerificationRequired
      ensure (policy.counter.accepts credential.signCounter (counterAt ad) = true)
        (.counterRegression credential.signCounter (counterAt ad))
      ensure (data.attested.isSome = true ∨ request.useSavedAttestedData = true ∨
        (flagsAt ad).attestedData = false) .attestedDataMissing
      .ok { data with attested := data.attested.or (request.injected credential) }) := by
  obtain ⟨hhash, hflags, hcounter⟩ := AuthenticatorData.parse_fixed h
  have hinjected : (request.injected credential).isSome = true ↔
      request.useSavedAttestedData = true := by simp [injected]
  rw [AuthenticatorData.check_eq, ensure_congr (acceptsHash_iff hhash)]
  simp only [hinjected, hflags, hcounter]
  rfl

theorem verify_eq : request.verify challenge credential party policy = (do
    LoginCheck.all.forM (request.outcome challenge credential party policy)
    let (ad, _) ← request.payload.parts
    .ok (.ofBytes ad)) := by
  unfold verify verifyUsing LoginCheck.all
  rw [refuse_eq_ensure (q := request.credentialId = credential.rawId) (by simp)]
  simp only [forM_cons, outcome, bind_assoc]
  congr 1
  funext _
  -- a stage that fails ends both sides, so what is left has the parts of every stage before it
  cases request.payload.parts with
  | error e => rfl
  | ok parts =>
    obtain ⟨ad, signature⟩ := parts
    simp only [ok_bind]
    cases ClientData.ofJson request.clientData with
    | error e => rfl
    | ok clientData =>
      simp only [ok_bind]
      congr 1
      funext _
      cases hparse : AuthenticatorData.parse ad request.useSavedAttestedData with
      | error e => rfl
      | ok data =>
        obtain ⟨_, hflags, hcounter⟩ := AuthenticatorData.parse_fixed hparse
        simp only [ok_bind, check_data_eq hparse, bind_assoc, hflags, hcounter]
        -- the five checks of the data are the same on both sides
        iterate 5 (congr 1; funext _)
        congr 1
        funext isSigned
        cases isSigned <;> rfl

theorem accepted_iff : request.Accepted challenge credential party policy ad signature ↔
    request.payload.parts = .ok (ad, signature) ∧
      ∀ check, request.outcome challenge credential party policy check = .ok () := by
  constructor
  · intro h
    have hparts := h.payload
    obtain ⟨clientData, hjson, hcheck⟩ := h.clientData
    obtain ⟨data, hparse, hattested⟩ := h.authData
    have hsigned := mapError_eq_ok (f := VerificationError.key).mpr (isSigned_eq_true.mpr h.signature)
    refine ⟨hparts, ?_⟩
    intro check
    cases check with
    | credentialId => exact ensure_of h.credentialId _
    | payload => simp only [outcome, hparts, ok_bind]
    | clientData => simp only [outcome, hjson, hcheck, ok_bind]
    | authData => simp only [outcome, hparts, hparse, ok_bind]
    | party => simp only [outcome, hparts, ok_bind, ensure_of h.party]
    | userPresence => simp only [outcome, hparts, ok_bind, ensure_of h.userPresence]
    | userVerification => simp only [outcome, hparts, ok_bind, ensure_of h.userVerification]
    | counter => simp only [outcome, hparts, ok_bind, ensure_of h.counter]
    | attestedData => simp only [outcome, hparts, hparse, ok_bind, ensure_of hattested]
    | signature => simp only [outcome, hparts, hsigned, ok_bind, ensure_of]
  · rintro ⟨hparts, h⟩
    have hattested := h .attestedData
    have hsigned := h .signature
    simp only [outcome, hparts, ok_bind] at hattested hsigned
    obtain ⟨clientData, hjson, hcheck⟩ := bind_eq_ok.mp (h .clientData)
    obtain ⟨data, hparse, hattested⟩ := bind_eq_ok.mp hattested
    obtain ⟨isSigned, hverified, htrue⟩ := bind_eq_ok.mp hsigned
    obtain rfl := ensure_eq_ok.mp htrue
    exact {
      credentialId := ensure_eq_ok.mp (h .credentialId)
      payload := hparts
      clientData := ⟨clientData, hjson, hcheck⟩
      party := by simpa only [outcome, hparts, ok_bind, ensure_eq_ok] using h .party
      userPresence := by simpa only [outcome, hparts, ok_bind, ensure_eq_ok] using h .userPresence
      userVerification := by
        simpa only [outcome, hparts, ok_bind, ensure_eq_ok] using h .userVerification
      counter := by simpa only [outcome, hparts, ok_bind, ensure_eq_ok] using h .counter
      authData := ⟨data, hparse, ensure_eq_ok.mp hattested⟩
      signature := isSigned_eq_true.mp (mapError_eq_ok.mp hverified) }

theorem verify_of_accepted (h : request.Accepted challenge credential party policy ad signature) :
    request.verify challenge credential party policy = .ok (.ofBytes ad) := by
  obtain ⟨hparts, hall⟩ := accepted_iff.mp h
  rw [verify_eq, forM_eq_ok.mpr fun check _ => hall check, hparts]
  rfl

theorem counter_of_verify {verified : VerifiedAssertion}
    (h : request.verify challenge credential party policy = .ok verified) :
    policy.counter.accepts credential.signCounter verified.signCounter = true := by
  rw [verify_eq] at h
  obtain ⟨_, hchecks, h⟩ := bind_eq_ok.mp h
  obtain ⟨⟨ad, signature⟩, hparts, hverified⟩ := bind_eq_ok.mp h
  have hcounter := forM_eq_ok.mp hchecks .counter (LoginCheck.mem_all _)
  simp only [outcome, hparts, ok_bind, ensure_eq_ok] at hcounter
  obtain rfl := Except.ok.inj hverified
  exact hcounter

/-- A login is accepted with what its authenticator data tells exactly if it meets everything that is
asked of it; otherwise the first check that it fails says why. -/
theorem verify_accepts_or_first_fault :
    (∀ verified, request.verify challenge credential party policy = .ok verified ↔
      ∃ ad signature, request.Accepted challenge credential party policy ad signature ∧
        verified = .ofBytes ad) ∧
    ∀ e, request.verify challenge credential party policy = .error e ↔
      FirstFault (request.outcome challenge credential party policy) LoginCheck.all e := by
  rw [verify_eq]
  constructor
  · intro verified
    constructor
    · intro h
      obtain ⟨_, hchecks, h⟩ := bind_eq_ok.mp h
      obtain ⟨⟨ad, signature⟩, hparts, hverified⟩ := bind_eq_ok.mp h
      have hall (check : LoginCheck) := forM_eq_ok.mp hchecks check check.mem_all
      exact ⟨ad, signature, accepted_iff.mpr ⟨hparts, hall⟩, (Except.ok.inj hverified).symm⟩
    · rintro ⟨ad, signature, h, rfl⟩
      obtain ⟨hparts, hall⟩ := accepted_iff.mp h
      rw [forM_eq_ok.mpr fun check _ => hall check, hparts]
      rfl
  · intro e
    rw [← forM_eq_error, bind_eq_error]
    constructor
    · rintro (h | ⟨_, hchecks, h⟩)
      · exact h
      · have hparts := forM_eq_ok.mp hchecks .payload (LoginCheck.mem_all _)
        obtain ⟨parts, hparts, _⟩ := bind_eq_ok.mp hparts
        rw [hparts] at h
        cases h
    · intro h
      exact .inl h

end AssertionRequest

end RelyingParty
