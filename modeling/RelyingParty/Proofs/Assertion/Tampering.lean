import RelyingParty.Proofs.Assertion.Verification
import RelyingParty.Proofs.Key.Cose
import RelyingParty.Proofs.Service.UninterruptedLogin

namespace RelyingParty

/-- A check of signatures under keys that are fit for use. -/
abbrev SignatureCheck := (message signature : Bytes) → Verifier → Bool

def PublicKey.verifyBy (accepts : SignatureCheck) (key : PublicKey) (message signature : Bytes) :
    Except KeyError Bool := do
  let verifier ← key.verifier
  .ok (accepts message signature verifier)

/-- The check accepts the one message with the one signature under the key, and nothing else. -/
def PublicKey.SignsOnly (accepts : SignatureCheck) (key : PublicKey) (message signature : Bytes) : Prop :=
  ∀ m s, key.verifyBy accepts m s = .ok true ↔ m = message ∧ s = signature

/-- The stored bytes of a credential are the key, in one of the forms that keys are stored in. -/
def Credential.HasKey (credential : Credential) (key : PublicKey) : Prop :=
  ∃ form : AssertionRequest.KeyForm, form.read credential.publicKey = .ok key

/-- Bytes are a key in one form only. -/
theorem AssertionRequest.KeyForm.eq_of_read {form form' : KeyForm} {bs : Bytes} {key key' : PublicKey}
    (h : form.read bs = .ok key) (h' : form'.read bs = .ok key') : form = form' := by
  cases form <;> cases form'
  case cose.cose => rfl
  case rawPoint.rawPoint => rfl
  case cose.rawPoint => exact absurd h (PublicKey.ofCose_ne_ok_of_ofRawPoint h' key)
  case rawPoint.cose => exact absurd h' (PublicKey.ofCose_ne_ok_of_ofRawPoint h key')

/-- The same bytes are not one key as a map and another as a point. -/
theorem Credential.HasKey.unique {credential : Credential} {key other : PublicKey}
    (h : credential.HasKey key) (hother : credential.HasKey other) : key = other := by
  obtain ⟨form, h⟩ := h
  obtain ⟨form', hother⟩ := hother
  obtain rfl := AssertionRequest.KeyForm.eq_of_read h hother
  exact Except.ok.inj (h.symm.trans hother)

/-- SHA-256 tells the inputs apart. -/
def Separates (inputs : List Bytes) : Prop :=
  ∀ x ∈ inputs, ∀ y ∈ inputs, sha256 x = sha256 y → x = y

instance (inputs : List Bytes) : Decidable (Separates inputs) :=
  inferInstanceAs (Decidable (∀ x ∈ inputs, ∀ y ∈ inputs, sha256 x = sha256 y → x = y))

namespace AssertionRequest

/-- What an assertion tells, if it passes every check, with the given check of signatures. -/
def verifyBy (accepts : SignatureCheck) (request : AssertionRequest) (challenge : Bytes)
    (credential : Credential) (party : Party) (policy : Policy) :
    Except VerificationError VerifiedAssertion :=
  request.verifyUsing (PublicKey.verifyBy accepts) challenge credential party policy

theorem verifyBy_accepts : verifyBy Verifier.accepts = verify := rfl

/-- The bytes whose digest is signed: the client data, or what stands in its place. -/
def signedPart (request : AssertionRequest) : Bytes := request.signedClientData.getD request.clientData

/-- What is hashed for the signature of a login. Only apps sign a digest of the message itself. -/
def hashed (request : AssertionRequest) (credential : Credential) (ad : Bytes) : List Bytes :=
  if credential.attestationType = .appleAppAttest then [request.signedPart, request.message ad]
  else [request.signedPart]

variable {accepts : SignatureCheck} {request other : AssertionRequest} {challenge : Bytes}
  {credential : Credential} {party : Party} {policy : Policy} {verified : VerifiedAssertion}
  {ad ad' signature signature' : Bytes}

/-- Every way to be accepted ends with the check of the signature. -/
theorem isSigned_of_verifyUsing {check : PublicKey.Check}
    (h : request.verifyUsing check challenge credential party policy = .ok verified) :
    ∃ ad signature, request.payload.parts = .ok (ad, signature) ∧
      request.isSignedUsing check credential (request.message ad) signature = .ok true := by
  unfold verifyUsing at h
  split at h
  next => cases h
  next =>
    obtain ⟨⟨ad, signature⟩, hparts, h⟩ := bind_eq_ok.mp h
    obtain ⟨clientData, _, h⟩ := bind_eq_ok.mp h
    obtain ⟨_, _, h⟩ := bind_eq_ok.mp h
    obtain ⟨parsed, _, h⟩ := bind_eq_ok.mp h
    obtain ⟨authData, _, h⟩ := bind_eq_ok.mp h
    obtain ⟨isSigned, hsigned, h⟩ := bind_eq_ok.mp h
    split at h
    next htrue => exact ⟨ad, signature, hparts, htrue ▸ mapError_eq_ok.mp hsigned⟩
    next => cases h

/-- The key of a credential that logs in is fit for use. -/
theorem key_of_verifyBy (h : request.verifyBy accepts challenge credential party policy = .ok verified) :
    ∃ key verifier, credential.HasKey key ∧ key.verifier = .ok verifier := by
  obtain ⟨_, _, _, hsigned⟩ := isSigned_of_verifyUsing h
  obtain ⟨key, hkey, hsigned⟩ := bind_eq_ok.mp hsigned
  obtain ⟨verifier, hverifier, _⟩ := bind_eq_ok.mp hsigned
  exact ⟨key, verifier, ⟨_, hkey⟩, hverifier⟩

theorem signed_eq {key : PublicKey} {message : Bytes} (hkey : credential.HasKey key)
    (honly : key.SignsOnly accepts message signature') {base : Bytes}
    (h : request.isSignedUsing (PublicKey.verifyBy accepts) credential base signature = .ok true) :
    signedMessage credential base = message ∧ signature = signature' := by
  obtain ⟨read, hread, h⟩ := bind_eq_ok.mp h
  obtain rfl := hkey.unique ⟨_, hread⟩
  exact (honly _ _).mp h

/-- The message is cut at one place only, since digests have one length. -/
theorem message_inj (h : request.message ad = other.message ad') :
    ad = ad' ∧ sha256 request.signedPart = sha256 other.signedPart := by
  have hlength := (sha256 request.signedPart).length_eq.trans (sha256 other.signedPart).length_eq.symm
  obtain ⟨had, hdigest⟩ := List.append_inj' h hlength
  exact ⟨had, (FixedBytes.mk.injEq ..).mpr hdigest⟩

theorem parts_eq_of_signedMessage
    (hseparates : Separates (request.hashed credential ad ++ other.hashed credential ad'))
    (h : signedMessage credential (request.message ad) = signedMessage credential (other.message ad')) :
    ad = ad' ∧ request.signedPart = other.signedPart := by
  have hmessage : request.message ad = other.message ad' := by
    by_cases happ : credential.attestationType = .appleAppAttest
    · rw [signedMessage, signedMessage, if_pos happ, if_pos happ] at h
      refine hseparates _ ?_ _ ?_ ((FixedBytes.mk.injEq ..).mpr h)
      · simp [hashed, happ]
      · simp [hashed, happ]
    · rwa [signedMessage, signedMessage, if_neg happ, if_neg happ] at h
  obtain ⟨had, hdigest⟩ := message_inj hmessage
  have mem_hashed (r : AssertionRequest) (bs : Bytes) : r.signedPart ∈ r.hashed credential bs := by
    unfold hashed
    split <;> simp
  refine ⟨had, hseparates _ ?_ _ ?_ hdigest⟩
  · exact List.mem_append_left _ (mem_hashed request ad)
  · exact List.mem_append_right _ (mem_hashed other ad')

/-- Where one message with one signature verifies under the key of a credential, a login is refused that
has other authenticator data, other signed bytes or another signature than an accepted one, whatever else
it has and is checked against, and wherever the counter stands by then. -/
theorem tampered_login_refused :
    verifyBy Verifier.accepts = verify ∧
    ∀ (accepts : SignatureCheck) (credential : Credential) (key : PublicKey) (message genuine : Bytes),
      credential.HasKey key → key.SignsOnly accepts message genuine →
      ∀ (request : AssertionRequest) (challenge : Bytes) (party : Party) (policy : Policy)
        (verified : VerifiedAssertion) (ad signature : Bytes),
        request.verifyBy accepts challenge credential party policy = .ok verified →
        request.payload.parts = .ok (ad, signature) →
        ∀ (other : AssertionRequest) (challenge' : Bytes) (party' : Party) (policy' : Policy)
          (count : UInt32) (ad' signature' : Bytes),
          other.payload.parts = .ok (ad', signature') →
          Separates (request.hashed credential ad ++ other.hashed credential ad') →
          (ad' ≠ ad ∨ other.signedPart ≠ request.signedPart ∨ signature' ≠ signature) →
          ∃ e, other.verifyBy accepts challenge' { credential with signCounter := count } party' policy' =
            .error e := by
  refine ⟨verifyBy_accepts, ?_⟩
  intro accepts credential key message genuine hkey honly request challenge party policy verified ad
    signature haccepted hparts other challenge' party' policy' count ad' signature' hparts' hseparates hother
  cases hverified : other.verifyBy accepts challenge' { credential with signCounter := count } party'
    policy' with
  | error e => exact ⟨e, rfl⟩
  | ok verified' =>
    -- both logins would end with the one message and its signature
    exfalso
    obtain ⟨_, _, hread, hsigned⟩ := isSigned_of_verifyUsing haccepted
    obtain ⟨rfl, rfl⟩ := Prod.mk.inj (Except.ok.inj (hread.symm.trans hparts))
    obtain ⟨_, _, hread', hsigned'⟩ := isSigned_of_verifyUsing hverified
    obtain ⟨rfl, rfl⟩ := Prod.mk.inj (Except.ok.inj (hread'.symm.trans hparts'))
    have hkey' : ({ credential with signCounter := count } : Credential).HasKey key := hkey
    obtain ⟨hmessage, hsignature⟩ := signed_eq hkey honly hsigned
    obtain ⟨hmessage', hsignature'⟩ := signed_eq hkey' honly hsigned'
    obtain ⟨had, hpart⟩ := parts_eq_of_signedMessage hseparates (hmessage.trans hmessage'.symm)
    rcases hother with h | h | h
    · exact h had.symm
    · exact h hpart.symm
    · exact h (hsignature'.trans hsignature.symm)

def acceptsOnly (message signature : Bytes) : SignatureCheck := fun m s _ => m = message ∧ s = signature

theorem signsOnly_acceptsOnly {key : PublicKey} {verifier : Verifier} (h : key.verifier = .ok verifier)
    (message signature : Bytes) : key.SignsOnly (acceptsOnly message signature) message signature := by
  intro m s
  rw [PublicKey.verifyBy, h]
  simp [acceptsOnly, ok_bind]

open Store (sampleAssertion sampleCounting sampleStrict)

def sampleAuthData (count : Nat) : Bytes := (idHash "a").bytes ++ 0x01 :: Bytes.ofNat 4 count

def samplePoint : Bytes :=
  PublicKey.uncompressed (Bytes.ofNat 32 Curve.Weierstrass.p256.baseX)
    (Bytes.ofNat 32 Curve.Weierstrass.p256.baseY)

def sampleApp : Credential :=
  { sampleCounting with attestationType := .appleAppAttest, publicKey := samplePoint }

def sampleGenuine : AssertionRequest := sampleAssertion "Ag" 6 0

theorem tampered_login_refused_sample :
    let party : Party := ⟨"a", "b", none⟩
    let message := sampleGenuine.message (sampleAuthData 6)
    let accepts := acceptsOnly message (Bytes.ofNat 64 0)
    let acceptsApp := acceptsOnly (sha256 message).bytes (Bytes.ofNat 64 0)
    sampleGenuine.verifyBy accepts [2] sampleCounting party sampleStrict = .ok ⟨6, true, false⟩ ∧
    (∃ e, (sampleAssertion "Ag" 7 0).verifyBy accepts [2] sampleCounting party sampleStrict = .error e) ∧
    sampleGenuine.verifyBy acceptsApp [2] sampleApp party sampleStrict = .ok ⟨6, true, false⟩ ∧
    ∃ e, (sampleAssertion "Ag" 6 1).verifyBy acceptsApp [2] sampleApp party sampleStrict = .error e := by
  intro party message accepts acceptsApp
  have haccepted : sampleGenuine.verifyBy accepts [2] sampleCounting party sampleStrict =
      .ok ⟨6, true, false⟩ := by decide +kernel
  have hacceptedApp : sampleGenuine.verifyBy acceptsApp [2] sampleApp party sampleStrict =
      .ok ⟨6, true, false⟩ := by decide +kernel
  have hparts (count signature : Nat) : (sampleAssertion "Ag" count signature).payload.parts =
    .ok (sampleAuthData count, Bytes.ofNat 64 signature) := rfl
  have hseparates : Separates (sampleGenuine.hashed sampleCounting (sampleAuthData 6) ++
      (sampleAssertion "Ag" 7 0).hashed sampleCounting (sampleAuthData 7)) := by decide +kernel
  have hseparatesApp : Separates (sampleGenuine.hashed sampleApp (sampleAuthData 6) ++
      (sampleAssertion "Ag" 6 1).hashed sampleApp (sampleAuthData 6)) := by decide +kernel
  have hcounter : sampleAuthData 7 ≠ sampleAuthData 6 := by decide +kernel
  have hsignature : Bytes.ofNat 64 1 ≠ Bytes.ofNat 64 0 := by decide
  obtain ⟨key, verifier, hkey, hverifier⟩ := key_of_verifyBy haccepted
  obtain ⟨keyApp, verifierApp, hkeyApp, hverifierApp⟩ := key_of_verifyBy hacceptedApp
  obtain ⟨_, hrefused⟩ := tampered_login_refused
  exact ⟨haccepted,
    hrefused accepts sampleCounting key _ _ hkey (signsOnly_acceptsOnly hverifier _ _)
      sampleGenuine [2] party sampleStrict _ _ _ haccepted (hparts 6 0) _ [2] party sampleStrict 5 _ _
      (hparts 7 0) hseparates (.inl hcounter),
    hacceptedApp,
    hrefused acceptsApp sampleApp keyApp _ _ hkeyApp (signsOnly_acceptsOnly hverifierApp _ _)
      sampleGenuine [2] party sampleStrict _ _ _ hacceptedApp (hparts 6 0) _ [2] party sampleStrict 5 _ _
      (hparts 6 1) hseparatesApp (.inr (.inr hsignature))⟩

end AssertionRequest

end RelyingParty
