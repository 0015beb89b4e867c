import RelyingParty.Proofs.Attestation.Packed
import RelyingParty.Proofs.Key.Library
import RelyingParty.Proofs.Service.UninterruptedLogin

namespace RelyingParty

section Refusals

variable {ε α β : Type} {told : ε → Prop}

/-- The outcomes do not differ in the refusals that are told. -/
def RefuseAlike (told : ε → Prop) (x y : Except ε α) : Prop :=
  ∀ e, told e → (x = .error e ↔ y = .error e)

theorem refuseAlike_refl (x : Except ε α) : RefuseAlike told x x := fun _ _ => Iff.rfl

theorem RefuseAlike.bind {x : Except ε α} {f g : α → Except ε β} (h : ∀ a, RefuseAlike told (f a) (g a)) :
    RefuseAlike told (x >>= f) (x >>= g) := by
  cases x with
  | error e => exact refuseAlike_refl _
  | ok a => exact h a

/-- What comes after may refuse for other reasons. -/
theorem RefuseAlike.then {x y : Except ε Unit} {next : Except ε α} (h : RefuseAlike told x y)
    (hnext : RefusedOnly next (¬ told ·)) :
    RefuseAlike told (x >>= fun _ => next) (y >>= fun _ => next) := by
  have hfirst (z : Except ε Unit) {e : ε} (he : told e) : (z >>= fun _ => next) = .error e ↔ z = .error e := by
    rw [bind_eq_error]
    constructor
    · rintro (hz | ⟨_, _, hlast⟩)
      · exact hz
      · exact absurd he (hnext e hlast)
    · exact .inl
  intro e he
  rw [hfirst x he, hfirst y he]
  exact h e he

theorem RefuseAlike.not_told {x y : Except ε α} (h : RefuseAlike told x y) {refusal : ε} (hx : x = .error refusal)
    {e : ε} (he : told e) (hne : e ≠ refusal) : y ≠ .error e := by
  intro hy
  cases hx.symm.trans ((h e he).mpr hy)
  exact hne rfl

end Refusals

/-- A key answers every signature alike, but for which of them it accepts. -/
theorem SettledByKey.refuseAlike {answer : (message signature : Bytes) → Except KeyError Bool}
    (h : SettledByKey answer) {α : Type} {told : VerificationError → Prop}
    {conclude : Bool → Except VerificationError α}
    (hconclude : ∀ accepted, RefusedOnly (conclude accepted) (¬ told ·))
    (message signature signature' : Bytes) :
    RefuseAlike told ((answer message signature).mapError .key >>= conclude)
      ((answer message signature').mapError .key >>= conclude) := by
  obtain ⟨cause, hall⟩ | hall := h
  · rw [hall, hall]
    exact refuseAlike_refl _
  · obtain ⟨accepted, haccepted⟩ := hall message signature
    obtain ⟨accepted', haccepted'⟩ := hall message signature'
    rw [haccepted, haccepted']
    intro e he
    exact iff_of_false (fun h => hconclude accepted e h he) fun h => hconclude accepted' e h he

namespace AssertionRequest

/-- What an assertion tells, if it passes every check, for a library. -/
def verifyWith (library : Library) (request : AssertionRequest) (challenge : Bytes) (credential : Credential)
    (party : Party) (policy : Policy) : Except VerificationError VerifiedAssertion :=
  request.verifyUsing (PublicKey.verifyWith library) challenge credential party policy

theorem verifyWith_standard : verifyWith .standard = verify := by
  unfold verifyWith verify
  rw [PublicKey.verifyWith_standard]

section Signatures

variable {check : PublicKey.Check} (hcheck : ∀ key, SettledByKey (check key))
include hcheck

theorem isSignedUsing_settledByKey (request : AssertionRequest) (credential : Credential) :
    SettledByKey (request.isSignedUsing check credential) := by
  unfold isSignedUsing
  cases (request.keyForm credential).read credential.publicKey with
  | error cause =>
    left
    exact ⟨cause, fun base signature => rfl⟩
  | ok key =>
    obtain ⟨cause, hall⟩ | hall := hcheck key
    · left
      exact ⟨cause, fun base signature => hall _ signature⟩
    · right
      exact fun base signature => hall _ signature

variable {payload payload' : AssertionPayload} {ad signature signature' : Bytes}

theorem verifyUsing_refuseAlike (request : AssertionRequest)
    (hparts : payload.parts = .ok (ad, signature)) (hparts' : payload'.parts = .ok (ad, signature'))
    (challenge : Bytes) (credential : Credential) (party : Party) (policy : Policy) :
    RefuseAlike (· ≠ .signatureInvalid)
      ({ request with payload := payload }.verifyUsing check challenge credential party policy)
      ({ request with payload := payload' }.verifyUsing check challenge credential party policy) := by
  unfold verifyUsing
  rw [hparts, hparts']
  split
  next => exact refuseAlike_refl _
  next =>
    rw [ok_bind, ok_bind]
    refine .bind fun clientData => .bind fun _ => .bind fun parsed => .bind fun authData => ?_
    refine (isSignedUsing_settledByKey hcheck request credential).refuseAlike (fun accepted => ?_) _ _ _
    cases accepted with
    | true => exact refusedOnly_ok _
    | false => exact refusedOnly_error (not_not.mpr rfl)

end Signatures

end AssertionRequest

/-- The refusal tells of a key: it cannot be read, or it cannot check signatures. -/
inductive VerificationError.TellsOfKey : VerificationError → Prop
  | own (cause : KeyError) : TellsOfKey (.key cause)
  | certified (cause : KeyError) : TellsOfKey (.certificateInvalid (.key cause))

namespace Attestation.Packed

def checkWith (library : Library) (s : Statement) : Except VerificationError Contribution :=
  checkUsing (PublicKey.verifyWith library) s

theorem checkWith_standard : checkWith .standard = Packed.check := by
  unfold checkWith Packed.check
  rw [PublicKey.verifyWith_standard]

theorem checkModel_refusedOnly (s : Statement) (c : Certificate) :
    RefusedOnly (checkModel s c) (¬ ·.TellsOfKey) := by
  unfold checkModel
  split
  next => exact refusedOnly_ok ()
  next =>
    split
    next => exact refusedOnly_error nofun
    next => exact refusedOnly_ensure fun _ => nofun

theorem checkCertificate_refusedOnly (s : Statement) (c : Certificate) :
    RefusedOnly (checkCertificate s c) (¬ ·.TellsOfKey) := by
  unfold checkCertificate
  split
  next => exact refusedOnly_error nofun
  next =>
    split
    next => exact refusedOnly_error nofun
    next =>
      split
      next => exact refusedOnly_error nofun
      next =>
        refine (checkModel_refusedOnly s c).bind fun _ => ?_
        split
        next => exact refusedOnly_error nofun
        next => exact refusedOnly_error nofun
        next => exact refusedOnly_ok ()

section Signatures

variable {check : PublicKey.Check} (hcheck : ∀ key, SettledByKey (check key)) (s : Statement)
include hcheck

theorem checkSignature_refuseAlike (key : PublicKey) (signature signature' : Bytes) :
    RefuseAlike VerificationError.TellsOfKey (checkSignature check s key signature)
      (checkSignature check s key signature') := by
  refine (hcheck key).refuseAlike (fun accepted => ?_) _ _ _
  cases accepted with
  | true => exact refusedOnly_ok ()
  | false => exact refusedOnly_error nofun

theorem checkBasic_refuseAlike (id : Int) (signature signature' leaf : Bytes) :
    RefuseAlike VerificationError.TellsOfKey (checkBasic check s id signature leaf)
      (checkBasic check s id signature' leaf) := by
  refine .bind fun algorithm => ?_
  split
  next => exact refuseAlike_refl _
  next c _ =>
    refine .bind fun key => ?_
    exact (checkSignature_refuseAlike hcheck s key signature signature').then (checkCertificate_refusedOnly s c)

theorem checkSelf_refuseAlike (id : Int) (signature signature' : Bytes) :
    RefuseAlike VerificationError.TellsOfKey (checkSelf check s id signature)
      (checkSelf check s id signature') := by
  refine .bind fun key => ?_
  split
  next => exact refuseAlike_refl _
  next => exact checkSignature_refuseAlike hcheck s key signature signature'

variable {s} {entries : Cbor.Entries} {signature signature' : Bytes}

theorem checkUsing_refuseAlike (hsignature : s.entries.Names "sig" (.bytes signature))
    (hsignature' : entries.Names "sig" (.bytes signature'))
    (hothers : ∀ name ≠ "sig", entries.getText? name = s.entries.getText? name) :
    RefuseAlike VerificationError.TellsOfKey (checkUsing check s)
      (checkUsing check { s with entries := entries }) := by
  have hmember : s.entries.member Cbor.Item.bytes? "sig" = .ok signature :=
    Cbor.Entries.member_eq_ok.mpr (Cbor.Entries.getText?_bind_bytes?.mpr hsignature)
  have hmember' : entries.member Cbor.Item.bytes? "sig" = .ok signature' :=
    Cbor.Entries.member_eq_ok.mpr (Cbor.Entries.getText?_bind_bytes?.mpr hsignature')
  have halgorithm : entries.member Cbor.Item.int? "alg" = s.entries.member Cbor.Item.int? "alg" := by
    unfold Cbor.Entries.member
    rw [hothers "alg" (by decide)]
  unfold checkUsing
  simp only [hmember, hmember', halgorithm, hothers "x5c" (by decide), hothers "ecdaaKeyId" (by decide), ok_bind]
  refine .bind fun id => ?_
  split
  next =>
    refine .bind fun bs => ?_
    exact (checkBasic_refuseAlike hcheck s id signature signature' bs).then (refusedOnly_ok _)
  next =>
    split
    next => exact refuseAlike_refl _
    next => exact (checkSelf_refuseAlike hcheck s id signature signature').then (refusedOnly_ok _)

end Signatures

end Attestation.Packed

/-- Whatever a library takes for keys and for signatures, an error of a key comes with every message and every
signature, and a key without one answers all of them. So a login with another signature is refused for the
same reasons but a signature that is not accepted, and a packed statement with another signature for the same
faults of keys. -/
theorem key_errors_tell_of_keys :
    (PublicKey.verifyWith .standard = PublicKey.verify ∧
      AssertionRequest.verifyWith .standard = AssertionRequest.verify ∧
      Attestation.Packed.checkWith .standard = Attestation.Packed.check) ∧
    ∀ library : Library,
      (∀ (key : PublicKey) (message signature : Bytes) (e : KeyError),
        key.verifyWith library message signature = .error e →
          ∀ message' signature', key.verifyWith library message' signature' = .error e) ∧
      (∀ key : PublicKey, SettledByKey (key.verifyWith library)) ∧
      (∀ (request : AssertionRequest) (payload payload' : AssertionPayload)
        (ad signature signature' challenge : Bytes) (credential : Credential) (party : Party) (policy : Policy),
        payload.parts = .ok (ad, signature) → payload'.parts = .ok (ad, signature') →
          let outcome := fun payload =>
            { request with payload := payload }.verifyWith library challenge credential party policy
          RefuseAlike (· ≠ .signatureInvalid) (outcome payload) (outcome payload') ∧
            (outcome payload = .error .signatureInvalid → ∀ cause, outcome payload' ≠ .error (.key cause))) ∧
      ∀ (s : Attestation.Statement) (entries : Cbor.Entries) (signature signature' : Bytes),
        s.entries.Names "sig" (.bytes signature) → entries.Names "sig" (.bytes signature') →
        (∀ name ≠ "sig", entries.getText? name = s.entries.getText? name) →
          let outcome := fun entries => Attestation.Packed.checkWith library { s with entries := entries }
          RefuseAlike VerificationError.TellsOfKey (outcome s.entries) (outcome entries) ∧
            (outcome s.entries = .error .attestationSignatureInvalid →
              ∀ e, VerificationError.TellsOfKey e → outcome entries ≠ .error e) := by
  refine ⟨⟨PublicKey.verifyWith_standard, AssertionRequest.verifyWith_standard,
    Attestation.Packed.checkWith_standard⟩, fun library => ?_⟩
  refine ⟨?_, fun key => key.settledByKey library, ?_, ?_⟩
  · intro key message signature e h
    exact (key.settledByKey library).error h
  · intro request payload payload' ad signature signature' challenge credential party policy hparts hparts'
    have halike := AssertionRequest.verifyUsing_refuseAlike (PublicKey.settledByKey library) request hparts hparts'
      challenge credential party policy
    exact ⟨halike, fun hrefused cause => halike.not_told hrefused nofun nofun⟩
  · intro s entries signature signature' hsignature hsignature' hothers
    have halike := Attestation.Packed.checkUsing_refuseAlike (PublicKey.settledByKey library) hsignature hsignature'
      hothers
    refine ⟨halike, fun hrefused e he => halike.not_told hrefused he ?_⟩
    rintro rfl
    cases he

def PublicKey.samplePointless : PublicKey := .ec2 .es256 .p256 (List.replicate 32 1) (List.replicate 32 2)

namespace Attestation.Packed

def sampleEntries (id : Int) (signature : Bytes) : Cbor.Entries :=
  [(.text "alg", .ofInt id), (.text "sig", .bytes signature), (.text "x5c", .array [.bytes sampleLeaf])]

theorem sampleEntries_names (id : Int) (signature : Bytes) :
    (sampleEntries id signature).Names "sig" (.bytes signature) :=
  Cbor.Entries.getText?_eq_some.mp rfl

theorem sampleEntries_getText? (id : Int) (signature signature' : Bytes) :
    ∀ name ≠ "sig", (sampleEntries id signature').getText? name = (sampleEntries id signature).getText? name := by
  intro name hname
  simp [sampleEntries, Cbor.Entries.getText?, Cbor.Item.text?, List.find?_cons, hname.symm]

def sampleMistaken : VerificationError :=
  .certificateInvalid (.key (.invalid (.notEc PublicKey.rsaKind)))

end Attestation.Packed

open Attestation.Packed
open Store (sampleAssertion sampleCounting sampleStrict)

theorem key_errors_tell_of_keys_sample :
    (PublicKey.samplePointless.verify [] [1] = .error (.invalid (.notOnCurve .p256)) ∧
      PublicKey.samplePointless.verify [7] [] = .error (.invalid (.notOnCurve .p256))) ∧
    ((sampleAssertion "Ag" 6 0).verify [2] sampleCounting ⟨"a", "b", none⟩ sampleStrict =
        .error .signatureInvalid ∧
      ∀ cause, (sampleAssertion "Ag" 6 1).verify [2] sampleCounting ⟨"a", "b", none⟩ sampleStrict ≠
        .error (.key cause)) ∧
    (check (bare (sampleEntries (-257) [])) = .error .attestationSignatureInvalid ∧
      ∀ e, VerificationError.TellsOfKey e → check (bare (sampleEntries (-257) [1])) ≠ .error e) ∧
    check (bare (sampleEntries (-7) [])) = .error sampleMistaken ∧
      check (bare (sampleEntries (-7) [1])) = .error sampleMistaken := by
  have hkey : PublicKey.samplePointless.verify [] [1] = .error (.invalid (.notOnCurve .p256)) := by decide +kernel
  have hlogin : (sampleAssertion "Ag" 6 0).verify [2] sampleCounting ⟨"a", "b", none⟩ sampleStrict =
      .error .signatureInvalid := by decide +kernel
  have hcertified : check (bare (sampleEntries (-257) [])) = .error .attestationSignatureInvalid := by
    decide +kernel
  have hmistaken : check (bare (sampleEntries (-7) [])) = .error sampleMistaken := by decide +kernel
  obtain ⟨⟨hkeys, hlogins, hpacked⟩, hall⟩ := key_errors_tell_of_keys
  have hstandard := hall .standard
  rw [hkeys, hlogins, hpacked] at hstandard
  obtain ⟨hkeyErrors, _, hloginErrors, hpackedErrors⟩ := hstandard
  have hrefusals (id : Int) := hpackedErrors (bare (sampleEntries id [])) (sampleEntries id [1]) [] [1]
    (sampleEntries_names id []) (sampleEntries_names id [1]) (sampleEntries_getText? id [] [1])
  refine ⟨⟨hkey, hkeyErrors _ _ _ _ hkey _ _⟩, ⟨hlogin, ?_⟩, ⟨hcertified, (hrefusals (-257)).2 hcertified⟩,
    hmistaken, ((hrefusals (-7)).1 _ (.certified _)).mp hmistaken⟩
  exact (hloginErrors (sampleAssertion "Ag" 6 0) (sampleAssertion "Ag" 6 0).payload
    (sampleAssertion "Ag" 6 1).payload _ _ _ _ _ _ _ rfl rfl).2 hlogin

end RelyingParty
