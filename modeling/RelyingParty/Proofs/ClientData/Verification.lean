import RelyingParty.ClientData
import RelyingParty.Proofs.Checks

namespace RelyingParty

theorem CeremonyKind.clientDataType_injective : Function.Injective clientDataType := by
  intro kind other h
  cases kind <;> cases other
  case create.create => rfl
  case get.get => rfl
  all_goals exact absurd h (by decide)

/-- The status is known, and a connection that is bound says to which token. -/
def TokenBinding.Admissible (binding : TokenBinding) : Prop :=
  binding.status = "supported" ∨ binding.status = "not-supported" ∨
    binding.status = "present" ∧ binding.id ≠ none ∧ binding.id ≠ some ""

instance (binding : TokenBinding) : Decidable binding.Admissible :=
  inferInstanceAs (Decidable (_ ∨ _))

theorem TokenBinding.isValid_iff {binding : TokenBinding} :
    binding.isValid = true ↔ binding.Admissible := by
  unfold isValid Admissible
  split
  next hstatus => cases binding.id <;> simp [hstatus]
  next hstatus => simp [hstatus]
  next hstatus => simp [hstatus]
  next hpresent hsupported hnot =>
    have hknown : ¬ (binding.status = "supported" ∨ binding.status = "not-supported" ∨
        binding.status = "present" ∧ binding.id ≠ none ∧ binding.id ≠ some "") := by
      rintro (h | h | ⟨h, _⟩)
      · exact hsupported h
      · exact hnot h
      · exact hpresent h
    exact iff_of_false Bool.false_ne_true hknown

/-- The checks of client data in the order in which they are made. -/
inductive ClientDataCheck where
  | type
  | challenge
  | origin
  | tokenBinding

def ClientDataCheck.all : List ClientDataCheck := [type, challenge, origin, tokenBinding]

theorem ClientDataCheck.mem_all (check : ClientDataCheck) : check ∈ all := by
  cases check <;> simp [all]

namespace ClientData

structure Accepted (clientData : ClientData) (challenge : Bytes) (kind : CeremonyKind)
    (origin : String) : Prop where
  type : clientData.type = kind.clientDataType
  challenge : clientData.challenge = challenge
  origin : WebOrigin.equalIgnoringCase (WebOrigin.normalize clientData.origin)
    (WebOrigin.normalize origin) = true
  tokenBinding : ∀ binding ∈ clientData.tokenBinding, binding.Admissible

def outcome (clientData : ClientData) (challenge : Bytes) (kind : CeremonyKind) (origin : String) :
    ClientDataCheck → Except VerificationError Unit
  | .type => ensure (clientData.type = kind.clientDataType)
      (.ceremonyTypeMismatch kind.clientDataType clientData.type)
  | .challenge => ensure (clientData.challenge = challenge) .challengeMismatch
  | .origin => ensure (WebOrigin.equalIgnoringCase (WebOrigin.normalize clientData.origin)
      (WebOrigin.normalize origin) = true) (.originMismatch origin clientData.origin)
  | .tokenBinding => ensure (∀ binding ∈ clientData.tokenBinding, binding.Admissible)
      .tokenBindingInvalid

variable {clientData : ClientData} {challenge other : Bytes} {kind : CeremonyKind} {origin : String}

theorem check_eq : clientData.check challenge kind origin =
    ClientDataCheck.all.forM (clientData.outcome challenge kind origin) := by
  have hbinding : (clientData.tokenBinding.any fun binding => !binding.isValid) = true ↔
      ¬ ∀ binding ∈ clientData.tokenBinding, binding.Admissible := by
    cases clientData.tokenBinding <;> simp [← TokenBinding.isValid_iff]
  unfold check ClientDataCheck.all
  rw [refuse_eq_ensure (q := clientData.type = kind.clientDataType) (by simp),
    refuse_eq_ensure (q := clientData.challenge = challenge) (by simp),
    refuse_eq_ensure (q := WebOrigin.sameOrigin clientData.origin origin = true) (by simp),
    refuse_eq_ensure hbinding]
  rfl

theorem accepted_iff : clientData.Accepted challenge kind origin ↔
    ∀ check, clientData.outcome challenge kind origin check = .ok () := by
  constructor
  · intro h check
    cases check with
    | type => exact ensure_of h.type _
    | challenge => exact ensure_of h.challenge _
    | origin => exact ensure_of h.origin _
    | tokenBinding => exact ensure_of h.tokenBinding _
  · intro h
    exact ⟨ensure_eq_ok.mp (h .type), ensure_eq_ok.mp (h .challenge), ensure_eq_ok.mp (h .origin),
      ensure_eq_ok.mp (h .tokenBinding)⟩

theorem check_eq_ok :
    clientData.check challenge kind origin = .ok () ↔ clientData.Accepted challenge kind origin := by
  rw [check_eq, forM_eq_ok, accepted_iff]
  exact ⟨fun h check => h check check.mem_all, fun h check _ => h check⟩

theorem check_of_other_type (h : clientData.type ≠ kind.clientDataType) :
    clientData.check challenge kind origin =
      .error (.ceremonyTypeMismatch kind.clientDataType clientData.type) := if_pos h

theorem check_of_other_challenge (htype : clientData.type = kind.clientDataType)
    (h : clientData.challenge ≠ challenge) :
    clientData.check challenge kind origin = .error .challengeMismatch := by
  rw [check, if_neg (not_not.mpr htype), if_pos h]

/-- Client data is accepted exactly if it meets everything that is asked of it, and otherwise refused by
the first check that it fails. Where it is accepted, every other challenge is refused as another one, of
whatever origin, and the other kind of ceremony as another one, whatever else is asked. -/
theorem answers_one_challenge_of_one_ceremony (clientData : ClientData) :
    (∀ challenge kind origin,
      (clientData.check challenge kind origin = .ok () ↔ clientData.Accepted challenge kind origin) ∧
      ∀ e, clientData.check challenge kind origin = .error e ↔
        FirstFault (clientData.outcome challenge kind origin) ClientDataCheck.all e) ∧
    ∀ challenge kind origin, clientData.check challenge kind origin = .ok () →
      (∀ other kind' origin', clientData.check other kind' origin' = .ok () →
        other = challenge ∧ kind' = kind) ∧
      (∀ other origin', other ≠ challenge →
        clientData.check other kind origin' = .error .challengeMismatch) ∧
      ∀ other kind' origin', kind' ≠ kind → clientData.check other kind' origin' =
        .error (.ceremonyTypeMismatch kind'.clientDataType kind.clientDataType) := by
  constructor
  · intro challenge kind origin
    refine ⟨check_eq_ok, fun e => ?_⟩
    rw [check_eq, forM_eq_error]
  · intro challenge kind origin hok
    obtain ⟨htype, rfl, _, _⟩ := check_eq_ok.mp hok
    refine ⟨?_, ?_, ?_⟩
    · intro other kind' origin' hother
      obtain ⟨htype', rfl, _, _⟩ := check_eq_ok.mp hother
      exact ⟨rfl, CeremonyKind.clientDataType_injective (htype'.symm.trans htype)⟩
    · intro other origin' hne
      exact check_of_other_challenge htype hne.symm
    · intro other kind' origin' hne
      rw [← htype]
      apply check_of_other_type
      intro hsame
      exact hne (CeremonyKind.clientDataType_injective (hsame.symm.trans htype))

def sampleBound : ClientData :=
  ⟨"webauthn.get", [1, 2, 3], "https://Example.COM:443/login?x=1", some ⟨"present", some "abc"⟩, false⟩

theorem answers_one_challenge_of_one_ceremony_sample :
    sampleBound.check [1, 2, 3] .get "https://example.com" = .ok () ∧
      (∀ other kind origin, sampleBound.check other kind origin = .ok () →
        other = [1, 2, 3] ∧ kind = .get) ∧
      sampleBound.check [1, 2] .get "https://example.com" = .error .challengeMismatch ∧
      sampleBound.check [1, 2, 3] .create "https://example.com" =
        .error (.ceremonyTypeMismatch "webauthn.create" "webauthn.get") := by
  have hok : sampleBound.check [1, 2, 3] .get "https://example.com" = .ok () := by decide +kernel
  obtain ⟨unique, otherChallenge, otherKind⟩ :=
    (answers_one_challenge_of_one_ceremony sampleBound).2 _ _ _ hok
  exact ⟨hok, unique, otherChallenge _ _ (by decide), otherKind _ .create _ (by decide)⟩

end ClientData

end RelyingParty
