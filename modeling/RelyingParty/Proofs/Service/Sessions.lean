import RelyingParty.Proofs.Registration.Verification
import RelyingParty.Proofs.Service.Atomicity
import RelyingParty.Proofs.Service.Traces
import RelyingParty.Proofs.Store.Provenance
import RelyingParty.Proofs.Store.Refusals

namespace RelyingParty

def Credential.inSession (c : Credential) (sessionId : String) : Credential :=
  { c with sessionId := sessionId }

namespace RegistrationRequest

variable {request : RegistrationRequest} {challenge : Bytes} {party : Party}
  {settings : RegistrationSettings} {now : UInt64}

def inSession (request : RegistrationRequest) (sessionId : String) : RegistrationRequest :=
  { request with sessionId := sessionId }

theorem session_of_verify {credential : Credential}
    (h : request.verify challenge party settings now = .ok credential) :
    credential.sessionId = request.sessionId := by
  obtain ⟨_, _, _, _, _, hissues⟩ := accepted_of_verify h
  exact hissues.sessionId

/-- The session of a request is that of the credential, and nothing else depends on it. -/
theorem verify_inSession (request : RegistrationRequest) (sessionId : String) :
    (request.inSession sessionId).verify challenge party settings now =
      (request.verify challenge party settings now).map (·.inSession sessionId) := by
  unfold verify
  simp only [map_bind_eq]
  -- the checks before the credential is built do not read the session
  congr 1
  funext clientData
  congr 1
  funext _
  congr 1
  funext object
  congr 1
  funext authData
  cases authData.attested with
  | none => rfl
  | some attested =>
    by_cases hclaimed : request.credentialId.any (· ≠ attested.credentialId) = true
    · simp only [inSession, hclaimed, if_true]
      rfl
    · simp only [inSession, hclaimed, Bool.false_eq_true, if_false, map_bind_eq]
      rfl

end RegistrationRequest

namespace Store

variable {s s' : Store} {now : UInt64} {ceremony : Ceremony} {credential : Credential}

/-- The credential stands in the place of a registration ceremony, which is gone. -/
structure Enrolls (s : Store) (now : UInt64) (challengeId : Bytes) (stored : Ceremony)
    (credential : Credential) (s' : Store) : Prop where
  live : s.HasLive now challengeId stored
  kind : stored.kind = .create
  ceremonies : s.ceremonies.Replaces s'.ceremonies challengeId (some stored) none
  credentials : s.credentials.Replaces s'.credentials credential.rawId none (some credential)

theorem enrolls_of_write (h : s.writeCredential now ceremony credential = .ok s') :
    ∃ stored, s.Enrolls now ceremony.challengeId stored credential s' ∧
      stored.sessionId = ceremony.sessionId := by
  obtain ⟨⟨stored, due⟩, rfl⟩ := writeCredential_eq_ok.mp h
  exact ⟨stored, ⟨due.live, due.kind, Table.replaces_erase due.live.1,
    Table.replaces_insert due.fresh credential⟩, due.session⟩

/-- A ceremony that is still the one in the store has the session of that one. -/
theorem write_ne_otherSession (h : s.HasLive now ceremony.challengeId ceremony)
    (credential : Credential) :
    s.writeCredential now ceremony credential ≠ .error (.conditionFailed .otherSession) := by
  have hsame : ¬ ceremony.sessionId ≠ ceremony.sessionId := not_not.mpr rfl
  rw [writeCredential, liveCeremony_eq_ok.mpr h]
  change (if ceremony.sessionId ≠ ceremony.sessionId then _ else _) ≠ _
  rw [if_neg hsame]
  intro hrefused
  split at hrefused
  · cases hrefused
  · split at hrefused
    · cases hrefused
    · cases hrefused

/-- The store takes a credential or refuses it whatever its session is. -/
theorem write_inSession (sessionId : String) :
    (s.writeCredential now ceremony (credential.inSession sessionId)).map (fun _ => ()) =
      (s.writeCredential now ceremony credential).map fun _ => () := by
  unfold writeCredential
  simp only [map_bind_eq]
  congr 1
  funext stored
  by_cases hsession : stored.sessionId ≠ ceremony.sessionId
  · simp only [if_pos hsession]
  · by_cases hkind : stored.kind ≠ .create
    · simp only [if_neg hsession, if_pos hkind]
    · by_cases hknown : s.credentials.contains credential.rawId = true
      · simp only [if_neg hsession, if_neg hkind, Credential.inSession, hknown, if_true]
      · simp only [if_neg hsession, if_neg hkind, Credential.inSession, hknown, Bool.false_eq_true,
          if_false]
        rfl

variable {challengeId : Bytes} {request : RegistrationRequest} {party : Party}
  {settings : RegistrationSettings}

theorem register_eq_ok : s.register now challengeId request party settings = .ok (s', credential) ↔
    ∃ ceremony, s.HasLive now challengeId ceremony ∧
      request.verify ceremony.challengeId party settings now = .ok credential ∧
      s.writeCredential now ceremony credential = .ok s' := by
  unfold register
  simp only [bind_eq_ok, mapError_eq_ok, liveCeremony_eq_ok, Except.ok.injEq, Prod.mk.injEq]
  constructor
  · rintro ⟨ceremony, live, _, hverified, _, hwritten, rfl, rfl⟩
    exact ⟨ceremony, live, hverified, hwritten⟩
  · rintro ⟨ceremony, live, hverified, hwritten⟩
    exact ⟨ceremony, live, credential, hverified, s', hwritten, rfl, rfl⟩

theorem register_ne_otherSession (keyed : s.Keyed) :
    s.register now challengeId request party settings ≠
      .error (.store (.conditionFailed .otherSession)) := by
  intro h
  unfold register at h
  cases hlive : s.liveCeremony now challengeId with
  | error e =>
    rw [hlive, liveCeremony_eq_error hlive] at h
    cases h
  | ok ceremony =>
    rw [hlive] at h
    cases hverified : request.verify ceremony.challengeId party settings now with
    | error e =>
      simp only [Except.mapError, ok_bind, hverified] at h
      cases h
    | ok credential =>
      have live := liveCeremony_eq_ok.mp hlive
      obtain rfl := keyed.ceremonies live.1
      cases hwritten : s.writeCredential now ceremony credential with
      | ok s' =>
        simp only [Except.mapError, ok_bind, hverified, hwritten] at h
        cases h
      | error e =>
        simp only [Except.mapError, ok_bind, hverified, hwritten] at h
        cases h
        exact write_ne_otherSession live credential hwritten

/-- The session of a request does not decide whether it registers a credential. -/
theorem register_inSession (sessionId : String) :
    (s.register now challengeId (request.inSession sessionId) party settings).map (fun _ => ()) =
      (s.register now challengeId request party settings).map fun _ => () := by
  unfold register
  cases s.liveCeremony now challengeId with
  | error e => rfl
  | ok ceremony =>
    simp only [Except.mapError, ok_bind, RegistrationRequest.verify_inSession]
    cases request.verify ceremony.challengeId party settings now with
    | error e => rfl
    | ok credential =>
      have hwrite : (s.writeCredential now ceremony (credential.inSession sessionId)).map (fun _ => ()) =
          (s.writeCredential now ceremony credential).map fun _ => () := write_inSession sessionId
      simp only [Except.map, ok_bind]
      cases hother : s.writeCredential now ceremony (credential.inSession sessionId) <;>
        cases hown : s.writeCredential now ceremony credential <;>
          simp_all [Except.map, bind, Except.bind]

theorem enrolls_of_register (keyed : s.Keyed)
    (h : s.register now challengeId request party settings = .ok (s', credential)) :
    ∃ stored, s.Enrolls now challengeId stored credential s' ∧
      (credential.sessionId = stored.sessionId ↔ request.sessionId = stored.sessionId) := by
  obtain ⟨ceremony, live, hverified, hwritten⟩ := register_eq_ok.mp h
  obtain rfl := keyed.ceremonies live.1
  obtain ⟨stored, enrolled, _⟩ := enrolls_of_write hwritten
  refine ⟨stored, enrolled, ?_⟩
  rw [RegistrationRequest.session_of_verify hverified]

end Store

namespace Service

variable {v : Service} {now : UInt64} {i : Nat} {r : Registration} {ceremony : Ceremony}
  {credential : Credential}

/-- A registration whose ceremony is live and whose request is accepted gets to its last step. -/
theorem verified_of_two_steps (hflow : v.flows[i]? = some (.registration r .asked))
    (live : v.store.HasLive now r.challengeId ceremony)
    (accepted : r.request.verify ceremony.challengeId r.party r.settings now = .ok credential) :
    ((v.step now (.proceed i)).step now (.proceed i)).flows[i]? =
      some (.registration r (.verified ceremony credential)) := by
  have hlt := (List.getElem?_eq_some_iff.mp hflow).1
  have hfirst : v.step now (.proceed i) = ⟨v.store, v.flows.set i (.registration r (.begun ceremony)),
      v.journal ++ [⟨some i, r.lookUp now (.ok ceremony)⟩]⟩ := by
    rw [step_proceed_eq hflow]
    simp only [Flow.advance, Flow.advance.step, Registration.next, Store.perform,
      Store.liveCeremony_eq_ok.mpr live]
    rfl
  have hbegun : (v.step now (.proceed i)).flows[i]? = some (.registration r (.begun ceremony)) := by
    rw [hfirst]
    exact List.getElem?_set_self hlt
  have hlt' := (List.getElem?_eq_some_iff.mp hbegun).1
  rw [step_proceed_eq hbegun]
  simp only [Flow.advance, Flow.advance.step, Registration.next, accepted]
  exact List.getElem?_set_self hlt'

/-- The last step of a registration is one call, and the flow tells what it answered. -/
theorem step_verified (hflow : v.flows[i]? = some (.registration r (.verified ceremony credential)))
    {s' : Store} {answer : Except StoreError Unit}
    (h : v.store.perform now (.writeCredential ceremony credential) = (s', answer)) :
    (v.step now (.proceed i)).store = s' ∧
      (v.step now (.proceed i)).flows[i]? = some (.registration r (.ended
        ((answer.map fun _ => credential).mapError .store))) := by
  have hlt := (List.getElem?_eq_some_iff.mp hflow).1
  rw [step_proceed_eq hflow]
  simp only [Flow.advance, Flow.advance.step, Registration.next, h]
  refine ⟨trivial, ?_⟩
  rw [List.getElem?_set_self hlt]
  cases answer <;> rfl

/-- What is known of a registration whose request was verified. -/
theorem verified_registration (actions : List TimedAction)
    (hflow : (initial.run actions).flows[i]? = some (.registration r (.verified ceremony credential))) :
    ceremony.challengeId = r.challengeId ∧ credential.sessionId = r.request.sessionId ∧
      ∃ time, ⟨some i, r.lookUp time (.ok ceremony)⟩ ∈ (initial.run actions).journal := by
  obtain ⟨_, accounted⟩ := run_accounted actions
  obtain ⟨hid, _⟩ := accounted.sound _ (List.mem_of_getElem? hflow)
  have trace : r.Trace (.verified ceremony credential) ((initial.run actions).eventsOf i) :=
    (run_traced actions).trace hflow
  generalize hevents : (initial.run actions).eventsOf i = events at trace
  cases trace with
  | verified time accepted =>
    refine ⟨hid, RegistrationRequest.session_of_verify accepted, time, ?_⟩
    have hmem : r.lookUp time (.ok ceremony) ∈ (initial.run actions).eventsOf i := by
      rw [hevents]
      exact List.mem_singleton_self _
    obtain ⟨⟨caller, event⟩, hentry, rfl⟩ := List.mem_map.mp hmem
    obtain ⟨hentry, hcaller⟩ := List.mem_filter.mp hentry
    obtain rfl : caller = some i := by simpa using hcaller
    exact hentry

/-- A registration that succeeds consumes a ceremony of the session of the one that it read, and is
refused where the session of the stored one is another; its credential has the session of its request,
whichever that is. Nothing compares the two: a registration that nothing interrupts is never refused for
its session, and is refused under one session exactly if it is under every other. -/
theorem session_of_registration (actions : List TimedAction) (now : UInt64) :
    let v := initial.run actions
    (∀ i r ceremony credential,
      v.flows[i]? = some (.registration r (.verified ceremony credential)) →
        let v' := v.step now (.proceed i)
        (∃ time, ⟨some i, r.lookUp time (.ok ceremony)⟩ ∈ v.journal) ∧
        (∀ done, v'.flows[i]? = some (.registration r (.ended (.ok done))) →
          done = credential ∧ ∃ stored, v.store.Enrolls now r.challengeId stored credential v'.store ∧
            stored.sessionId = ceremony.sessionId ∧
            (credential.sessionId = stored.sessionId ↔ r.request.sessionId = stored.sessionId)) ∧
        ∀ stored, v.store.HasLive now r.challengeId stored → stored.sessionId ≠ ceremony.sessionId →
          v'.store = v.store ∧ v'.flows[i]? = some (.registration r (.ended
            (.error (.store (.conditionFailed .otherSession)))))) ∧
    ∀ challengeId request party settings,
      (∀ s' credential, v.store.register now challengeId request party settings = .ok (s', credential) →
        ∃ stored, v.store.Enrolls now challengeId stored credential s' ∧
          (credential.sessionId = stored.sessionId ↔ request.sessionId = stored.sessionId)) ∧
      v.store.register now challengeId request party settings ≠
        .error (.store (.conditionFailed .otherSession)) ∧
      ∀ sessionId e,
        v.store.register now challengeId (request.inSession sessionId) party settings = .error e ↔
          v.store.register now challengeId request party settings = .error e := by
  intro v
  refine ⟨?_, ?_⟩
  · intro i r ceremony credential hflow v'
    obtain ⟨hid, hsession, hread⟩ := verified_registration actions hflow
    refine ⟨hread, ?_, ?_⟩
    · intro done hdone
      cases hw : v.store.writeCredential now ceremony credential with
      | error e =>
        have hperform : v.store.perform now (.writeCredential ceremony credential) =
            (v.store, .error e) := by
          rw [Store.perform, hw]
          rfl
        cases (step_verified hflow hperform).2.symm.trans hdone
      | ok s' =>
        have hperform : v.store.perform now (.writeCredential ceremony credential) = (s', .ok ()) := by
          rw [Store.perform, hw]
          rfl
        obtain ⟨hstore, hended⟩ := step_verified hflow hperform
        cases hended.symm.trans hdone
        obtain ⟨stored, enrolled, hsame⟩ := Store.enrolls_of_write hw
        refine ⟨rfl, stored, ?_, hsame, by rw [hsession]⟩
        rw [← hid]
        exact hstore ▸ enrolled
    · intro stored live hother
      have hw : v.store.writeCredential now ceremony credential =
          .error (.conditionFailed .otherSession) :=
        Store.writeCredential_of_otherSession (hid ▸ live) hother
      exact step_verified hflow (by rw [Store.perform, hw])
  · intro challengeId request party settings
    obtain ⟨recorded, _⟩ := run_accounted actions
    have keyed : v.store.Keyed := recorded.keyed
    refine ⟨fun s' credential h => Store.enrolls_of_register keyed h,
      Store.register_ne_otherSession keyed, ?_⟩
    intro sessionId e
    exact error_iff_of_map_eq (Store.register_inSession sessionId)

def sampleCeremony : Ceremony := .begin [1] "session" .create none 0

theorem sampleRegistration_accepted : ∃ credential, sampleRegistration.request.verify [1]
    sampleRegistration.party sampleRegistration.settings 5 = .ok credential := by
  have haccepted : (sampleRegistration.request.verify [1] sampleRegistration.party
      sampleRegistration.settings 5).toOption.isSome = true := by decide +kernel
  cases hverified : sampleRegistration.request.verify [1] sampleRegistration.party
      sampleRegistration.settings 5 with
  | error e =>
    rw [hverified] at haccepted
    cases haccepted
  | ok credential => exact ⟨credential, rfl⟩

def sampleVerified : List TimedAction :=
  [.call (.putCeremony sampleCeremony), .register sampleRegistration, .proceed 0, .proceed 0].map (⟨5, ·⟩)

def sampleReplaced : List TimedAction :=
  sampleVerified ++ [.call (.writeCredential sampleCeremony Store.sampleCredential),
    .call (.putCeremony { sampleCeremony with sessionId := "later" })].map (⟨5, ·⟩)

theorem session_of_registration_sample :
    (∃ credential stored, ((initial.run sampleVerified).step 5 (.proceed 0)).flows[0]? =
        some (.registration sampleRegistration (.ended (.ok credential))) ∧
      (initial.run sampleVerified).store.Enrolls 5 [1] stored credential
        ((initial.run sampleVerified).step 5 (.proceed 0)).store ∧
      credential.sessionId = stored.sessionId) ∧
    ((initial.run sampleReplaced).step 5 (.proceed 0)).flows[0]? = some (.registration sampleRegistration
      (.ended (.error (.store (.conditionFailed .otherSession))))) ∧
    ∃ s' credential stored, (initial.run sampleVerified).store.register 5 [1]
        sampleRegistration.request sampleRegistration.party sampleRegistration.settings =
          .ok (s', credential) ∧
      (initial.run sampleVerified).store.Enrolls 5 [1] stored credential s' := by
  obtain ⟨credential, accepted⟩ := sampleRegistration_accepted
  have live : (initial.run sampleVerified).store.HasLive 5 [1] sampleCeremony := ⟨rfl, by decide⟩
  have due : (initial.run sampleVerified).store.Registers 5 sampleCeremony credential sampleCeremony :=
    ⟨live, rfl, rfl, rfl⟩
  have hverified : (initial.run sampleVerified).flows[0]? =
      some (.registration sampleRegistration (.verified sampleCeremony credential)) := by
    have hasked : (initial.run (sampleVerified.take 2)).flows[0]? =
        some (.registration sampleRegistration .asked) := rfl
    have hlive : (initial.run (sampleVerified.take 2)).store.HasLive 5 [1] sampleCeremony := live
    exact verified_of_two_steps hasked hlive accepted
  obtain ⟨flows, registers⟩ := session_of_registration sampleVerified 5
  refine ⟨?_, ?_, ?_⟩
  · have hwritten : ((initial.run sampleVerified).store.perform 5
        (.writeCredential sampleCeremony credential)).2 = .ok () :=
      Store.write_eq_ok.mpr ⟨sampleCeremony, due⟩
    obtain ⟨_, hended⟩ := step_verified hverified (Prod.ext rfl hwritten)
    obtain ⟨_, hdone, _⟩ := flows 0 _ _ _ hverified
    obtain ⟨_, stored, enrolled, hsame, hsession⟩ := hdone credential hended
    exact ⟨credential, stored, hended, enrolled, hsession.mpr hsame.symm⟩
  · have hreplaced : (initial.run sampleReplaced).flows[0]? =
        some (.registration sampleRegistration (.verified sampleCeremony credential)) := hverified
    have hlive : (initial.run sampleReplaced).store.HasLive 5 [1]
        { sampleCeremony with sessionId := "later" } := ⟨rfl, by decide⟩
    obtain ⟨replaced, _⟩ := session_of_registration sampleReplaced 5
    obtain ⟨_, _, hrefused⟩ := replaced 0 _ _ _ hreplaced
    exact (hrefused _ hlive (by decide)).2
  · obtain ⟨s', hwritten⟩ : ∃ s', (initial.run sampleVerified).store.writeCredential 5 sampleCeremony
        credential = .ok s' := ⟨_, Store.writeCredential_eq_ok.mpr ⟨⟨_, due⟩, rfl⟩⟩
    have hregistered := Store.register_eq_ok.mpr ⟨sampleCeremony, live, accepted, hwritten⟩
    obtain ⟨stored, enrolled, _⟩ := (registers [1] _ _ _).1 s' credential hregistered
    exact ⟨s', credential, stored, hregistered, enrolled⟩

/-- A request of another session than the ceremony registers a credential of its own session. -/
theorem registered_in_other_session :
    let s := Store.empty.run [⟨5, .putCeremony sampleCeremony⟩]
    let request := sampleRegistration.request.inSession "other"
    (s.ceremonies.get? [1]).map (·.sessionId) = some "session" ∧ request.sessionId = "other" ∧
      (s.register 5 [1] request sampleRegistration.party sampleRegistration.settings).toOption.map
          (fun (s', credential) => (s'.ceremonies.contains [1],
            (s'.credentials.get? credential.rawId).map (·.sessionId))) =
        some (false, some "other") := by
  decide +kernel

end Service

end RelyingParty
