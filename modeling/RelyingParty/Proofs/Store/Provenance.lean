import RelyingParty.Proofs.Store.Run

namespace RelyingParty.Store

/-- The ceremony was put by a call of the run, and no call since then removed it. -/
def StandsSincePut (calls : List TimedCall) (c : Ceremony) : Prop :=
  ∃ earlier time later, calls = earlier ++ ⟨time, .putCeremony c⟩ :: later ∧
    ((empty.run earlier).perform time (.putCeremony c)).2 = .ok () ∧
    ∀ part, part <+: later →
      (empty.run (earlier ++ ⟨time, .putCeremony c⟩ :: part)).ceremonies.get? c.challengeId = some c

/-- The run registers the credential, which leaves the store `start`, and goes on with `later`. -/
def RegistersThen (calls : List TimedCall) (registered : Credential) (start : Store)
    (later : List TimedCall) : Prop :=
  ∃ earlier time ceremony, calls = earlier ++ ⟨time, .writeCredential ceremony registered⟩ :: later ∧
    (empty.run earlier).perform time (.writeCredential ceremony registered) = (start, .ok ())

variable {s : Store} {now : UInt64} {calls : List TimedCall}

theorem put_of_change {call : Call} {c : Ceremony}
    (h : Change.ofAnswer call (s.perform now call).2 = .put c) :
    call = .putCeremony c ∧ (s.perform now (.putCeremony c)).2 = .ok () := by
  generalize ha : (s.perform now call).2 = answer at h
  unfold Change.ofAnswer at h
  split at h <;> cases h
  exact ⟨rfl, ha⟩

theorem write_of_change {call : Call} {ceremony : Ceremony} {credential : Credential}
    (h : Change.ofAnswer call (s.perform now call).2 = .registered ceremony credential) :
    call = .writeCredential ceremony credential ∧
      (s.perform now (.writeCredential ceremony credential)).2 = .ok () := by
  generalize ha : (s.perform now call).2 = answer at h
  unfold Change.ofAnswer at h
  split at h <;> cases h
  exact ⟨rfl, ha⟩

/-- A stored ceremony was put, and stands in the store ever since. -/
theorem standsSincePut_of_stored {challengeId : Bytes} {c : Ceremony}
    (hc : (empty.run calls).ceremonies.get? challengeId = some c) : StandsSincePut calls c := by
  induction calls using List.reverseRecOn with
  | nil => simp [empty] at hc
  | append_singleton calls call ih =>
    have hid := (keyed_run (calls ++ [call])).ceremonies hc
    have hnow := hc
    rw [run_concat] at hc
    rcases (perform_step _ call.time call.call).ceremony_before hc with ⟨hput, _⟩ | hc
    · obtain ⟨hcall, hok⟩ := put_of_change hput
      obtain ⟨time, _⟩ := call
      cases hcall
      refine ⟨calls, time, [], rfl, hok, ?_⟩
      intro part hpart
      rw [List.prefix_nil.mp hpart, hid]
      exact hnow
    · obtain ⟨earlier, time, later, hcalls, hok, hstands⟩ := ih hc
      refine ⟨earlier, time, later ++ [call], by simp [hcalls], hok, ?_⟩
      intro part hpart
      rcases List.prefix_concat_iff.mp hpart with rfl | hpart
      · rw [hid, ← hnow, hcalls, List.append_assoc, List.cons_append]
      · exact hstands part hpart

/-- A stored credential was registered, perhaps with other changing members. -/
theorem registersThen_of_stored {credentialId : Bytes} {c : Credential}
    (hc : (empty.run calls).credentials.get? credentialId = some c) :
    ∃ registered start later, RegistersThen calls registered start later ∧
      registered.rawId = credentialId := by
  induction calls using List.reverseRecOn generalizing c with
  | nil => simp [empty] at hc
  | append_singleton calls call ih =>
    rw [run_concat] at hc
    rcases (perform_step _ call.time call.call).credential_before hc with ⟨ceremony, hwrite, hid⟩ | ⟨old, hold, _⟩
    · obtain ⟨hcall, hok⟩ := write_of_change hwrite
      obtain ⟨time, _⟩ := call
      cases hcall
      exact ⟨c, _, [], ⟨calls, time, ceremony, rfl, Prod.ext rfl hok⟩, hid⟩
    · obtain ⟨registered, start, later, ⟨earlier, time, ceremony, hcalls, hok⟩, hid⟩ := ih hold
      exact ⟨registered, start, later ++ [call], ⟨earlier, time, ceremony, by simp [hcalls], hok⟩, hid⟩

theorem write_eq_ok {ceremony : Ceremony} {credential : Credential} :
    (s.perform now (.writeCredential ceremony credential)).2 = .ok () ↔
      ∃ stored, s.Registers now ceremony credential stored := by
  change (s.commit (s.writeCredential now ceremony credential)).2 = .ok () ↔ _
  rw [commit_eq_ok]
  constructor
  · rintro ⟨s', h⟩
    exact (writeCredential_eq_ok.mp h).1
  · intro h
    exact ⟨_, writeCredential_eq_ok.mpr ⟨h, rfl⟩⟩

/-- A login ceremony registers nothing: the store stays as it was. -/
theorem write_fst_of_get {c ceremony : Ceremony} (credential : Credential)
    (hc : s.ceremonies.get? ceremony.challengeId = some c) (hkind : c.kind = .get) :
    (s.perform now (.writeCredential ceremony credential)).1 = s := by
  change (s.commit (s.writeCredential now ceremony credential)).1 = s
  cases hw : s.writeCredential now ceremony credential with
  | error e => rfl
  | ok s' =>
    obtain ⟨⟨stored, due⟩, _⟩ := writeCredential_eq_ok.mp hw
    have hsame : c = stored := Option.some.inj (hc.symm.trans due.live.1)
    have := due.kind
    rw [← hsame, hkind] at this
    cases this

/-- A registration ceremony moves and flags nothing: the store stays as it was. -/
theorem move_fst_of_create {c : Ceremony} {challengeId : Bytes} (credentialId : Bytes) (count : UInt32)
    (hc : s.ceremonies.get? challengeId = some c) (hkind : c.kind = .create) :
    (s.perform now (.moveCounter credentialId count challengeId)).1 = s := by
  apply moveCounter_fst_of_not_logsIn
  intro stored credential due
  have hsame : c = stored := Option.some.inj (hc.symm.trans due.live.1)
  have := due.kind
  rw [← hsame, hkind] at this
  cases this

/-- A ceremony admits a credential if it is bound to none or to that one. -/
theorem admits_iff {c : Ceremony} {credentialId : Bytes} :
    c.admits credentialId = true ↔ c.credentialId = none ∨ c.credentialId = some credentialId := by
  unfold Ceremony.admits
  cases c.credentialId <;> simp

/-- Whatever is completed was begun: a registration by a registration ceremony of its session, a
login by a login ceremony that admits its credential. Both were put earlier, stood in the store ever
since and are live. -/
theorem commit_provenance (calls : List TimedCall) (now : UInt64) :
    (∀ ceremony credential,
      ((empty.run calls).perform now (.writeCredential ceremony credential)).2 = .ok () →
        ∃ c, StandsSincePut calls c ∧ c.challengeId = ceremony.challengeId ∧ c.kind = .create ∧
          c.sessionId = ceremony.sessionId ∧
          now.toNat < min (c.createdAt.toNat + c.ttl.toNat) (UInt64.size - 1)) ∧
    (∀ credentialId count challengeId,
      ((empty.run calls).perform now (.moveCounter credentialId count challengeId)).2 = .ok () →
        (∃ c, StandsSincePut calls c ∧ c.challengeId = challengeId ∧ c.kind = .get ∧
          (c.credentialId = none ∨ c.credentialId = some credentialId) ∧
          now.toNat < min (c.createdAt.toNat + c.ttl.toNat) (UInt64.size - 1)) ∧
        ∃ registered start later, RegistersThen calls registered start later ∧
          registered.rawId = credentialId) ∧
    (∀ challengeId c, (empty.run calls).ceremonies.get? challengeId = some c →
      (c.kind = .create → ∀ credentialId count,
        ((empty.run calls).perform now (.moveCounter credentialId count challengeId)).1 =
          empty.run calls) ∧
      (c.kind = .get → ∀ ceremony credential, ceremony.challengeId = challengeId →
        ((empty.run calls).perform now (.writeCredential ceremony credential)).1 =
          empty.run calls)) := by
  have keyed := keyed_run calls
  refine ⟨?_, ?_, ?_⟩
  · intro ceremony credential hok
    obtain ⟨c, due⟩ := write_eq_ok.mp hok
    exact ⟨c, standsSincePut_of_stored due.live.1, keyed.ceremonies due.live.1, due.kind, due.session,
      due.live.2⟩
  · intro credentialId count challengeId hok
    obtain ⟨c, credential, due, _⟩ := moveCounter_eq_ok.mp hok
    exact ⟨⟨c, standsSincePut_of_stored due.live.1, keyed.ceremonies due.live.1, due.kind,
      admits_iff.mp due.admits, due.live.2⟩, registersThen_of_stored due.found⟩
  · intro challengeId c hc
    refine ⟨?_, ?_⟩
    · intro hkind credentialId count
      exact move_fst_of_create credentialId count hc hkind
    · rintro hkind ceremony credential rfl
      exact write_fst_of_get credential hc hkind

def sampleCredential : Credential :=
  .ofAttested ⟨⟨List.replicate 16 0, rfl⟩, [9], [0xa0]⟩ 0 "session" 1

def sampleRegistration : Ceremony := .begin [1] "session" .create none 0

def sampleLogin : Ceremony := .begin [2] "session" .get (some [9]) 2

def sampleCalls : List TimedCall :=
  [⟨0, .putCeremony sampleRegistration⟩, ⟨1, .writeCredential sampleRegistration sampleCredential⟩,
    ⟨2, .putCeremony sampleLogin⟩]

theorem commit_provenance_sample :
    (∃ c, StandsSincePut [⟨0, .putCeremony sampleRegistration⟩] c ∧ c.challengeId = [1] ∧
      c.kind = .create) ∧
    (∃ c, StandsSincePut sampleCalls c ∧ c.challengeId = [2] ∧ c.kind = .get) ∧
    (∃ registered start later, RegistersThen sampleCalls registered start later ∧
      registered.rawId = [9]) ∧
    ((empty.run sampleCalls).perform 3 (.writeCredential sampleLogin sampleCredential)).1 =
      empty.run sampleCalls ∧
    ((empty.run [⟨0, .putCeremony sampleRegistration⟩]).perform 1 (.moveCounter [9] 5 [1])).1 =
      empty.run [⟨0, .putCeremony sampleRegistration⟩] := by
  have hwritten : ((empty.run [⟨0, .putCeremony sampleRegistration⟩]).perform 1
      (.writeCredential sampleRegistration sampleCredential)).2 = .ok () := rfl
  have hmoved : ((empty.run sampleCalls).perform 3 (.moveCounter [9] 5 [2])).2 = .ok () := rfl
  have hbegun : (empty.run [⟨0, .putCeremony sampleRegistration⟩]).ceremonies.get? [1] =
      some sampleRegistration := rfl
  have hlogin : (empty.run sampleCalls).ceremonies.get? [2] = some sampleLogin := rfl
  obtain ⟨registration, _, unmoved⟩ := commit_provenance [⟨0, .putCeremony sampleRegistration⟩] 1
  obtain ⟨_, login, unwritten⟩ := commit_provenance sampleCalls 3
  obtain ⟨c, hput, hid, hkind, _⟩ := registration _ _ hwritten
  obtain ⟨⟨d, hput', hid', hkind', _⟩, hregistered⟩ := login _ _ _ hmoved
  exact ⟨⟨c, hput, hid, hkind⟩, ⟨d, hput', hid', hkind'⟩, hregistered,
    (unwritten _ _ hlogin).2 rfl _ _ rfl, (unmoved _ _ hbegun).1 rfl _ _⟩

end RelyingParty.Store
