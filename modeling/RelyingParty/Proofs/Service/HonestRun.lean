import Mathlib.Data.List.Nodup
import RelyingParty.Proofs.Registration.StoredKey
import RelyingParty.Proofs.Service.Device
import RelyingParty.Proofs.Service.Sessions
import RelyingParty.Proofs.Store.Provenance

namespace RelyingParty

/-- What the party does with its store. -/
inductive Act where
  | begin (c : Ceremony)
  | register (now : UInt64) (challengeId : Bytes) (request : RegistrationRequest)
  | login (now : UInt64) (challengeId : Bytes) (request : AssertionRequest)

/-- The ceremony that an act begins. -/
def Act.begun? : Act → Option Ceremony
  | begin c => some c
  | _ => none

/-- The store after an act, unless the act is refused. -/
def Store.act (party : Party) (settings : RegistrationSettings) (s : Store) : Act → Except ServiceError Store
  | .begin c => (s.putCeremony c).mapError .store
  | .register now challengeId request => (s.register now challengeId request party settings).map (·.1)
  | .login now challengeId request =>
    match s.login now challengeId request party settings.policy with
    | (s', .ok _) => .ok s'
    | (_, .error e) => .error e

/-- Acts of a party with a device that keeps to the protocol. `begun` are the ceremonies that wait for their
completion and `counter` is that of the credential, once it is registered; `last` is the counter at the end.
Each ceremony is completed once, before it expires; the counters follow each other as the policy has it. -/
inductive Honest (d : Device) (party : Party) (policy : CounterPolicy) :
    (begun : List Ceremony) → (counter : Option UInt32) → List Act → (last : UInt32) → Prop
  | done {begun : List Ceremony} (last : UInt32) : Honest d party policy begun (some last) [] last
  | begin {begun : List Ceremony} {counter : Option UInt32} {acts : List Act} {last : UInt32}
    (c : Ceremony) (rest : Honest d party policy (c :: begun) counter acts last) :
    Honest d party policy begun counter (.begin c :: acts) last
  | register {begun : List Ceremony} {acts : List Act} {last first : UInt32} {c : Ceremony} {now : UInt64}
    {request : RegistrationRequest} (waits : c ∈ begun) (kind : c.kind = .create)
    (live : now.toNat < c.expiry) (made : d.MakesCredential party c.challengeId first request)
    (rest : Honest d party policy (begun.erase c) (some first) acts last) :
    Honest d party policy begun none (.register now c.challengeId request :: acts) last
  | login {begun : List Ceremony} {acts : List Act} {last stored count : UInt32} {c : Ceremony}
    {now : UInt64} {request : AssertionRequest} (waits : c ∈ begun) (kind : c.kind = .get)
    (admits : c.admits d.credentialId = true) (live : now.toNat < c.expiry)
    (made : d.GetsAssertion party c.challengeId count request)
    (accepts : policy.accepts stored count = true)
    (rest : Honest d party policy (begun.erase c) (some count) acts last) :
    Honest d party policy begun (some stored) (.login now c.challengeId request :: acts) last

namespace Store

def HasCredential (s : Store) (d : Device) : Option UInt32 → Prop
  | none => s.credentials.get? d.credentialId = none
  | some count => ∃ credential, s.credentials.get? d.credentialId = some credential ∧ d.Holds credential count

/-- The ceremonies that wait are stored, those to come are not, and no two have one challenge. -/
structure Waits (s : Store) (begun coming : List Ceremony) : Prop where
  stored : ∀ c ∈ begun, s.ceremonies.get? c.challengeId = some c
  free : ∀ c ∈ coming, s.ceremonies.get? c.challengeId = none
  distinct : ((begun ++ coming).map Ceremony.challengeId).Nodup

variable {s s' : Store} {d : Device} {party : Party} {settings : RegistrationSettings} {now : UInt64}
  {begun coming : List Ceremony} {c : Ceremony}

theorem Waits.put (h : s.Waits begun (c :: coming)) :
    s.putCeremony c = .ok { s with ceremonies := s.ceremonies.insert c.challengeId c } ∧
      ({ s with ceremonies := s.ceremonies.insert c.challengeId c } : Store).Waits (c :: begun) coming := by
  have hfree := h.free c List.mem_cons_self
  have hdistinct : ((c :: (begun ++ coming)).map Ceremony.challengeId).Nodup :=
    (List.perm_middle.map _).nodup_iff.mp h.distinct
  have hother : ∀ other ∈ begun ++ coming, other.challengeId ≠ c.challengeId := by
    intro other hmem heq
    exact (List.nodup_cons.mp hdistinct).1 (List.mem_map.mpr ⟨other, hmem, heq⟩)
  refine ⟨putCeremony_eq_ok.mpr ⟨hfree, rfl⟩, ?_, ?_, hdistinct⟩
  · intro other hmem
    rcases List.mem_cons.mp hmem with rfl | hmem
    · exact Table.get?_insert_self ..
    · rw [Table.get?_insert_of_ne _ _ (hother other (List.mem_append_left _ hmem))]
      exact h.stored other hmem
  · intro other hmem
    rw [Table.get?_insert_of_ne _ _ (hother other (List.mem_append_right _ hmem))]
    exact h.free other (List.mem_cons_of_mem c hmem)

theorem Waits.complete (h : s.Waits begun coming) (hc : c ∈ begun)
    (hs' : s'.ceremonies = s.ceremonies.erase c.challengeId) : s'.Waits (begun.erase c) coming := by
  have hsub : (begun.erase c ++ coming).Sublist (begun ++ coming) := List.erase_sublist.append_right coming
  have hinj := List.inj_on_of_nodup_map h.distinct
  have hbegun : begun.Nodup := h.distinct.of_map.sublist (List.sublist_append_left begun coming)
  refine ⟨?_, ?_, h.distinct.sublist (hsub.map _)⟩
  · intro other hmem
    obtain ⟨hne, hmem⟩ := hbegun.mem_erase_iff.mp hmem
    have hid : other.challengeId ≠ c.challengeId := fun heq =>
      hne (hinj (List.mem_append_left _ hmem) (List.mem_append_left _ hc) heq)
    rw [hs', Table.get?_erase_of_ne _ hid]
    exact h.stored other hmem
  · intro other hmem
    rw [hs']
    by_cases hid : other.challengeId = c.challengeId
    · rw [hid, Table.get?_erase_self]
    · rw [Table.get?_erase_of_ne _ hid]
      exact h.free other hmem

theorem register_of_made {request : RegistrationRequest} {count : UInt32}
    (hstored : s.ceremonies.get? c.challengeId = some c) (hkind : c.kind = .create)
    (hlive : now.toNat < c.expiry) (hmade : d.MakesCredential party c.challengeId count request)
    (hunknown : s.HasCredential d none) :
    ∃ s', s.act party settings (.register now c.challengeId request) = .ok s' ∧
      s'.ceremonies = s.ceremonies.erase c.challengeId ∧ s'.HasCredential d (some count) := by
  obtain ⟨credential, hverified, hholds⟩ := hmade.verify settings now
  have hid := hholds.rawId
  have hfresh : s.credentials.get? credential.rawId = none := hid ▸ hunknown
  have hwritten := writeCredential_eq_ok.mpr ⟨⟨c, ⟨hstored, hlive⟩, rfl, hkind, hfresh⟩, rfl⟩
  have hregister : s.act party settings (.register now c.challengeId request) =
      .ok ⟨s.ceremonies.erase c.challengeId, s.credentials.insert credential.rawId credential⟩ := by
    rw [act, register_eq_ok.mpr ⟨c, ⟨hstored, hlive⟩, hverified, hwritten⟩]
    rfl
  refine ⟨_, hregister, rfl, credential, ?_, hholds⟩
  rw [← hid]
  exact Table.get?_insert_self ..

theorem login_of_made {request : AssertionRequest} {stored count : UInt32}
    (hstored : s.ceremonies.get? c.challengeId = some c) (hkind : c.kind = .get)
    (hadmits : c.admits d.credentialId = true) (hlive : now.toNat < c.expiry)
    (hmade : d.GetsAssertion party c.challengeId count request)
    (haccepts : settings.policy.counter.accepts stored count = true)
    (hknown : s.HasCredential d (some stored)) :
    ∃ s', s.act party settings (.login now c.challengeId request) = .ok s' ∧
      s'.ceremonies = s.ceremonies.erase c.challengeId ∧ s'.HasCredential d (some count) := by
  obtain ⟨credential, hfound, hholds⟩ := hknown
  have hid := hmade.credentialId
  have hasked : s.ceremonyAndCredential now c.challengeId request.credentialId = .ok (c, credential) :=
    ceremonyAndCredential_eq_ok.mpr ⟨⟨hstored, hlive⟩, hid ▸ hadmits, hid ▸ hfound⟩
  have hverified := hmade.verify hholds haccepts
  have hle : credential.signCounter ≤ count :=
    hholds.signCounter ▸ CounterPolicy.le_of_accepts haccepts
  have hlogsIn : s.LogsIn now request.credentialId c.challengeId c credential :=
    ⟨⟨hstored, hlive⟩, hkind, hid ▸ hadmits, hid ▸ hfound⟩
  have hmoved := moveCounter_of_le hlogsIn hle
  have hlogin : s.act party settings (.login now c.challengeId request) =
      .ok ⟨s.ceremonies.erase c.challengeId, s.credentials.insert request.credentialId
        { credential with signCounter := count, updatedAt := now }⟩ := by
    rw [act, login, hasked]
    simp only [hverified, hmoved]
  refine ⟨_, hlogin, rfl, { credential with signCounter := count, updatedAt := now }, ?_, ?_⟩
  · rw [← hid]
    exact Table.get?_insert_self ..
  · exact ⟨hholds.rawId, hholds.publicKey, hholds.attestationType, rfl⟩

end Store

variable {d : Device} {party : Party} {settings : RegistrationSettings} {s : Store} {begun : List Ceremony}
  {counter : Option UInt32} {acts : List Act} {last : UInt32}

/-- Every act of an honest run is taken, and the counter is the last one at its end. -/
theorem Honest.run (h : Honest d party settings.policy.counter begun counter acts last)
    (hwaits : s.Waits begun (acts.filterMap Act.begun?)) (hcredential : s.HasCredential d counter) :
    ∃ s', acts.foldlM (Store.act party settings) s = .ok s' ∧ s'.HasCredential d (some last) := by
  -- over the acts; the store has the ceremonies and the credential that the acts to come ask for
  induction h generalizing s with
  | done last => exact ⟨s, rfl, hcredential⟩
  | begin c rest ih =>
    obtain ⟨hput, hwaits⟩ := hwaits.put
    obtain ⟨s', hrun, hlast⟩ := ih hwaits hcredential
    refine ⟨s', ?_, hlast⟩
    rw [List.foldlM_cons, Store.act, hput]
    exact hrun
  | register waits kind live made rest ih =>
    obtain ⟨s₁, hact, hgone, hknown⟩ :=
      Store.register_of_made (hwaits.stored _ waits) kind live made hcredential
    obtain ⟨s', hrun, hlast⟩ := ih (hwaits.complete waits hgone) hknown
    exact ⟨s', by rw [List.foldlM_cons, hact]; exact hrun, hlast⟩
  | login waits kind admits live made accepts rest ih =>
    obtain ⟨s₁, hact, hgone, hknown⟩ :=
      Store.login_of_made (hwaits.stored _ waits) kind admits live made accepts hcredential
    obtain ⟨s', hrun, hlast⟩ := ih (hwaits.complete waits hgone) hknown
    exact ⟨s', by rw [List.foldlM_cons, hact]; exact hrun, hlast⟩

/-- The authenticator data of a registration can always be written. A run that starts with a store without
the credential and without the challenges is never refused, and at its end the stored counter is the last
one. -/
theorem honest_run_succeeds (d : Device) (party : Party) :
    (∀ count, ∃ ad, (d.creationData party count).toBytes = .ok ad) ∧
    ∀ (settings : RegistrationSettings) (s : Store) (acts : List Act) (last : UInt32),
      s.credentials.get? d.credentialId = none →
      (∀ c ∈ acts.filterMap Act.begun?, s.ceremonies.get? c.challengeId = none) →
      ((acts.filterMap Act.begun?).map Ceremony.challengeId).Nodup →
      Honest d party settings.policy.counter [] none acts last →
      ∃ s' credential, acts.foldlM (Store.act party settings) s = .ok s' ∧
        s'.credential d.credentialId = .ok credential ∧ d.Holds credential last := by
  refine ⟨fun count => (d.creationData_wellFormed party count).exists_toBytes, ?_⟩
  intro settings s acts last hunknown hfree hdistinct honest
  obtain ⟨s', hrun, credential, hfound, hholds⟩ := honest.run ⟨nofun, hfree, hdistinct⟩ hunknown
  exact ⟨s', credential, hrun, Store.credential_eq_ok.mpr hfound, hholds⟩

open RegistrationRequest (sampleParty sampleSettings)

def sampleDeviceKey : PublicKey :=
  .rsa .rs256 (Bytes.ofNat 64
    0xd12e18c19406f0715000f80b620d2d1ac2be3fff48e6b07e9997835c0392445c3235574c035f3a21e1d34566bd3cee5f76ccbe6e87d2e401d3fef4b41c2e9fd1)
    [3]

theorem sampleDeviceKey_fits : sampleDeviceKey.toCose.length < Nat.pow 2 63 := by decide +kernel

theorem sampleDeviceKey_made : sampleDeviceKey.Made :=
  .cose (PublicKey.ofCose_toCose (.rsa _ _) (Nat.lt_of_lt_of_le sampleDeviceKey_fits (by decide)))

def sampleDevice : Device where
  aaguid := Store.sampleCredential.aaguid
  credentialId := [9]
  id_le := Nat.le_of_ble_eq_true rfl
  key := sampleDeviceKey
  made := sampleDeviceKey_made
  fits := sampleDeviceKey_fits

def sampleMade : RegistrationRequest where
  clientData := ClientData.write .create [1] "b" false
  attestationObject := Device.attestationObject ((idHash "a").bytes ++ 0x45 :: Bytes.ofNat 4 0 ++
    (sampleDevice.aaguid.bytes ++ Bytes.ofNat 2 1 ++ [9] ++ sampleDeviceKey.toCose))
  signedClientData := none
  credentialId := some [9]
  sessionId := "session"

theorem sampleMade_makesCredential : sampleDevice.MakesCredential sampleParty [1] 0 sampleMade where
  clientData := ⟨false, rfl⟩
  object := ⟨_, Device.toBytes_creationData .., rfl⟩
  credentialId := fun _ h => (Option.some.inj h).symm

def sampleGot (clientData : Bytes) (count : UInt32) (signature : Nat) : AssertionRequest where
  clientData := clientData
  payload := .split ((idHash sampleParty.id).bytes ++ 0x05 :: Bytes.ofNat 4 count.toNat)
    (Bytes.ofNat 64 signature)
  signedClientData := none
  credentialId := [9]
  useSavedAttestedData := false
  appIdExtension := false

def sampleFirst : AssertionRequest := sampleGot (ClientData.write .get [2] "b" false) 0
  0xa17ecb09c37e69cad772ca50b2f29a45e70b8f368e4503bc30c3a1967ee10a55696896ee2dea8bea90761ae717a01bce38b9f31320353599a7a679b7794ad4f7

def sampleSecond : AssertionRequest := sampleGot (ClientData.write .get [3] "b" false) 4
  0xb14b7ac1c5af4021f4ccd261cb268711afe5b1405746ac4c3a76f197fe698f3b6630f84d6d1096507d6c1639f507648595257fe948a6057d159d186f4a32b638

theorem sampleGot_getsAssertion {challenge clientData : Bytes} {count : UInt32} {signature : Nat}
    (hclientData : ∃ crossOrigin, clientData = ClientData.write .get challenge sampleParty.origin crossOrigin)
    (hsigned : sampleDeviceKey.verify ((idHash sampleParty.id).bytes ++ 0x05 :: Bytes.ofNat 4 count.toNat ++
      (sha256 clientData).bytes) (Bytes.ofNat 64 signature) = .ok true) :
    sampleDevice.GetsAssertion sampleParty challenge count (sampleGot clientData count signature) where
  credentialId := rfl
  clientData := hclientData
  signedClientData := rfl
  payload := ⟨_, _, Device.toBytes_loginData .., rfl, hsigned⟩

def sampleNextLogin : Ceremony := .begin [3] "session" .get none 6

def sampleActs : List Act :=
  [.begin Store.sampleRegistration, .begin Store.sampleLogin, .register 5 [1] sampleMade,
    .login 6 [2] sampleFirst, .begin sampleNextLogin, .login 7 [3] sampleSecond]

theorem honest_run_succeeds_sample :
    let settings : RegistrationSettings := { sampleSettings with policy := ⟨true, true, .strictlyIncreasing⟩ }
    ∃ s' credential, sampleActs.foldlM (Store.act sampleParty settings) Store.empty = .ok s' ∧
      s'.credential [9] = .ok credential ∧ sampleDevice.Holds credential 4 := by
  intro settings
  have hfirst : sampleDevice.GetsAssertion sampleParty [2] 0 sampleFirst :=
    sampleGot_getsAssertion ⟨false, rfl⟩ (by decide +kernel)
  have hsecond : sampleDevice.GetsAssertion sampleParty [3] 4 sampleSecond :=
    sampleGot_getsAssertion ⟨false, rfl⟩ (by decide +kernel)
  have honest : Honest sampleDevice sampleParty settings.policy.counter [] none sampleActs 4 := by
    have hends : Honest sampleDevice sampleParty settings.policy.counter [sampleNextLogin] (some 0)
        [.login 7 sampleNextLogin.challengeId sampleSecond] 4 :=
      .login List.mem_cons_self rfl rfl (by decide) hsecond (by decide) (.done 4)
    have hlogins : Honest sampleDevice sampleParty settings.policy.counter [Store.sampleLogin] (some 0)
        (.login 6 Store.sampleLogin.challengeId sampleFirst :: .begin sampleNextLogin ::
          [.login 7 sampleNextLogin.challengeId sampleSecond]) 4 :=
      .login List.mem_cons_self rfl rfl (by decide) hfirst (by decide) (.begin _ hends)
    exact .begin _ (.begin _ (.register (c := Store.sampleRegistration) (by decide) rfl (by decide)
      sampleMade_makesCredential hlogins))
  obtain ⟨_, succeeds⟩ := honest_run_succeeds sampleDevice sampleParty
  exact succeeds settings Store.empty sampleActs 4 rfl (fun _ _ => rfl) (by decide) honest

end RelyingParty
