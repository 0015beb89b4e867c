import RelyingParty.Proofs.Assertion.Verification
import RelyingParty.Proofs.Base64
import RelyingParty.Proofs.ClientData
import RelyingParty.Proofs.Json.Record
import RelyingParty.Proofs.Key.Cose
import RelyingParty.Proofs.Registration.Verification

namespace RelyingParty

namespace ClientData

def write (kind : CeremonyKind) (challenge : Bytes) (origin : String) (crossOrigin : Bool) : Bytes :=
  Bytes.ofText (Json.Value.object [("type", .text kind.clientDataType), ("challenge", .bytes challenge),
    ("origin", .text origin), ("crossOrigin", .bool crossOrigin)]).compact

theorem fills_write (type challenge origin : String) (crossOrigin : Bool) :
    Json.Fills format.fields format.empty [("type", .text type), ("challenge", .text challenge),
      ("origin", .text origin), ("crossOrigin", .bool crossOrigin)]
      ⟨some type, some challenge, some origin, none, some crossOrigin⟩ :=
  .cons rfl rfl (Json.readsBack_text type) <|
    .cons rfl rfl (Json.readsBack_text challenge) <|
      .cons rfl rfl (Json.readsBack_text origin) <|
        .cons rfl rfl (Json.readsBack_bool crossOrigin) (.nil _)

theorem ofJson_write (kind : CeremonyKind) (challenge : Bytes) (origin : String) (crossOrigin : Bool) :
    ofJson (write kind challenge origin crossOrigin) =
      .ok ⟨kind.clientDataType, challenge, origin, none, crossOrigin⟩ := by
  have hread := ((fills_write kind.clientDataType (Base64.urlSafe.encode challenge) origin crossOrigin).reads rfl
    (Json.renders_compact _)).readAll
  rw [write, Json.Value.ofText_compact, ofJson, Json.Value.bytes, hread]
  simp only [Base64.decodeUrl?_encode, Option.join_none, Option.getD_some]

theorem check_write (kind : CeremonyKind) (challenge : Bytes) (origin : String) (crossOrigin : Bool) :
    check ⟨kind.clientDataType, challenge, origin, none, crossOrigin⟩ challenge kind origin = .ok () := by
  have hsame : WebOrigin.sameOrigin origin origin = true := beq_self_eq_true _
  exact check_eq_ok.mpr ⟨rfl, rfl, hsame, nofun⟩

end ClientData

/-- An authenticator with the credential that it has made. -/
structure Device where
  aaguid : FixedBytes 16
  credentialId : Bytes
  id_le : credentialId.length ≤ AttestedCredential.maxIdLength
  key : PublicKey
  made : key.Made
  fits : key.toCose.length < Nat.pow 2 63

namespace Device

def attested (d : Device) : AttestedCredential := ⟨d.aaguid, d.credentialId, d.key.toCose⟩

/-- What the device attests of its credential; the user is present and verified. -/
def creationData (d : Device) (party : Party) (count : UInt32) : AuthenticatorData :=
  ⟨idHash party.id, ⟨0x45⟩, count, some d.attested, none⟩

def loginData (party : Party) (count : UInt32) : AuthenticatorData :=
  ⟨idHash party.id, ⟨0x05⟩, count, none, none⟩

def attestationObject (ad : Bytes) : Bytes :=
  (Cbor.Item.map [(.text "fmt", .text AttestationFormat.none.name), (.text "attStmt", .map []),
    (.text "authData", .bytes ad)]).encode

structure MakesCredential (d : Device) (party : Party) (challenge : Bytes) (count : UInt32)
    (request : RegistrationRequest) : Prop where
  clientData : ∃ crossOrigin,
    request.clientData = ClientData.write .create challenge party.origin crossOrigin
  object : ∃ ad, (d.creationData party count).toBytes = .ok ad ∧
    request.attestationObject = attestationObject ad
  credentialId : ∀ id, request.credentialId = some id → id = d.credentialId

structure GetsAssertion (d : Device) (party : Party) (challenge : Bytes) (count : UInt32)
    (request : AssertionRequest) : Prop where
  credentialId : request.credentialId = d.credentialId
  clientData : ∃ crossOrigin,
    request.clientData = ClientData.write .get challenge party.origin crossOrigin
  signedClientData : request.signedClientData = none
  payload : ∃ ad signature, (loginData party count).toBytes = .ok ad ∧
    request.payload.parts = .ok (ad, signature) ∧
    d.key.verify (ad ++ (sha256 request.clientData).bytes) signature = .ok true

/-- The stored credential is the device's, and its counter stands at `count`. -/
structure Holds (d : Device) (credential : Credential) (count : UInt32) : Prop where
  rawId : credential.rawId = d.credentialId
  publicKey : credential.publicKey = d.key.toCose
  attestationType : credential.attestationType = .none
  signCounter : credential.signCounter = count

variable {d : Device} {party : Party} {challenge ad : Bytes} {count : UInt32}

theorem cose_lt (d : Device) : d.key.toCose.length < UInt64.size :=
  Nat.lt_of_lt_of_le d.fits (by decide)

theorem creationData_wellFormed (d : Device) (party : Party) (count : UInt32) :
    (d.creationData party count).WellFormed false where
  attested := by
    have hflag : (⟨0x45⟩ : Flags).attestedData = true := by decide
    have hwell : d.attested.WellFormed := ⟨d.id_le, _, PublicKey.decode_toCose d.cose_lt⟩
    exact (if_pos hflag).mpr (.inl ⟨d.attested, rfl, hwell⟩)
  extensions := by
    have hflag : ¬ (⟨0x45⟩ : Flags).extensionData = true := by decide
    exact (if_neg hflag).mpr rfl

theorem loginData_wellFormed (party : Party) (count : UInt32) (mayBeMissing : Bool) :
    (loginData party count).WellFormed mayBeMissing where
  attested := by
    have hflag : ¬ (⟨0x05⟩ : Flags).attestedData = true := by decide
    exact (if_neg hflag).mpr rfl
  extensions := by
    have hflag : ¬ (⟨0x05⟩ : Flags).extensionData = true := by decide
    exact (if_neg hflag).mpr rfl

theorem toBytes_creationData (d : Device) (party : Party) (count : UInt32) :
    (d.creationData party count).toBytes = .ok ((idHash party.id).bytes ++ 0x45 :: Bytes.ofNat 4 count.toNat ++
      (d.aaguid.bytes ++ Bytes.ofNat 2 d.credentialId.length ++ d.credentialId ++ d.key.toCose)) := by
  have hattested : d.attested.toBytes = .ok _ := AttestedCredential.toBytes_eq_ok.mpr ⟨d.id_le, rfl⟩
  exact AuthenticatorData.toBytes_eq_ok.mpr ⟨_, hattested, (List.append_nil _).symm⟩

theorem toBytes_loginData (party : Party) (count : UInt32) :
    (loginData party count).toBytes =
      .ok ((idHash party.id).bytes ++ 0x05 :: Bytes.ofNat 4 count.toNat) := by
  rw [AuthenticatorData.toBytes, loginData]
  simp only [ok_bind, List.append_nil, Option.getD_none]

theorem creationData_lt (h : (d.creationData party count).toBytes = .ok ad) : ad.length < UInt64.size := by
  have hid := d.id_le
  have hkey : d.key.toCose.length < 9223372036854775808 := d.fits
  obtain rfl := Except.ok.inj (h.symm.trans (d.toBytes_creationData party count))
  simp only [List.length_append, List.length_cons, Bytes.length_ofNat, FixedBytes.length_eq,
    AttestedCredential.maxIdLength, UInt64.size] at hid ⊢
  omega

theorem ofCbor_attestationObject {data : AuthenticatorData} (hlt : ad.length < UInt64.size)
    (hparse : AuthenticatorData.parse ad false = .ok data) (hattested : data.attested.isSome = true) :
    Attestation.Object.ofCbor (attestationObject ad) = .ok ⟨.none, ad, data, []⟩ := by
  have hformat : (Bytes.ofText AttestationFormat.none.name).length < UInt64.size := by decide
  have hwritable : Cbor.Writable Cbor.depthLimit (.map [(.text "fmt", .text AttestationFormat.none.name),
      (.text "attStmt", .map []), (.text "authData", .bytes ad)]) := by
    refine .map (Nat.lt_of_lt_of_le (Nat.lt_add_one 3) (by decide)) ?_ ?_
    · simp only [List.forall_mem_cons, List.not_mem_nil, false_implies, implies_true, and_true]
      exact ⟨.text (by decide), .text (by decide), .text (by decide)⟩
    · simp only [List.forall_mem_cons, List.not_mem_nil, false_implies, implies_true, and_true]
      exact ⟨.text hformat, .map (by decide) nofun nofun, .bytes hlt⟩
  exact Attestation.Object.ofCbor_eq_ok.mpr
    ⟨_, Cbor.decodeMap_encode hwritable, rfl, rfl, rfl, hparse, hattested⟩

theorem MakesCredential.accepted {request : RegistrationRequest}
    (h : d.MakesCredential party challenge count request) (settings : RegistrationSettings) :
    ∃ ad, AuthenticatorData.parse ad false = .ok (d.creationData party count) ∧
      request.Accepted challenge party settings .none ad d.attested [] := by
  obtain ⟨ad, had, hobject⟩ := h.object
  have hparse := AuthenticatorData.parse_of_wellFormed had (d.creationData_wellFormed party count)
  obtain ⟨hhash, hflags, _⟩ := AuthenticatorData.parse_fixed hparse
  obtain ⟨crossOrigin, hclientData⟩ := h.clientData
  have hread := ofCbor_attestationObject (creationData_lt had) hparse rfl
  obtain ⟨members, hmembers, hformat, hdata, hstatement, _⟩ := Attestation.Object.ofCbor_eq_ok.mp hread
  refine ⟨ad, hparse, ?_⟩
  exact {
    clientData := ⟨_, hclientData ▸ ClientData.ofJson_write .., ClientData.check_write ..⟩
    object := ⟨members, hobject ▸ hmembers, hformat, hdata, hstatement⟩
    authData := ⟨_, hparse, rfl⟩
    party := hhash.symm
    userPresence := fun _ => hflags ▸ (by decide : (⟨0x45⟩ : Flags).userPresent = true)
    userVerification := fun _ => hflags ▸ (by decide : (⟨0x45⟩ : Flags).userVerified = true)
    claimedId := h.credentialId
    statement := ⟨{}, Attestation.checkNone_eq_ok.mpr ⟨rfl, rfl⟩⟩ }

theorem MakesCredential.verify {request : RegistrationRequest}
    (h : d.MakesCredential party challenge count request) (settings : RegistrationSettings)
    (now : UInt64) : ∃ credential, request.verify challenge party settings now = .ok credential ∧
      d.Holds credential count := by
  obtain ⟨ad, hparse, haccepted⟩ := h.accepted settings
  obtain ⟨_, _, hcounter⟩ := AuthenticatorData.parse_fixed hparse
  have hchecked : Attestation.checkStatement settings .none (request.statement ad d.attested []) = .ok {} :=
    Attestation.checkNone_eq_ok.mpr ⟨rfl, rfl⟩
  have hissues : request.Issues .none ad d.attested [] now _ :=
    (RegistrationRequest.issues_iff hchecked).mpr rfl
  refine ⟨_, RegistrationRequest.verify_of_accepted haccepted hissues, ?_⟩
  exact ⟨rfl, rfl, rfl, hcounter.symm⟩

theorem GetsAssertion.verify {request : AssertionRequest}
    (h : d.GetsAssertion party challenge count request) {credential : Credential} {stored : UInt32}
    (hstored : d.Holds credential stored) {policy : Policy}
    (hcount : policy.counter.accepts stored count = true) :
    request.verify challenge credential party policy = .ok ⟨count, true, true⟩ := by
  obtain ⟨ad, signature, had, hparts, hsigned⟩ := h.payload
  have hparse := AuthenticatorData.parse_of_wellFormed had
    (loginData_wellFormed party count request.useSavedAttestedData)
  obtain ⟨hhash, hflags, hcounter⟩ := AuthenticatorData.parse_fixed hparse
  obtain ⟨crossOrigin, hclientData⟩ := h.clientData
  have hkey : PublicKey.ofCose credential.publicKey = .ok d.key := by
    rw [hstored.publicKey]
    exact PublicKey.ofCose_toCose d.made.wellFormed d.cose_lt
  have hsigns : request.Signs credential (request.message ad) signature := by
    rw [AssertionRequest.message, h.signedClientData, Option.getD_none]
    unfold AssertionRequest.Signs
    rw [hstored.attestationType]
    exact ⟨d.key, hkey, hsigned⟩
  have hpresent : (AuthenticatorData.flagsAt ad).userPresent = true :=
    hflags ▸ (by decide : (⟨0x05⟩ : Flags).userPresent = true)
  have hverified : (AuthenticatorData.flagsAt ad).userVerified = true :=
    hflags ▸ (by decide : (⟨0x05⟩ : Flags).userVerified = true)
  have hattested : (AuthenticatorData.flagsAt ad).attestedData = false :=
    hflags ▸ (by decide : (⟨0x05⟩ : Flags).attestedData = false)
  have haccepted : request.Accepted challenge credential party policy ad signature := {
    credentialId := h.credentialId.trans hstored.rawId.symm
    payload := hparts
    clientData := ⟨_, hclientData ▸ ClientData.ofJson_write .., ClientData.check_write ..⟩
    party := .inl hhash.symm
    userPresence := fun _ => hpresent
    userVerification := fun _ => hverified
    counter := by rwa [hstored.signCounter, ← hcounter]
    authData := ⟨_, hparse, .inr (.inr hattested)⟩
    signature := hsigns }
  rw [AssertionRequest.verify_of_accepted haccepted, VerifiedAssertion.ofBytes, hpresent, hverified, ← hcounter]
  rfl

end Device

end RelyingParty
