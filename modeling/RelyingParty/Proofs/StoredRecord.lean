import RelyingParty.Ceremony.Basic
import RelyingParty.CommandLine.Run
import RelyingParty.Proofs.ByteMembers
import RelyingParty.Proofs.Json.Record
import RelyingParty.Proofs.Json.Unambiguous
import RelyingParty.Proofs.Registration.StoredKey

namespace RelyingParty

open Json

def Json.Value.texts (v : Value) : List String := [v.compact, v.pretty]

theorem Json.renders_texts {v : Value} {text : String} (h : text ∈ v.texts) : Renders v (Bytes.ofText text) := by
  obtain rfl | htext := List.mem_cons.mp h
  · rw [Value.ofText_compact]
    exact renders_compact v
  · rw [List.mem_singleton.mp htext, Value.ofText_pretty]
    exact renders_pretty v 0

def Json.HasMember (name : String) (w : Bytes) : Prop :=
  ∃ members, IsObject members w ∧ name ∈ members.map Prod.fst

theorem Json.hasMember_iff {name : String} {members : List (String × Bytes)} {w : Bytes} (h : IsObject members w) :
    HasMember name w ↔ name ∈ members.map Prod.fst := by
  constructor
  · rintro ⟨members', h', hname⟩
    rwa [h.unique h']
  · exact fun hname => ⟨members, h, hname⟩

/-- The names of a value's members are those of its texts. -/
theorem Json.Renders.isObject {members : List (String × Value)} {w : Bytes} (h : Renders (.object members) w) :
    ∃ texts, IsObject texts w ∧ texts.map Prod.fst = members.map Prod.fst := by
  generalize hv : Value.object members = v at h
  cases h with
  | object hvalues hlayout =>
    obtain rfl := Value.object.inj hv
    refine ⟨_, ⟨List.forall_mem_map.mpr fun m hm => (hvalues m hm).isValue, hlayout⟩, ?_⟩
    simp only [List.map_map, Function.comp_def]
  | _ => cases hv

/-- A member that is left out if it is absent stands in the text exactly if it is there. -/
theorem Json.hasMember_optionalMember {α : Type} {name : String} {value : α → Value} {a : Option α}
    {before after : List (String × Value)} {w : Bytes}
    (h : Renders (.object (before ++ optionalMember name value a ++ after)) w)
    (hbefore : name ∉ before.map Prod.fst) (hafter : name ∉ after.map Prod.fst) :
    HasMember name w ↔ a.isSome = true := by
  obtain ⟨texts, hobject, hnames⟩ := h.isObject
  rw [hasMember_iff hobject, hnames, List.map_append, List.map_append, List.mem_append, List.mem_append]
  cases a with
  | none => simp [optionalMember, hbefore, hafter]
  | some a => simp [optionalMember]

theorem Json.Renders.writes_respelled {texts : String → Option String} {members : List (String × Value)} {value : Value}
    {names : List String} {name text : String} {w : Bytes} (h : Renders ((Value.object members).respell texts) w)
    (hmember : (name, value) ∈ members) (htext : texts name = some text) : Writes names name text w := by
  have hspelled : respelled texts name value = .text text := by
    rw [respelled, htext]
    rfl
  exact h.writes (List.mem_map.mpr ⟨_, hmember, by rw [hspelled]⟩)

section Stored

variable {σ α : Type} {format : RecordFormat σ α} {toJson : α → Value} {byteNames : List String}
  {byteMembers : α → List (String × Option Bytes)} {a : α} {texts : String → Option String} {w blank : Bytes}

/-- The texts that are given for byte strings decode to them. -/
def Json.Respells (texts : String → Option String) (byteMembers : List (String × Option Bytes)) : Prop :=
  ∀ m ∈ byteMembers, ∀ bytes ∈ m.2, ∀ text ∈ texts m.1, Base64.decodeUrl? text = some bytes

/-- The form in which records are stored. Of their members some are byte strings, which are written as texts and
read from any texts that decode to them. -/
structure Json.StoredAs (format : RecordFormat σ α) (toJson : α → Value) (byteNames : List String)
    (byteMembers : α → List (String × Option Bytes)) : Prop where
  fills : ∀ (a : α) (texts : String → Option String), (∀ name ∉ byteNames, texts name = none) →
    Respells texts (byteMembers a) → ∃ members filled, (toJson a).respell texts = .object members ∧
      Fills format.fields format.empty members filled ∧ format.build filled = .ok a
  writes : ∀ (a : α), ∀ m ∈ byteMembers a, ∀ bytes ∈ m.2, ∃ members, toJson a = .object members ∧
    (m.1, .bytes bytes) ∈ members
  reads : ∀ {a : α} {bs : Bytes} {text : String}, ∀ m ∈ byteMembers a, Writes format.names m.1 text bs →
    readAll format.read bs = .ok a → ∃ bytes, m.2 = some bytes ∧ Base64.decodeUrl? text = some bytes

namespace Json.StoredAs

variable (h : StoredAs format toJson byteNames byteMembers)
include h

theorem readAll_respelled (hothers : ∀ name ∉ byteNames, texts name = none) (hbytes : Respells texts (byteMembers a))
    (hw : Renders ((toJson a).respell texts) w) (hblank : IsBlank blank) :
    readAll format.read (w ++ blank) = .ok a := by
  obtain ⟨members, filled, hmembers, hfills, hbuild⟩ := h.fills a texts hothers hbytes
  rw [hmembers] at hw
  exact readAll_of_reads (hfills.reads hbuild hw) isBlank_nil hblank

/-- Whatever texts stand in the place of its byte strings, a record is read back exactly if they decode to
them. -/
theorem readAll_respelled_iff (hothers : ∀ name ∉ byteNames, texts name = none)
    (hw : Renders ((toJson a).respell texts) w) :
    readAll format.read w = .ok a ↔ Respells texts (byteMembers a) := by
  constructor
  · intro hread m hm bytes hbytes text htext
    obtain ⟨members, hmembers, hmember⟩ := h.writes a m hm bytes hbytes
    rw [hmembers] at hw
    obtain ⟨_, hheld, hdecode⟩ := h.reads m hm (hw.writes_respelled hmember htext) hread
    rwa [← Option.some.inj (hheld.symm.trans hbytes)]
  · intro hbytes
    have hread := h.readAll_respelled hothers hbytes hw isBlank_nil
    rwa [List.append_nil] at hread

theorem readAll_renders (hw : Renders (toJson a) w) (hblank : IsBlank blank) :
    readAll format.read (w ++ blank) = .ok a := by
  rw [← (toJson a).respell_none] at hw
  exact h.readAll_respelled (fun _ _ => rfl) (fun _ _ _ _ => nofun) hw hblank

theorem readAll_texts {text : String} (htext : text ∈ (toJson a).texts) :
    readAll format.read (Bytes.ofText text) = .ok a := by
  have hread := h.readAll_renders (renders_texts htext) isBlank_nil
  rwa [List.append_nil] at hread

end Json.StoredAs

end Stored

theorem AttestationType.ofName?_name (t : AttestationType) : AttestationType.ofName? t.name = some t := by
  cases t <;> decide

theorem Credential.stored : StoredAs format toJson byteNames byteMembers where
  fills c texts hothers hbytes := by
    simp only [Respells, byteMembers, byteNames, List.zip_cons_cons, List.zip_nil_left, List.forall_mem_cons] at hbytes
    obtain ⟨hrawId, hpublicKey, haaguid, hreceipt, _⟩ := hbytes
    refine ⟨_, ⟨some c.rawId, some c.publicKey, some c.attestationType, some c.aaguid, some c.signCounter,
      some c.cloneWarning, c.receipt.map some, some c.sessionId, some c.createdAt, some c.updatedAt⟩, rfl, ?_, ?_⟩
    · rw [List.map_append, List.map_append, map_optionalMember]
      refine (Fills.append ?_ (fills_optionalMember (fun receipt h =>
        reads_respelled reads_readSomeBytes (hreceipt receipt h)) rfl (fun receipt => Draft.mk (some c.rawId)
          (some c.publicKey) (some c.attestationType) (some c.aaguid) (some c.signCounter) (some c.cloneWarning)
          receipt none none none) rfl fun _ => rfl)).append ?_
      · exact .cons rfl rfl (reads_respelled reads_readBytes (hrawId _ rfl)) <|
          .cons rfl rfl (reads_respelled reads_readBytes (hpublicKey _ rfl)) <|
          .cons rfl rfl (reads_kept (hothers "attestation_type" (by decide))
            (readsBack_variant AttestationType.ofName?_name c.attestationType)) <|
          .cons rfl rfl (reads_respelled reads_readFixedBytes (haaguid _ rfl)) <|
          .cons rfl rfl (reads_kept (hothers "sign_counter" (by decide)) (readsBack_uint32 c.signCounter)) <|
          .cons rfl rfl (reads_kept (hothers "clone_warning" (by decide)) (readsBack_bool c.cloneWarning)) (.nil _)
      · exact .cons rfl rfl (reads_kept (hothers "session_id" (by decide)) (readsBack_text c.sessionId)) <|
          .cons rfl rfl (reads_kept (hothers "created_at" (by decide)) (readsBack_uint64 c.createdAt)) <|
          .cons rfl rfl (reads_kept (hothers "updated_at" (by decide)) (readsBack_uint64 c.updatedAt)) (.nil _)
    · obtain ⟨_, _, _, _, _, _, _ | receipt, _, _, _⟩ := c <;> rfl
  writes c m hm bytes hbytes := by
    refine ⟨_, rfl, ?_⟩
    simp only [byteMembers, byteNames, List.zip_cons_cons, List.zip_nil_left, List.mem_cons, List.not_mem_nil,
      or_false] at hm
    obtain rfl | rfl | rfl | rfl := hm
    · cases hbytes
      exact List.mem_append_left _ (List.mem_append_left _ (.head _))
    · cases hbytes
      exact List.mem_append_left _ (List.mem_append_left _ (.tail _ (.head _)))
    · cases hbytes
      exact List.mem_append_left _ (List.mem_append_left _ (.tail _ (.tail _ (.tail _ (.head _)))))
    · rw [show c.receipt = some bytes from hbytes]
      exact List.mem_append_left _ (List.mem_append_right _ (.head _))
  reads := fun m hm hwrites h => decoded_of_writes hm hwrites h

theorem Credential.hasMember_receipt {c : Credential} {w : Bytes} (h : Renders c.toJson w) :
    HasMember "receipt" w ↔ c.receipt.isSome = true :=
  hasMember_optionalMember h
    (by decide : "receipt" ∉ ["raw_id", "public_key", "attestation_type", "aaguid", "sign_counter", "clone_warning"])
    (by decide : "receipt" ∉ ["session_id", "created_at", "updated_at"])

theorem CeremonyKind.ofName?_name (kind : CeremonyKind) : CeremonyKind.ofName? kind.name = some kind := by
  cases kind <;> decide

theorem Ceremony.stored : StoredAs format toJson byteNames byteMembers where
  fills c texts hothers hbytes := by
    simp only [Respells, byteMembers, byteNames, List.zip_cons_cons, List.zip_nil_left, List.forall_mem_cons] at hbytes
    obtain ⟨hchallengeId, hcredentialId, _⟩ := hbytes
    refine ⟨_, ⟨some c.challengeId, some c.sessionId, c.credentialId.map some, some c.kind, some c.createdAt,
      some c.ttl⟩, rfl, ?_, ?_⟩
    · rw [List.map_append, List.map_append, map_optionalMember]
      refine (Fills.append ?_ (fills_optionalMember (fun credentialId h =>
        reads_respelled reads_readSomeBytes (hcredentialId credentialId h)) rfl (fun credentialId =>
          Draft.mk (some c.challengeId) (some c.sessionId) credentialId none none none) rfl fun _ => rfl)).append ?_
      · exact .cons rfl rfl (reads_respelled reads_readBytes (hchallengeId _ rfl)) <|
          .cons rfl rfl (reads_kept (hothers "session_id" (by decide)) (readsBack_text c.sessionId)) (.nil _)
      · exact .cons rfl rfl (reads_kept (hothers "ceremony_type" (by decide))
            (readsBack_variant CeremonyKind.ofName?_name c.kind)) <|
          .cons rfl rfl (reads_kept (hothers "created_at" (by decide)) (readsBack_uint64 c.createdAt)) <|
          .cons rfl rfl (reads_kept (hothers "ttl" (by decide)) (readsBack_uint64 c.ttl)) (.nil _)
    · obtain ⟨_, _, _ | credentialId, _, _, _⟩ := c <;> rfl
  writes c m hm bytes hbytes := by
    refine ⟨_, rfl, ?_⟩
    simp only [byteMembers, byteNames, List.zip_cons_cons, List.zip_nil_left, List.mem_cons, List.not_mem_nil,
      or_false] at hm
    obtain rfl | rfl := hm
    · cases hbytes
      exact List.mem_append_left _ (List.mem_append_left _ (.head _))
    · rw [show c.credentialId = some bytes from hbytes]
      exact List.mem_append_left _ (List.mem_append_right _ (.head _))
  reads := fun m hm hwrites h => decoded_of_writes hm hwrites h

theorem Ceremony.hasMember_credentialId {c : Ceremony} {w : Bytes} (h : Renders c.toJson w) :
    HasMember "credential_id" w ↔ c.credentialId.isSome = true :=
  hasMember_optionalMember h (by decide : "credential_id" ∉ ["challenge_id", "session_id"])
    (by decide : "credential_id" ∉ ["ceremony_type", "created_at", "ttl"])

namespace CommandLine

/-- The answer to a login with a credential that is at hand. -/
def AssertionCommand.runWith (command : AssertionCommand) (credential : Credential) (invocation : Invocation)
    (files : Files) : Except Failure VerifiedAssertion := do
  let clientData ← files.read command.clientData
  let signedClientData ← files.readOptional command.signedClientData
  let challenge ← readChallenge command.challenge
  let payload ← command.payload files
  let request : AssertionRequest := {
    clientData, payload, signedClientData
    credentialId := credential.rawId
    useSavedAttestedData := command.useSavedAttestedData
    appIdExtension := command.appIdExtension }
  (request.verify challenge credential invocation.party invocation.policy).mapError .verification

theorem AssertionCommand.run_eq_runWith {command : AssertionCommand} {credential : Credential} {content : Bytes}
    {files : Files} (hfile : files command.credential = .ok content)
    (hcredential : Credential.ofJson content = .ok credential) (invocation : Invocation) :
    command.run invocation files = command.runWith credential invocation files := by
  have hread : files.read command.credential = .ok content := mapError_eq_ok.mpr hfile
  have hjson : (Credential.ofJson content).mapError Failure.credential = .ok credential :=
    mapError_eq_ok.mpr hcredential
  rw [run, runWith, hread]
  simp only [ok_bind, hjson]

/-- What a registration prints is the credential that it has made. -/
theorem Invocation.credential_of_run {invocation : Invocation} {command : AttestationCommand} {now : UInt64}
    {files : Files} {text : String} (hcommand : invocation.command = .attestation command)
    (h : invocation.run now files = .ok text) :
    ∃ credential, command.run invocation now files = .ok credential ∧ text = credential.toJson.pretty := by
  rw [run, hcommand] at h
  obtain ⟨answer, hanswer, htext⟩ := bind_eq_ok.mp h
  cases hrun : command.run invocation now files with
  | error failure =>
    rw [hrun] at hanswer
    cases hanswer
  | ok credential =>
    rw [hrun] at hanswer
    cases hanswer
    exact ⟨credential, rfl, (Except.ok.inj htext).symm⟩

/-- A login reads from a file the credential that a registration has printed there. -/
theorem AssertionCommand.run_of_printed {invocation login : Invocation} {command : AttestationCommand}
    {loginCommand : AssertionCommand} {now : UInt64} {files loginFiles : Files} {text : String} {blank : Bytes}
    (hcommand : invocation.command = .attestation command) (h : invocation.run now files = .ok text)
    (hblank : IsBlank blank) (hfile : loginFiles loginCommand.credential = .ok (Bytes.ofText text ++ blank)) :
    ∃ credential, command.run invocation now files = .ok credential ∧
      loginCommand.run login loginFiles = loginCommand.runWith credential login loginFiles := by
  obtain ⟨credential, hrun, rfl⟩ := invocation.credential_of_run hcommand h
  have hrenders : Renders credential.toJson (Bytes.ofText credential.toJson.pretty) :=
    renders_texts (List.mem_cons_of_mem _ List.mem_cons_self)
  exact ⟨credential, hrun, run_eq_runWith hfile (Credential.stored.readAll_renders hrenders hblank) login⟩

end CommandLine

/-- Records survive storage. A credential is read back from either text that it is written as, with the
receipt in the text exactly if there is one, and so is a ceremony with the credential that it is bound to; a
login reads the credential that a registration has printed; and to write a record again that was read from any
text, and to read it, changes nothing. -/
theorem stored_records_survive :
    (∀ c : Credential, ∀ text ∈ c.toJson.texts, Credential.ofJson (Bytes.ofText text) = .ok c ∧
      (c.receipt = none ↔ ¬ HasMember "receipt" (Bytes.ofText text))) ∧
    (∀ c : Ceremony, ∀ text ∈ c.toJson.texts, Ceremony.ofJson (Bytes.ofText text) = .ok c ∧
      (c.credentialId = none ↔ ¬ HasMember "credential_id" (Bytes.ofText text))) ∧
    (∀ (invocation login : CommandLine.Invocation) (command : CommandLine.AttestationCommand)
      (loginCommand : CommandLine.AssertionCommand) (now : UInt64) (files loginFiles : CommandLine.Files)
      (text : String) (blank : Bytes), invocation.command = .attestation command →
      invocation.run now files = .ok text → IsBlank blank →
      loginFiles loginCommand.credential = .ok (Bytes.ofText text ++ blank) →
      ∃ credential, command.run invocation now files = .ok credential ∧
        loginCommand.run login loginFiles = loginCommand.runWith credential login loginFiles) ∧
    (∀ bs c, Credential.ofJson bs = .ok c →
      ∀ text ∈ c.toJson.texts, Credential.ofJson (Bytes.ofText text) = .ok c) ∧
    (∀ bs c, Ceremony.ofJson bs = .ok c →
      ∀ text ∈ c.toJson.texts, Ceremony.ofJson (Bytes.ofText text) = .ok c) := by
  refine ⟨fun c text htext => ⟨Credential.stored.readAll_texts htext, ?_⟩,
    fun c text htext => ⟨Ceremony.stored.readAll_texts htext, ?_⟩, ?_,
    fun bs c _ text htext => Credential.stored.readAll_texts htext,
    fun bs c _ text htext => Ceremony.stored.readAll_texts htext⟩
  · rw [Credential.hasMember_receipt (renders_texts htext), Option.not_isSome_iff_eq_none]
  · rw [Ceremony.hasMember_credentialId (renders_texts htext), Option.not_isSome_iff_eq_none]
  · intro invocation login command loginCommand now files loginFiles text blank hcommand hrun hblank hfile
    exact CommandLine.AssertionCommand.run_of_printed hcommand hrun hblank hfile

def sampleStored : Credential :=
  ⟨[1, 2], [], .packed, ⟨List.replicate 16 7, rfl⟩, 4294967295, true, some [], "a\"\nß", 0, 18446744073709551615⟩

def sampleAttestation : CommandLine.AttestationCommand := ⟨"client", "object", "AQ", "session", none⟩

def sampleAssertion : CommandLine.AssertionCommand :=
  ⟨"client", none, none, some "assertion", "credential", "AQ", none, false, false⟩

def sampleInvocation : CommandLine.Invocation :=
  ⟨0, RegistrationRequest.sampleParty, .production, some 0, ⟨false, false, .allowEqual⟩, .attestation sampleAttestation⟩

def sampleFiles : CommandLine.Files := fun path =>
  if path = "client" then .ok RegistrationRequest.sampleKeyless.clientData
  else if path = "object" then
    .ok (Bytes.ofText (Base64.urlSafe.encode RegistrationRequest.sampleKeyless.attestationObject))
  else .error "not found"

def sampleLoginFiles (printed : String) : CommandLine.Files := fun path =>
  if path = "credential" then .ok (Bytes.ofText printed ++ [0x0a]) else sampleFiles path

theorem run_sampleAttestation : sampleAttestation.run sampleInvocation 5 sampleFiles =
    .ok ⟨[9], [0xa0], .none, ⟨List.replicate 16 0, rfl⟩, 0, false, none, "session", 5, 5⟩ := by
  decide +kernel

theorem run_sampleInvocation : ∃ printed, sampleInvocation.run 5 sampleFiles = .ok printed := by
  obtain ⟨value, hanswer⟩ : ∃ value,
      Credential.toJson <$> sampleAttestation.run sampleInvocation 5 sampleFiles = .ok value := by
    rw [run_sampleAttestation]
    exact ⟨_, rfl⟩
  exact ⟨value.pretty, bind_eq_ok.mpr ⟨value, hanswer, rfl⟩⟩

theorem stored_records_survive_sample :
    Credential.ofJson (Bytes.ofText sampleStored.toJson.pretty) = .ok sampleStored ∧
    ∃ printed credential, sampleInvocation.run 5 sampleFiles = .ok printed ∧
      sampleAttestation.run sampleInvocation 5 sampleFiles = .ok credential ∧
      sampleAssertion.run sampleInvocation (sampleLoginFiles printed) =
        sampleAssertion.runWith credential sampleInvocation (sampleLoginFiles printed) := by
  obtain ⟨hcredential, _, hprinted, _⟩ := stored_records_survive
  have htext : sampleStored.toJson.pretty ∈ sampleStored.toJson.texts := List.mem_cons_of_mem _ List.mem_cons_self
  have hblank : IsBlank [0x0a] := List.forall_mem_singleton.mpr rfl
  obtain ⟨printed, hrun⟩ := run_sampleInvocation
  obtain ⟨credential, hcommand, hlogin⟩ := hprinted sampleInvocation sampleInvocation sampleAttestation
    sampleAssertion 5 sampleFiles (sampleLoginFiles printed) printed [0x0a] rfl hrun hblank rfl
  exact ⟨(hcredential sampleStored _ htext).1, printed, credential, hrun, hcommand, hlogin⟩

end RelyingParty
