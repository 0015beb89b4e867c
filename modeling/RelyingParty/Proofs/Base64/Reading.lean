import RelyingParty.Proofs.Base64.File
import RelyingParty.Proofs.ByteMembers
import RelyingParty.Proofs.ClientData
import RelyingParty.Proofs.Service.UninterruptedLogin
import RelyingParty.Proofs.StoredRecord

namespace RelyingParty

namespace Base64

open CommandLine (isBlank)

variable {s : String} {c : Char}

/-- A reader that takes a text for bytes exactly if it is their unpadded form, but for pad characters at its
end. -/
structure ReadsExactly (read : String → Option Bytes) : Prop where
  decodes_iff : ∀ s bs, read s = some bs ↔ trimPadding s.toList = urlSafe.encodeChars bs
  decodes_iff_pads : ∀ s bs, read s = some bs ↔
    ∃ pads, s.toList = urlSafe.encodeChars bs ++ List.replicate pads padChar
  decodes_iff_digits : ∀ s bs, read s = some bs ↔
    ∃ digits, Packs bs digits ∧ trimPadding s.toList = digits.map urlSafe.char
  round_trip : ∀ bs pads,
    read (String.ofList (urlSafe.encodeChars bs ++ List.replicate pads padChar)) = some bs
  injective : ∀ s s' bs, read s = some bs → read s' = some bs → trimPadding s.toList = trimPadding s'.toList
  refuses_iff : ∀ s, read s = none ↔ urlSafe.Fault (trimPadding s.toList)
  refuses_inner_pad : ∀ s before c after, s.toList = before ++ padChar :: after → c ∈ after → c ≠ padChar →
    read s = none
  refuses_foreign : ∀ s c, c ∈ s.toList → c = '+' ∨ c = '/' ∨ isBlank c = true → read s = none

theorem urlSafe_value?_of_isBlank (h : isBlank c = true) : urlSafe.value? c = none := by
  cases hvalue : urlSafe.value? c with
  | none => rfl
  | some n =>
    obtain ⟨hn, rfl⟩ := Alphabet.value?_eq_some hvalue
    rw [(isBlank_char n hn).1] at h
    cases h

theorem decodeUrl?_of_foreign (hmem : c ∈ trimPadding s.toList) (hvalue : urlSafe.value? c = none) :
    decodeUrl? s = none :=
  decodeUrl?_eq_none.mpr (.foreign hmem hvalue)

theorem decodeUrl?_readsExactly : ReadsExactly decodeUrl? where
  decodes_iff s bs := decodeUrl?_eq_some
  decodes_iff_pads s bs := by
    rw [decodeUrl?_eq_some]
    constructor
    · intro h
      obtain ⟨pads, hs⟩ := exists_trimPadding_append s.toList
      exact ⟨pads, by rw [← h, ← hs]⟩
    · rintro ⟨pads, hs⟩
      rw [hs, trimPadding_encodeChars urlSafe_lawful]
  decodes_iff_digits s bs := by rw [decodeUrl?_eq_some, encodeChars_iff]
  round_trip bs pads := by
    rw [decodeUrl?_eq_some, String.toList_ofList, trimPadding_encodeChars urlSafe_lawful]
  injective s s' bs h h' := (decodeUrl?_eq_some.mp h).trans (decodeUrl?_eq_some.mp h').symm
  refuses_iff s := decodeUrl?_eq_none
  refuses_inner_pad s before c after hs hmem hne :=
    decodeUrl?_of_foreign (padChar_mem_trimPadding hs hmem hne) (by decide)
  refuses_foreign s c hmem hc := by
    have hne : c ≠ padChar ∧ urlSafe.value? c = none := by
      obtain rfl | rfl | hblank := hc
      · decide
      · decide
      · refine ⟨?_, urlSafe_value?_of_isBlank hblank⟩
        rintro rfl
        exact absurd hblank (by decide)
    exact decodeUrl?_of_foreign (mem_trimPadding hmem hne.1) hne.2

end Base64

namespace CommandLine

variable {invocation : Invocation} {files : Files}

theorem readChallenge_eq_ok {text : String} {bs : Bytes} :
    readChallenge text = .ok bs ↔ Base64.decodeUrl? text = some bs := by
  unfold readChallenge
  cases Base64.decodeUrl? text with
  | none => simp
  | some decoded => simp

/-- The file is client data that answers the challenge of the command line: the text of its challenge is the
same but for padding. -/
def Answered (files : Files) (clientData challenge : String) : Prop :=
  ∃ content bytes, files clientData = .ok content ∧ Base64.decodeUrl? challenge = some bytes ∧
    ∀ text, Json.Writes ClientData.format.names "challenge" text content →
      Base64.trimPadding text.toList = Base64.trimPadding challenge.toList

theorem answered_of_answers {path text : String} {content bytes : Bytes} (hfile : files path = .ok content)
    (htext : Base64.decodeUrl? text = some bytes) (h : Answers content bytes) : Answered files path text := by
  obtain ⟨decoded, hdecoded, rfl⟩ := h
  refine ⟨content, decoded.challenge, hfile, htext, fun written hwrites => ?_⟩
  exact Base64.decodeUrl?_readsExactly.injective _ _ _ (ClientData.decoded_of_writes hwrites hdecoded) htext

theorem AttestationCommand.answered_of_run {command : AttestationCommand} {now : UInt64} {credential : Credential}
    (h : command.run invocation now files = .ok credential) :
    Answered files command.clientData command.challenge := by
  obtain ⟨content, hcontent, h⟩ := bind_eq_ok.mp h
  obtain ⟨_, _, h⟩ := bind_eq_ok.mp h
  obtain ⟨_, _, h⟩ := bind_eq_ok.mp h
  obtain ⟨challenge, hchallenge, h⟩ := bind_eq_ok.mp h
  split at h
  next => cases h
  next =>
    have hanswers := RegistrationRequest.answers_of_verify (mapError_eq_ok.mp h)
    exact answered_of_answers (mapError_eq_ok.mp hcontent) (readChallenge_eq_ok.mp hchallenge) hanswers

theorem AssertionCommand.answered_of_run {command : AssertionCommand} {verified : VerifiedAssertion}
    (h : command.run invocation files = .ok verified) :
    Answered files command.clientData command.challenge := by
  obtain ⟨content, hcontent, h⟩ := bind_eq_ok.mp h
  obtain ⟨_, _, h⟩ := bind_eq_ok.mp h
  obtain ⟨_, _, h⟩ := bind_eq_ok.mp h
  obtain ⟨_, _, h⟩ := bind_eq_ok.mp h
  obtain ⟨challenge, hchallenge, h⟩ := bind_eq_ok.mp h
  obtain ⟨_, _, h⟩ := bind_eq_ok.mp h
  have hanswers := AssertionRequest.answers_of_verify (mapError_eq_ok.mp h)
  exact answered_of_answers (mapError_eq_ok.mp hcontent) (readChallenge_eq_ok.mp hchallenge) hanswers

end CommandLine

namespace Base64

open Json

/-- Base64 for URLs is read exactly, whatever padding it has. So are read the challenge of client data, each byte
string of credentials and ceremonies, whether they are stored as objects or as arrays, and the challenge of a
command, which an accepted command finds in the client data with the same characters. Client data is accepted
with any padding, and a written credential or ceremony is read back with other texts in the place of its byte
strings exactly if these texts decode to them. -/
theorem base64_is_read_exactly :
    ReadsExactly decodeUrl? ∧
    (∀ bs bytes rest, readBytes bs = .ok (bytes, rest) ↔
      ∃ text, readText bs = .ok (text, rest) ∧ decodeUrl? text = some bytes) ∧
    (∀ bs text d, Writes ClientData.format.names "challenge" text bs → ClientData.ofJson bs = .ok d →
      decodeUrl? text = some d.challenge) ∧
    (∀ d members before w after, ClientData.IsWritten d members → IsObject members w → IsBlank before →
      IsBlank after → ClientData.ofJson (before ++ (w ++ after)) = .ok d) ∧
    (∀ bs text (c : Credential) name held, (name, held) ∈ c.byteMembers →
      Writes Credential.format.names name text bs → Credential.ofJson bs = .ok c →
      ∃ bytes, held = some bytes ∧ decodeUrl? text = some bytes) ∧
    (∀ bs text (c : Ceremony) name held, (name, held) ∈ c.byteMembers →
      Writes Ceremony.format.names name text bs → Ceremony.ofJson bs = .ok c →
      ∃ bytes, held = some bytes ∧ decodeUrl? text = some bytes) ∧
    (∀ (c : Credential) texts w, (∀ name ∉ Credential.byteNames, texts name = none) →
      Renders (c.toJson.respell texts) w → (Credential.ofJson w = .ok c ↔ Respells texts c.byteMembers)) ∧
    (∀ (c : Ceremony) texts w, (∀ name ∉ Ceremony.byteNames, texts name = none) →
      Renders (c.toJson.respell texts) w → (Ceremony.ofJson w = .ok c ↔ Respells texts c.byteMembers)) ∧
    (∀ text bs, CommandLine.readChallenge text = .ok bs ↔ decodeUrl? text = some bs) ∧
    (∀ (command : CommandLine.AttestationCommand) invocation now files credential,
      command.run invocation now files = .ok credential →
      CommandLine.Answered files command.clientData command.challenge) ∧
    (∀ (command : CommandLine.AssertionCommand) invocation files verified,
      command.run invocation files = .ok verified →
      CommandLine.Answered files command.clientData command.challenge) := by
  refine ⟨decodeUrl?_readsExactly, fun _ _ _ => readBytes_eq_ok,
    fun _ _ _ hwrites h => ClientData.decoded_of_writes hwrites h,
    fun _ _ _ _ _ h hobject hbefore hafter => h.ofJson hobject hbefore hafter, ?_, ?_,
    fun _ _ _ hothers h => Credential.stored.readAll_respelled_iff hothers h,
    fun _ _ _ hothers h => Ceremony.stored.readAll_respelled_iff hothers h,
    fun _ _ => CommandLine.readChallenge_eq_ok, ?_, ?_⟩
  · exact fun _ _ _ _ _ hmember hwrites h => Credential.decoded_of_writes hmember hwrites h
  · exact fun _ _ _ _ _ hmember hwrites h => Ceremony.decoded_of_writes hmember hwrites h
  · exact fun _ _ _ _ _ h => CommandLine.AttestationCommand.answered_of_run h
  · exact fun _ _ _ _ h => CommandLine.AssertionCommand.answered_of_run h

def sampleCommand : CommandLine.AssertionCommand where
  clientData := "client"
  authenticatorData := some "data"
  signature := some "signature"
  assertion := none
  credential := "credential"
  challenge := "Ag=="
  signedClientData := none
  useSavedAttestedData := false
  appIdExtension := false

def sampleFiles (ad signature : Bytes) : CommandLine.Files := fun path =>
  if path = "client" then .ok Store.sampleAnswer.clientData
  else if path = "credential" then .ok (Bytes.ofText Store.sampleCounting.toJson.compact)
  else if path = "data" then .ok (Bytes.ofText (urlSafe.encode ad))
  else .ok (Bytes.ofText (urlSafe.encode signature))

theorem run_sampleCommand (ad signature : Bytes) (h : Store.sampleAnswer.payload = .split ad signature) :
    ∃ verified, sampleCommand.run
      ⟨0, ⟨"a", "b", none⟩, .production, none, Store.sampleStrict, .assertion sampleCommand⟩
      (sampleFiles ad signature) = .ok verified := by
  refine ⟨⟨6, true, false⟩, ?_⟩
  have hcredential :
      Credential.ofJson (Bytes.ofText Store.sampleCounting.toJson.compact) = .ok Store.sampleCounting :=
    Credential.stored.readAll_texts List.mem_cons_self
  have hfile : sampleFiles ad signature sampleCommand.credential =
      .ok (Bytes.ofText Store.sampleCounting.toJson.compact) := by
    rw [sampleFiles, if_neg (by decide), if_pos (by decide)]
  rw [CommandLine.AssertionCommand.run_eq_runWith hfile hcredential]
  cases h
  decide +kernel

def sampleCeremony : Ceremony := .begin [0xfb, 0xf0] "session" .get (some [1, 2, 3]) 7

def textsOf (names texts : List String) (name : String) : Option String := (names.zip texts).lookup name

theorem textsOf_eq_none {names texts : List String} : ∀ name ∉ names, textsOf names texts name = none := by
  intro name hname
  refine List.lookup_eq_none_iff.mpr fun m hm => ?_
  rw [bne_iff_ne]
  rintro rfl
  exact hname (List.of_mem_zip hm).1

/-- The record is written with texts in the place of its byte strings, some of them padded. -/
def paddedStored : String :=
  (sampleStored.toJson.respell (textsOf Credential.byteNames ["AQI=", "", "BwcHBwcHBwcHBwcHBwcHBw==", "="])).compact

def paddedCeremony : String :=
  (sampleCeremony.toJson.respell (textsOf Ceremony.byteNames ["-_A=", "AQID===="])).compact

theorem base64_is_read_exactly_sample :
    decodeUrl? "AQ==" = some [1] ∧ decodeUrl? "AR==" = none ∧ decodeUrl? "A=Q" = none ∧ decodeUrl? "+/A" = none ∧
    ClientData.ofJson ClientData.sampleText = .ok ⟨"webauthn.get", [1], "b", none, true⟩ ∧
    (Credential.ofJson (Bytes.ofText paddedStored) = .ok sampleStored ∧
      ∃ bytes, some sampleStored.rawId = some bytes ∧ decodeUrl? "AQI=" = some bytes) ∧
    (Ceremony.ofJson (Bytes.ofText paddedCeremony) = .ok sampleCeremony ∧
      ∃ bytes, sampleCeremony.credentialId = some bytes ∧ decodeUrl? "AQID====" = some bytes) ∧
    CommandLine.Answered RelyingParty.sampleFiles "client" "AQ" ∧
    ∃ ad signature, CommandLine.Answered (sampleFiles ad signature) "client" "Ag==" := by
  obtain ⟨hexact, -, hclient, hwritten, hcredential, hceremony, hstored, hbegun, -, hregistration, hlogin⟩ :=
    base64_is_read_exactly
  have hread : ClientData.ofJson ClientData.sampleText = .ok ⟨"webauthn.get", [1], "b", none, true⟩ := by
    have hobject := hwritten _ _ [] _ [] ClientData.sampleMembers_isWritten ClientData.sampleMembers_isObject
      isBlank_nil isBlank_nil
    rwa [List.nil_append, List.append_nil] at hobject
  have hchallenge : Writes ClientData.format.names "challenge" "AQ==" ClientData.sampleText := by
    have hwrites : Writes ClientData.format.names "challenge" "AQ==" ([] ++ (ClientData.sampleText ++ [])) :=
      .object ClientData.sampleMembers_isObject isBlank_nil isBlank_nil (.tail _ (.tail _ (.tail _ (.head _))))
        (isText_quote "AQ==")
    rwa [List.nil_append, List.append_nil] at hwrites
  have hrenders : Renders _ (Bytes.ofText paddedStored) := renders_texts List.mem_cons_self
  have hreadStored : Credential.ofJson (Bytes.ofText paddedStored) = .ok sampleStored := by
    refine (hstored _ _ _ textsOf_eq_none hrenders).mpr ?_
    unfold Respells
    decide +kernel
  have hrendersCeremony : Renders _ (Bytes.ofText paddedCeremony) := renders_texts List.mem_cons_self
  have hreadCeremony : Ceremony.ofJson (Bytes.ofText paddedCeremony) = .ok sampleCeremony := by
    refine (hbegun _ _ _ textsOf_eq_none hrendersCeremony).mpr ?_
    unfold Respells
    decide +kernel
  obtain ⟨ad, signature, hpayload⟩ : ∃ ad signature, Store.sampleAnswer.payload = .split ad signature :=
    ⟨_, _, rfl⟩
  obtain ⟨verified, hrun⟩ := run_sampleCommand ad signature hpayload
  refine ⟨hclient _ _ _ hchallenge hread, ?_, ?_, ?_, hread, ?_, ?_, ?_, ad, signature, hlogin _ _ _ _ hrun⟩
  · exact (hexact.refuses_iff "AR==").mpr (.spare rfl rfl (by decide))
  · exact hexact.refuses_inner_pad "A=Q" ['A'] 'Q' ['Q'] rfl List.mem_cons_self (by decide)
  · exact hexact.refuses_foreign "+/A" '/' (by decide) (.inr (.inl rfl))
  · exact ⟨hreadStored, hcredential _ _ _ _ _ (.head _) (hrenders.writes (.head _)) hreadStored⟩
  · exact ⟨hreadCeremony,
      hceremony _ _ _ _ _ (.tail _ (.head _)) (hrendersCeremony.writes (.tail _ (.tail _ (.head _)))) hreadCeremony⟩
  · exact hregistration _ _ _ _ _ run_sampleAttestation

end Base64

end RelyingParty
