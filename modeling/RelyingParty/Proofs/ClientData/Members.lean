import RelyingParty.ClientData
import RelyingParty.Proofs.Base64
import RelyingParty.Proofs.Json.Accepted
import RelyingParty.Proofs.Json.Written

namespace RelyingParty

open Json

namespace TokenBinding

/-- A token binding as it may be written: its members in any order, among others. -/
inductive IsWritten : TokenBinding → Bytes → Prop
  | object {status : String} {id : Option (Option String)} {w wstatus : Bytes}
    {members ids others : List (String × Bytes)} (hstatus : IsText status wstatus)
    (hid : IsOptional "id" (IsNullable IsText) id ids)
    (hothers : ∀ m ∈ others, m.1 ∉ ["status", "id"])
    (horder : members.Perm (("status", wstatus) :: ids ++ others)) (hobject : IsObject members w) :
    IsWritten ⟨status, id.join⟩ w

theorem reads_readNullText {id : Option String} {w : Bytes} (h : IsNullable IsText id w) :
    Reads (readOptional readText) w id :=
  reads_readOptional 0x22 (by decide) (by decide) reads_readText
    (fun h => by obtain ⟨_, _, rfl⟩ := h; rfl) h

theorem lawful : format.Lawful where
  independent := by
    refine .cons (List.forall_mem_singleton.mpr ?_) (List.pairwise_singleton _ _)
    exact ⟨by decide, fun _ _ => rfl, fun _ _ => rfl, fun _ _ _ => rfl⟩
  get_set := List.forall_mem_cons.mpr ⟨fun _ _ => rfl, List.forall_mem_singleton.mpr fun _ _ => rfl⟩
  skims := List.forall_mem_cons.mpr ⟨skims_readText, List.forall_mem_singleton.mpr (skims_readOptional skims_readText)⟩
  unset := List.forall_mem_cons.mpr ⟨rfl, List.forall_mem_singleton.mpr rfl⟩

theorem IsWritten.reads {binding : TokenBinding} {w : Bytes} (h : IsWritten binding w) :
    Reads format.read w binding := by
  obtain @⟨status, id, w, wstatus, members, ids, others, hstatus, hid, hothers, horder, hobject⟩ := h
  have hvalues (m : String × Bytes) (hm : m ∈ others) : IsValue m.2 :=
    hobject.values m (horder.mem_iff.mpr (List.mem_append_right _ hm))
  have hrequired : Takes format.fields {} [("status", wstatus)] ⟨some status, none⟩ :=
    .known rfl rfl (reads_readText hstatus) (.nil _)
  have hmembers := (hrequired.append (takes_optional hid reads_readNullText rfl (Draft.mk (some status)) rfl
    fun _ => rfl)).append (takes_others hothers hvalues _)
  exact RecordFormat.reads (lawful.takes_perm horder.symm hmembers) rfl hobject.layout

theorem skims_format : Skims format.read := RecordFormat.skims lawful.skims

end TokenBinding

namespace ClientData

def memberNames : List String := ["type", "challenge", "origin", "tokenBinding", "crossOrigin"]

/-- The members of client data as they may be written, in any order and among members of other names. Any
number of pad characters may follow the challenge, a binding may be null, and a statement that is left out is
that the data comes from the party itself. -/
inductive IsWritten : ClientData → List (String × Bytes) → Prop
  | members {type origin : String} {challenge : Bytes} {pads : Nat} {crossOrigin : Option Bool}
    {tokenBinding : Option (Option TokenBinding)} {wtype wchallenge worigin : Bytes}
    {crossOrigins bindings others members : List (String × Bytes)} (htype : IsText type wtype)
    (hchallenge : IsText (Base64.urlSafe.encode challenge ++
      String.ofList (List.replicate pads Base64.padChar)) wchallenge)
    (horigin : IsText origin worigin)
    (hbinding : IsOptional "tokenBinding" (IsNullable TokenBinding.IsWritten) tokenBinding bindings)
    (hcrossOrigin : IsOptional "crossOrigin" IsFlag crossOrigin crossOrigins)
    (hothers : ∀ m ∈ others, m.1 ∉ memberNames)
    (horder : members.Perm ([("type", wtype), ("challenge", wchallenge), ("origin", worigin)] ++ bindings ++
      crossOrigins ++ others)) :
    IsWritten ⟨type, challenge, origin, tokenBinding.join, crossOrigin.getD false⟩ members

theorem lawful : format.Lawful where
  independent := by
    simp only [format, List.pairwise_cons, List.forall_mem_cons, List.not_mem_nil, false_implies,
      implies_true, List.Pairwise.nil, and_true]
    refine ⟨⟨?_, ?_, ?_, ?_⟩, ⟨?_, ?_, ?_⟩, ⟨?_, ?_⟩, ?_⟩
    all_goals exact ⟨by decide, fun _ _ => rfl, fun _ _ => rfl, fun _ _ _ => rfl⟩
  get_set := by
    simp only [format, List.forall_mem_cons, List.not_mem_nil, false_implies, implies_true, and_true]
  skims := by
    simp only [format, List.forall_mem_cons, List.not_mem_nil, false_implies, implies_true, and_true]
    exact ⟨skims_readText, skims_readText, skims_readText, skims_readOptional TokenBinding.skims_format,
      skims_readBool⟩
  unset := by
    simp only [format, List.forall_mem_cons, List.not_mem_nil, false_implies, implies_true, and_true]
    exact ⟨rfl, rfl, rfl, rfl, rfl⟩

theorem reads_readNullBinding {binding : Option TokenBinding} {w : Bytes}
    (h : IsNullable TokenBinding.IsWritten binding w) :
    Reads (readOptional TokenBinding.format.read) w binding := by
  refine reads_readOptional 0x7b (by decide) (by decide) TokenBinding.IsWritten.reads (fun h => ?_) h
  obtain ⟨_, _, _, _, _, hlayout⟩ := h
  cases hlayout <;> rfl

theorem IsWritten.ofJson {d : ClientData} {members : List (String × Bytes)} {w before after : Bytes}
    (h : IsWritten d members) (hobject : IsObject members w) (hbefore : IsBlank before)
    (hafter : IsBlank after) : ofJson (before ++ (w ++ after)) = .ok d := by
  obtain @⟨type, origin, challenge, pads, crossOrigin, tokenBinding, wtype, wchallenge, worigin, crossOrigins,
    bindings, others, members, htype, hchallenge, horigin, hbinding, hcrossOrigin, hothers, horder⟩ := h
  have hvalues (m : String × Bytes) (hm : m ∈ others) : IsValue m.2 :=
    hobject.values m (horder.mem_iff.mpr (List.mem_append_right _ hm))
  let text : String := Base64.urlSafe.encode challenge ++ String.ofList (List.replicate pads Base64.padChar)
  have hrequired : Takes format.fields {} [("type", wtype), ("challenge", wchallenge), ("origin", worigin)]
      ⟨some type, some text, some origin, none, none⟩ :=
    .known rfl rfl (reads_readText htype) <|
      .known rfl rfl (reads_readText hchallenge) <|
        .known rfl rfl (reads_readText horigin) (.nil _)
  have hbindings := hrequired.append (takes_optional hbinding reads_readNullBinding rfl
    (fun binding => Draft.mk (some type) (some text) (some origin) binding none) rfl fun _ => rfl)
  have hflags := hbindings.append (takes_optional hcrossOrigin reads_readBool rfl
    (Draft.mk (some type) (some text) (some origin) tokenBinding) rfl fun _ => rfl)
  have hmembers := lawful.takes_perm horder.symm (hflags.append (takes_others hothers hvalues _))
  have hread := readAll_of_reads (RecordFormat.reads hmembers rfl hobject.layout) hbefore hafter
  rw [ClientData.ofJson, hread]
  simp only [text, Base64.decodeUrl?_append, Base64.decodeUrl?_encode]

theorem build_eq_ok {draft : Draft} {challenge : String} {made : Bytes → ClientData}
    (h : format.build draft = .ok (challenge, made)) :
    draft.type.isSome = true ∧ draft.challenge = some challenge ∧ draft.origin.isSome = true ∧
      ∀ bytes, (made bytes).challenge = bytes := by
  obtain ⟨type, htype, h⟩ := bind_eq_ok.mp h
  obtain ⟨text, htext, h⟩ := bind_eq_ok.mp h
  obtain ⟨origin, horigin, h⟩ := bind_eq_ok.mp h
  cases h
  exact ⟨Option.isSome_of_mem (required_eq_ok htype), required_eq_ok htext,
    Option.isSome_of_mem (required_eq_ok horigin), fun _ => rfl⟩

/-- Client data that is read has no member of its own twice, and misses none that has to be there. -/
theorem members_of_read {made : String × (Bytes → ClientData)} {members : List (String × Bytes)}
    {w before more rest : Bytes} (hobject : IsObject members w) (hbefore : IsBlank before)
    (h : format.read (before ++ (w ++ more)) = .ok (made, rest)) :
    (∀ name ∈ memberNames, (members.map Prod.fst).count name ≤ 1) ∧
      ∀ name ∈ ["type", "challenge", "origin"], name ∈ members.map Prod.fst := by
  obtain ⟨filled, hgathers, hbuild⟩ := lawful.gathers_object hobject hbefore h
  have hadds := lawful.adds hgathers
  obtain ⟨htype, hchallenge, horigin, _⟩ := build_eq_ok hbuild
  have hfields : memberNames = format.fields.map Field.name := rfl
  -- nothing is set in the empty draft, so what is set in the end came from a member
  have hmem : ∀ field ∈ format.fields, field.isSet filled = true → field.name ∈ members.map Prod.fst :=
    fun field hfield => hadds.mem_of_isSet hfield (lawful.unset field hfield)
  refine ⟨fun name hname => ?_, ?_⟩
  · obtain ⟨field, hfield, rfl⟩ := List.mem_map.mp (hfields ▸ hname)
    exact hadds.count_le hfield
  · simp only [format, List.forall_mem_cons] at hmem
    obtain ⟨hmemType, hmemChallenge, hmemOrigin, _⟩ := hmem
    simp only [List.forall_mem_cons, List.not_mem_nil, false_implies, implies_true, and_true]
    exact ⟨hmemType htype, hmemChallenge (Option.isSome_of_mem hchallenge), hmemOrigin horigin⟩

theorem ofJson_eq_ok_or_malformed (bs : Bytes) :
    (∃ made, readAll format.read bs = .ok made) ∨ ∃ cause, ofJson bs = .error (.malformedClientData cause) := by
  cases h : readAll format.read bs with
  | ok made => exact .inl ⟨made, rfl⟩
  | error cause => exact .inr ⟨.json cause, by rw [ofJson, h]⟩

/-- Client data is read from its members wherever they stand, whatever blanks, members of other names and pad
characters there are; with a member twice or without one that has to be there it is malformed. -/
theorem members_read_wherever_they_stand {members : List (String × Bytes)} {w before after : Bytes}
    (hobject : IsObject members w) (hbefore : IsBlank before) (hafter : IsBlank after) :
    (∀ d, IsWritten d members → ofJson (before ++ (w ++ after)) = .ok d) ∧
      ((∃ name ∈ memberNames, 2 ≤ (members.map Prod.fst).count name) ∨
          (∃ name ∈ ["type", "challenge", "origin"], name ∉ members.map Prod.fst) →
        ∃ cause, ofJson (before ++ (w ++ after)) = .error (.malformedClientData cause)) := by
  refine ⟨fun d h => h.ofJson hobject hbefore hafter, fun hfault => ?_⟩
  obtain ⟨made, hread⟩ | hmalformed := ofJson_eq_ok_or_malformed (before ++ (w ++ after))
  · obtain ⟨⟨_, rest⟩, hread, _⟩ := bind_eq_ok.mp hread
    obtain ⟨honce, hthere⟩ := members_of_read hobject hbefore hread
    obtain ⟨name, hname, htwice⟩ | ⟨name, hname, hmissing⟩ := hfault
    · exact absurd htwice (Nat.not_le.mpr (Nat.lt_succ_of_le (honce name hname)))
    · exact absurd (hthere name hname) hmissing
  · exact hmalformed

def sampleMembers : List (String × Bytes) :=
  [("x", Bytes.ofChars "[ -1.5e3 ]".toList), ("origin", Bytes.ofChars (quote "b")),
    ("type", Bytes.ofChars (quote "webauthn.get")), ("challenge", Bytes.ofChars (quote "AQ==")),
    ("crossOrigin", Bytes.ofChars "true".toList)]

def sampleText : Bytes := Bytes.ofText
  "\x7b \"x\": [ -1.5e3 ],\"origin\":\"b\" , \"type\":\"webauthn.get\",\"challenge\":\"AQ==\",\"crossOrigin\":true\x7d"

theorem sampleArray_isValue : IsValue (Bytes.ofChars "[ -1.5e3 ]".toList) := by
  have hnumeral : IsNumeral [0x2d, 0x31, 0x2e, 0x35, 0x65, 0x33] := by
    have hdigits {b : UInt8} (h : isDigit b = true) : IsDigits [b] := ⟨nofun, List.forall_mem_singleton.mpr h⟩
    exact ⟨[0x2d], [0x31], [0x2e, 0x35], [0x65, 0x33], .inr rfl, .inr ⟨hdigits rfl, by decide⟩,
      .inr ⟨[0x35], hdigits rfl, rfl⟩, .inr ⟨0x65, [], [0x33], .inl rfl, .inl rfl, hdigits rfl, rfl⟩, rfl⟩
  have hblank : IsBlank [0x20] := List.forall_mem_singleton.mpr rfl
  exact .array (List.forall_mem_singleton.mpr (.number hnumeral)) (.items (.last rfl hblank hblank))

theorem sampleMembers_isObject : IsObject sampleMembers sampleText where
  values := by
    simp only [sampleMembers, List.forall_mem_cons, List.not_mem_nil, false_implies, implies_true, and_true]
    exact ⟨sampleArray_isValue, (isText_quote _).isValue, (isText_quote _).isValue, (isText_quote _).isValue,
      .bool true⟩
  layout := by
    have hblank : IsBlank [0x20] := List.forall_mem_singleton.mpr rfl
    have hlayout : Enclosed IsNamed 0x7b 0x7d sampleMembers _ := .items <|
      .next (isNamed_quote "x" [' '] hblank) hblank isBlank_nil <|
      .next (isNamed_quote "origin" [] isBlank_nil) isBlank_nil hblank <|
      .next (isNamed_quote "type" [] isBlank_nil) hblank isBlank_nil <|
      .next (isNamed_quote "challenge" [] isBlank_nil) isBlank_nil isBlank_nil <|
      .last (isNamed_quote "crossOrigin" [] isBlank_nil) isBlank_nil isBlank_nil
    exact hlayout

theorem sampleMembers_isWritten : IsWritten ⟨"webauthn.get", [1], "b", none, true⟩ sampleMembers := by
  have hperm : sampleMembers.Perm ([("type", Bytes.ofChars (quote "webauthn.get")),
      ("challenge", Bytes.ofChars (quote "AQ==")), ("origin", Bytes.ofChars (quote "b"))] ++ [] ++
      [("crossOrigin", Bytes.ofChars "true".toList)] ++ [("x", Bytes.ofChars "[ -1.5e3 ]".toList)]) := by
    decide +kernel
  have hchallenge : IsText (Base64.urlSafe.encode [1] ++ String.ofList (List.replicate 2 Base64.padChar))
      (Bytes.ofChars (quote "AQ==")) := isText_quote _
  exact .members (isText_quote _) hchallenge (isText_quote _) .absent (.present rfl) (by decide) hperm

theorem members_read_wherever_they_stand_sample :
    ofJson sampleText = .ok ⟨"webauthn.get", [1], "b", none, true⟩ ∧
      ∃ cause, ofJson (Bytes.ofText "\x7b\x7d") = .error (.malformedClientData cause) := by
  have hempty : IsObject [] [0x7b, 0x7d] := ⟨List.forall_mem_nil _, .nothing isBlank_nil⟩
  have hread := (members_read_wherever_they_stand sampleMembers_isObject isBlank_nil isBlank_nil).1 _
    sampleMembers_isWritten
  rw [List.nil_append, List.append_nil] at hread
  exact ⟨hread, (members_read_wherever_they_stand hempty isBlank_nil isBlank_nil).2 (.inr ⟨"type", by decide⟩)⟩

end ClientData

end RelyingParty
