import RelyingParty.Json.ByteString
import RelyingParty.Proofs.Json.Accepted
import RelyingParty.Proofs.Json.Written

namespace RelyingParty.Json

variable {σ α : Type} {bs rest : Bytes}

theorem readBytes_eq_ok {bytes : Bytes} :
    readBytes bs = .ok (bytes, rest) ↔ ∃ s, readText bs = .ok (s, rest) ∧ Base64.decodeUrl? s = some bytes := by
  constructor
  · intro h
    obtain ⟨⟨s, _⟩, htext, h⟩ := bind_eq_ok.mp h
    dsimp only at h
    split at h
    next hdecode =>
      cases h
      exact ⟨s, htext, hdecode⟩
    next => cases h
  · rintro ⟨s, htext, hdecode⟩
    exact bind_eq_ok.mpr ⟨_, htext, by simp only [hdecode]⟩

theorem readFixedBytes_eq_ok {n : Nat} {b : FixedBytes n} :
    readFixedBytes n bs = .ok (b, rest) ↔ readBytes bs = .ok (b.bytes, rest) := by
  constructor
  · intro h
    obtain ⟨⟨bytes, _⟩, hbytes, h⟩ := bind_eq_ok.mp h
    dsimp only at h
    split at h
    next hfixed =>
      cases h
      rw [FixedBytes.ofBytes?] at hfixed
      split at hfixed
      next =>
        cases hfixed
        exact hbytes
      next => cases hfixed
    next => cases h
  · intro h
    exact bind_eq_ok.mpr ⟨_, h, by simp only [FixedBytes.ofBytes?_bytes]⟩

theorem skims_readBytes : Skims readBytes := by
  intro bs bytes rest h
  obtain ⟨s, htext, _⟩ := readBytes_eq_ok.mp h
  exact skims_readText htext

theorem skims_readFixedBytes (n : Nat) : Skims (readFixedBytes n) := by
  intro bs b rest h
  exact skims_readBytes (readFixedBytes_eq_ok.mp h)

theorem skims_readUInt32 : Skims readUInt32 := by
  intro bs n rest h
  obtain ⟨_, hread, heq⟩ := bind_eq_ok.mp h
  cases heq
  exact skims_readNatural _ hread

theorem skims_readUInt64 : Skims readUInt64 := by
  intro bs n rest h
  obtain ⟨_, hread, heq⟩ := bind_eq_ok.mp h
  cases heq
  exact skims_readNatural _ hread

/-- A text is read, if it is read at all, as a value to which it has the relation. -/
def ReadsTexts (read : Reader α) (Means : String → α → Prop) : Prop :=
  ∀ ⦃text : String⦄ ⦃value blank more : Bytes⦄ ⦃a rest⦄, IsText text value → IsBlank blank → Delimits more →
    read (blank ++ (value ++ more)) = .ok (a, rest) → Means text a

theorem readsTexts_readText : ReadsTexts readText Eq := by
  intro text value blank more s rest htext hblank hmore h
  rw [reads_readText htext hblank hmore] at h
  cases h
  rfl

theorem readsTexts_readBytes : ReadsTexts readBytes fun text bytes => Base64.decodeUrl? text = some bytes := by
  intro text value blank more bytes rest htext hblank hmore h
  obtain ⟨s, hread, hdecode⟩ := readBytes_eq_ok.mp h
  obtain rfl := readsTexts_readText htext hblank hmore hread
  exact hdecode

theorem readsTexts_readFixedBytes (n : Nat) :
    ReadsTexts (readFixedBytes n) fun text b => Base64.decodeUrl? text = some b.bytes := by
  intro text value blank more b rest htext hblank hmore h
  exact readsTexts_readBytes htext hblank hmore (readFixedBytes_eq_ok.mp h)

/-- A quote does not open a null. -/
theorem readsTexts_readOptional {read : Reader α} {Means : String → α → Prop} (h : ReadsTexts read Means) :
    ReadsTexts (readOptional read) fun text a => ∃ b, a = some b ∧ Means text b := by
  intro text value blank more a rest htext hblank hmore hread
  have hquote : ∃ body, skipSpace (blank ++ (value ++ more)) = 0x22 :: body ∧ value ++ more = 0x22 :: body := by
    obtain ⟨body, _, rfl⟩ := htext
    exact ⟨_, (skipSpace_blank hblank _).trans (skipSpace_cons (by decide) _), rfl⟩
  obtain ⟨body, hskip, hvalue⟩ := hquote
  rw [readOptional, hskip] at hread
  obtain ⟨⟨b, _⟩, hread, heq⟩ := bind_eq_ok.mp hread
  cases heq
  rw [← hvalue] at hread
  exact ⟨b, rfl, h htext isBlank_nil hmore hread⟩

/-- What an accepted record has for a text is what the reader of the member makes of it, in an object as in an
array. -/
theorem RecordFormat.Lawful.value_of_writes {format : RecordFormat σ α} {record : α} {text : String}
    {field : Field σ} {Means : String → field.Held → Prop} (hlawful : format.Lawful)
    (hfield : field ∈ format.fields) (hreads : ReadsTexts field.value Means)
    (hwrites : Writes format.names field.name text bs) (h : readAll format.read bs = .ok record) :
    ∃ filled b, format.build filled = .ok record ∧ field.get filled = some b ∧ Means text b := by
  obtain ⟨filled, members, value, hgathers, hbuild, hmember, htext⟩ := hlawful.gathers_of_writes hwrites h
  obtain ⟨b, blank, more, hblank, hmore, hread, hget⟩ := hlawful.value_of_gathers hfield hgathers hmember
  exact ⟨filled, b, hbuild, hget, hreads htext hblank hmore hread⟩

theorem Renders.writes {names : List String} {name text : String} {members : List (String × Value)} {w : Bytes}
    (h : Renders (.object members) w) (hmember : (name, .text text) ∈ members) : Writes names name text w := by
  generalize hv : Value.object members = v at h
  cases h with
  | @object texts w hvalues hlayout =>
    obtain rfl := Value.object.inj hv
    obtain ⟨⟨name, value, written⟩, hm, heq⟩ := List.mem_map.mp hmember
    obtain ⟨rfl, rfl⟩ := Prod.mk.inj heq
    have hobject : IsObject (texts.map fun m => (m.1, m.2.2)) w :=
      ⟨List.forall_mem_map.mpr fun m hm => (hvalues m hm).isValue, hlayout⟩
    cases hvalues _ hm with
    | text htext =>
      have hwrites : Writes names name text ([] ++ (w ++ [])) :=
        .object hobject isBlank_nil isBlank_nil (List.mem_map_of_mem hm) htext
      rwa [List.nil_append, List.append_nil] at hwrites
  | _ => cases hv

end RelyingParty.Json
