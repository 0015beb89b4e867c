import RelyingParty.Json.ByteString
import RelyingParty.Proofs.Base64
import RelyingParty.Proofs.Json.Written

namespace RelyingParty.Json

variable {σ α β : Type} {w before after : Bytes}

def ReadsBack (read : Reader α) (value : α → Value) : Prop :=
  ∀ a ⦃w⦄, Renders (value a) w → Reads read w a

theorem readsBack_text : ReadsBack readText .text := by
  intro s w h
  cases h with
  | text h => exact reads_readText h

theorem readsBack_bool : ReadsBack readBool .bool := by
  intro b w h
  cases h with
  | bool h => exact reads_readBool h

theorem readsBack_natural {limit : Nat} (hlimit : limit ≤ UInt64.size) {n : Nat} (hn : n < limit)
    (h : Renders (.number n) w) : Reads (readNatural limit) w n := by
  cases h with
  | number h hvalue =>
    subst hvalue
    exact reads_readNatural h hn hlimit

theorem readsBack_variant {find : String → Option α} {name : α → String} (h : ∀ a, find (name a) = some a) :
    ReadsBack (readVariant find) fun a => .text (name a) := by
  intro a w hw
  cases hw with
  | text hw => exact reads_readVariant hw (h a)

theorem readsBack_uint32 : ReadsBack readUInt32 fun n => .number n.toNat := by
  intro n w h before more hbefore hmore
  refine bind_eq_ok.mpr ⟨_, readsBack_natural (by decide) n.toNat_lt h hbefore hmore, ?_⟩
  simp only [UInt32.ofNat_toNat]

theorem readsBack_uint64 : ReadsBack readUInt64 fun n => .number n.toNat := by
  intro n w h before more hbefore hmore
  refine bind_eq_ok.mpr ⟨_, readsBack_natural (Nat.le_refl _) n.toNat_lt h hbefore hmore, ?_⟩
  simp only [UInt64.ofNat_toNat]

section Bytes

variable {text : String} {bytes : Bytes}

theorem reads_readBytes (hdecode : Base64.decodeUrl? text = some bytes) ⦃w : Bytes⦄ (h : Renders (.text text) w) :
    Reads readBytes w bytes := by
  intro before more hbefore hmore
  refine bind_eq_ok.mpr ⟨_, readsBack_text _ h hbefore hmore, ?_⟩
  simp only [hdecode]

theorem reads_readFixedBytes {n : Nat} {b : FixedBytes n} (hdecode : Base64.decodeUrl? text = some b.bytes) ⦃w : Bytes⦄
    (h : Renders (.text text) w) : Reads (readFixedBytes n) w b := by
  intro before more hbefore hmore
  refine bind_eq_ok.mpr ⟨_, reads_readBytes hdecode h hbefore hmore, ?_⟩
  simp only [FixedBytes.ofBytes?_bytes]

theorem reads_readSomeBytes (hdecode : Base64.decodeUrl? text = some bytes) ⦃w : Bytes⦄ (h : Renders (.text text) w) :
    Reads (readOptional readBytes) w (some bytes) := by
  have hread {b : Bytes} {w : Bytes} (h : Base64.decodeUrl? text = some b ∧ Renders (.text text) w) :
      Reads readBytes w b := reads_readBytes h.1 h.2
  refine reads_readOptional 0x22 (by decide) (by decide) hread ?_ (.value ⟨hdecode, h⟩)
  rintro b w ⟨_, h⟩
  cases h with
  | text h =>
    obtain ⟨_, _, rfl⟩ := h
    rfl

end Bytes

def respelled (texts : String → Option String) (name : String) (value : Value) : Value :=
  ((texts name).map .text).getD value

/-- The value with other texts in the place of some of its members. -/
def Value.respell (texts : String → Option String) : Value → Value
  | .object members => .object (members.map fun m => (m.1, respelled texts m.1 m.2))
  | v => v

theorem Value.respell_none (v : Value) : v.respell (fun _ => none) = v := by
  cases v with
  | object members => exact congrArg Value.object (List.map_id' members)
  | _ => rfl

section Respelled

variable {texts : String → Option String} {name : String}

theorem reads_kept {read : Reader α} {value : Value} {a : α} (hname : texts name = none)
    (hreads : ∀ ⦃w⦄, Renders value w → Reads read w a) ⦃w : Bytes⦄ (h : Renders (respelled texts name value) w) :
    Reads read w a := by
  rw [respelled, hname] at h
  exact hreads h

/-- A byte string is read from any text that decodes to it. -/
theorem reads_respelled {read : Reader α} {bytes : Bytes} {a : α}
    (hreads : ∀ {text}, Base64.decodeUrl? text = some bytes → ∀ ⦃w⦄, Renders (.text text) w → Reads read w a)
    (hdecode : ∀ text ∈ texts name, Base64.decodeUrl? text = some bytes) ⦃w : Bytes⦄
    (h : Renders (respelled texts name (.bytes bytes)) w) : Reads read w a := by
  rw [respelled] at h
  cases htext : texts name with
  | none =>
    rw [htext] at h
    exact hreads (Base64.decodeUrl?_encode bytes) h
  | some text =>
    rw [htext] at h
    exact hreads (hdecode text htext) h

theorem map_optionalMember (value : α → Value) (a : Option α) :
    (optionalMember name value a).map (fun m => (m.1, respelled texts m.1 m.2)) =
      optionalMember name (fun a => respelled texts name (value a)) a := by
  cases a <;> rfl

end Respelled

variable {fields : List (Field σ)} {draft next filled : σ} {name : String}
  {members others : List (String × Value)}

/-- Members of a written object that fill a draft, each of them once: `draft` becomes `filled`. -/
inductive Fills (fields : List (Field σ)) : (draft : σ) → List (String × Value) → (filled : σ) → Prop
  | nil (draft : σ) : Fills fields draft [] draft
  | cons {draft filled : σ} {name : String} {value : Value} {members : List (String × Value)}
    {field : Field σ} {a : field.Held} (found : fields.find? (·.name == name) = some field)
    (unset : field.get draft = none) (reads : ∀ ⦃w⦄, Renders value w → Reads field.value w a)
    (rest : Fills fields (field.set draft a) members filled) : Fills fields draft ((name, value) :: members) filled

theorem Fills.append (h : Fills fields draft members next) (hothers : Fills fields next others filled) :
    Fills fields draft (members ++ others) filled := by
  induction h with
  | nil => exact hothers
  | cons found unset reads _ ih => exact .cons found unset reads (ih hothers)

/-- A member that is left out if it is absent fills its component of the draft, `put`. -/
theorem fills_optionalMember {get : σ → Option β} {set : σ → β → σ} {read : Reader β} {mayBeCutOff : Bool}
    {value : α → Value} {made : α → β} {a : Option α}
    (reads : ∀ b ∈ a, ∀ ⦃w⦄, Renders (value b) w → Reads read w (made b))
    (found : fields.find? (·.name == name) = some ⟨name, get, set, read, mayBeCutOff⟩) (put : Option β → σ)
    (hunset : get (put none) = none) (hput : ∀ b, set (put none) b = put (some b)) :
    Fills fields (put none) (optionalMember name value a) (put (a.map made)) := by
  cases a with
  | none => exact .nil _
  | some a =>
    rw [Option.map_some, ← hput]
    exact .cons found hunset (reads a rfl) (.nil _)

theorem Fills.takes (h : Fills fields draft members filled) {texts : List (String × Value × Bytes)}
    (hmembers : texts.map (fun m => (m.1, m.2.1)) = members) (hvalues : ∀ m ∈ texts, Renders m.2.1 m.2.2) :
    Takes fields draft (texts.map fun m => (m.1, m.2.2)) filled := by
  induction h generalizing texts with
  | nil =>
    obtain rfl := List.map_eq_nil_iff.mp hmembers
    exact .nil _
  | cons found unset reads _ ih =>
    obtain ⟨⟨name, value, w⟩, texts, rfl, heq, hrest⟩ := List.map_eq_cons_iff.mp hmembers
    obtain ⟨rfl, rfl⟩ := Prod.mk.inj heq
    obtain ⟨hvalue, hvalues⟩ := List.forall_mem_cons.mp hvalues
    exact .known found unset (reads hvalue) (ih hrest hvalues)

/-- An object whose members fill the draft is read, from any of its texts, as the record that the draft
makes. -/
theorem Fills.reads {format : RecordFormat σ α} {record : α} (h : Fills format.fields format.empty members filled)
    (hbuild : format.build filled = .ok record) (hrenders : Renders (.object members) w) :
    Reads format.read w record := by
  generalize hv : Value.object members = v at hrenders
  cases hrenders with
  | object hvalues hlayout =>
    obtain rfl := Value.object.inj hv
    exact RecordFormat.reads (h.takes rfl hvalues) hbuild hlayout
  | _ => cases hv

end RelyingParty.Json
