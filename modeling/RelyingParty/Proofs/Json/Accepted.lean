import RelyingParty.Proofs.Json.Fields

namespace RelyingParty.Json

variable {σ α : Type} {w more before after bs rest value : Bytes} {fields : List (Field σ)}
  {draft next filled : σ} {name : String} {fuel : Nat} {m : String × Bytes} {members : List (String × Bytes)}

/-- The values of the members, taken one after the other, make the first draft into the second. -/
inductive Gathers (fields : List (Field σ)) : σ → List (String × Bytes) → σ → Prop
  | nil (draft : σ) : Gathers fields draft [] draft
  | cons {draft next filled : σ} {m : String × Bytes} {members : List (String × Bytes)} {blank more : Bytes}
    (hblank : IsBlank blank) (hmore : Delimits more)
    (htake : takeValue fields draft m.1 (blank ++ (m.2 ++ more)) = .ok (next, more))
    (hrest : Gathers fields next members filled) : Gathers fields draft (m :: members) filled

/-- The draft `filled` has the members of `draft` and those of the names, each of them once. -/
def Adds (fields : List (Field σ)) (draft : σ) (names : List String) (filled : σ) : Prop :=
  ∀ field ∈ fields, names.count field.name + (field.isSet draft).toNat = (field.isSet filled).toNat

theorem Adds.cons {names : List String} (h : Adds fields draft [name] next)
    (hrest : Adds fields next names filled) :
    Adds fields draft (name :: names) filled := by
  intro field hfield
  have hfirst := h field hfield
  have hothers := hrest field hfield
  rw [← List.singleton_append, List.count_append]
  omega

theorem Adds.count_le {names : List String} {field : Field σ} (h : Adds fields draft names filled)
    (hfield : field ∈ fields) : names.count field.name ≤ 1 := by
  have hcount := h field hfield
  have hle := Bool.toNat_le (field.isSet filled)
  omega

theorem Adds.mem_of_isSet {names : List String} {field : Field σ} (h : Adds fields draft names filled)
    (hfield : field ∈ fields) (hunset : field.isSet draft = false) (hset : field.isSet filled = true) :
    field.name ∈ names := by
  have hcount := h field hfield
  rw [hunset, hset] at hcount
  exact List.count_pos_iff.mp (by rw [← Nat.add_zero (names.count _)]; exact hcount ▸ Nat.zero_lt_one)

theorem LawfulFields.adds_takeValue (hlawful : LawfulFields fields)
    (h : takeValue fields draft name bs = .ok (next, rest)) : Adds fields draft [name] next := by
  unfold takeValue at h
  split at h
  next field hfind =>
    obtain ⟨hfield, rfl⟩ := find?_name_eq_some hfind
    split at h
    next => cases h
    next hunset =>
      intro other hother
      rw [List.count_singleton]
      obtain ⟨a, _, rfl⟩ := Field.read_eq_ok.mp h
      obtain rfl | hindependent := hlawful.eq_or_independent hfield hother
      · rw [Bool.eq_false_iff.mpr hunset, beq_self_eq_true, Field.isSet, hlawful.get_set field hfield]
        rfl
      · rw [Field.isSet, Field.isSet, hindependent.keeps_other, beq_eq_false_iff_ne.mpr hindependent.name_ne]
        exact Nat.zero_add _
  next hfind =>
    obtain ⟨rfl, _⟩ := map_skipValue_eq_ok h
    intro field hfield
    have hne := find?_name_eq_none hfind field hfield
    rw [List.count_singleton, beq_eq_false_iff_ne.mpr hne.symm]
    exact Nat.zero_add _

theorem LawfulFields.adds (hlawful : LawfulFields fields) (h : Gathers fields draft members filled) :
    Adds fields draft (members.map Prod.fst) filled := by
  induction h with
  | nil => exact fun field hfield => Nat.zero_add _
  | cons _ _ htake _ ih => exact (hlawful.adds_takeValue htake).cons ih

section Objects

variable (hskims : ∀ field ∈ fields, Skims field.value)
include hskims

theorem takeValue_of_readNextMember (hw : IsNamed m w) (hvalue : IsValue m.2) (hbefore : IsBlank before)
    (hmore : Delimits more) (h : readNextMember fields fuel draft (before ++ (w ++ more)) = .ok (filled, rest)) :
    ∃ fuel next blank, IsBlank blank ∧ takeValue fields draft m.1 (blank ++ (m.2 ++ more)) = .ok (next, more) ∧
      readOtherMembers fields fuel next more = .ok (filled, rest) := by
  obtain ⟨blank, hblank, hread⟩ := readNextMember_named fields hw hbefore
  cases fuel with
  | zero =>
    unfold readNextMember at h
    split at h
    · cases h
    · cases h
  | succ fuel =>
    rw [hread] at h
    obtain ⟨⟨next, rest'⟩, htake, hothers⟩ := bind_eq_ok.mp h
    -- a reader that stopped early would leave a part of the value where the next member is looked for
    obtain rfl := (skims_takeValue hskims).rest_eq hvalue hblank hmore htake
    exact ⟨fuel, next, blank, hblank, htake, hothers⟩

theorem gathers_readNextMember (hlisted : Listed IsNamed members w) (hvalues : ∀ m ∈ members, IsValue m.2)
    (h : readNextMember fields fuel draft (w ++ 0x7d :: more) = .ok (filled, rest)) :
    Gathers fields draft members filled := by
  induction hlisted generalizing fuel draft with
  | @last m before w after hw hbefore hafter =>
    have hdelimits := delimits_blank hafter (delimits_cons (by decide : (0x7d : UInt8) = _ ∨ _) more)
    rw [List.append_assoc, List.append_assoc] at h
    obtain ⟨fuel, next, blank, hblank, htake, hothers⟩ :=
      takeValue_of_readNextMember hskims hw (hvalues m List.mem_cons_self) hbefore hdelimits h
    rw [readOtherMembers_closed hafter] at hothers
    cases hothers
    exact .cons hblank hdelimits htake (.nil _)
  | @next m members before w after tail hw hbefore hafter hrest ih =>
    obtain ⟨hvalue, hvalues⟩ := List.forall_mem_cons.mp hvalues
    have hcomma : Delimits (0x2c :: (tail ++ 0x7d :: more)) := delimits_cons (by decide) _
    have hdelimits := delimits_blank hafter hcomma
    rw [List.append_assoc, List.append_assoc, List.append_assoc, List.cons_append] at h
    obtain ⟨fuel, next, blank, hblank, htake, hothers⟩ :=
      takeValue_of_readNextMember hskims hw hvalue hbefore hdelimits h
    rw [readOtherMembers_comma hafter] at hothers
    exact .cons hblank hdelimits htake (ih hvalues hothers)

end Objects

theorem RecordFormat.Lawful.gathers_object {format : RecordFormat σ α} {record : α} (hlawful : format.Lawful)
    (hobject : IsObject members w) (hbefore : IsBlank before)
    (h : format.read (before ++ (w ++ more)) = .ok (record, rest)) :
    ∃ filled, Gathers format.fields format.empty members filled ∧ format.build filled = .ok record := by
  obtain ⟨hvalues, hblank | hlisted⟩ := hobject
  · rw [List.cons_append] at h
    obtain ⟨filled, hmembers, hbuild⟩ := (RecordFormat.read_object_eq_ok hbefore).mp h
    rw [List.append_assoc, readMembers, skipSpace_blank hblank, List.singleton_append,
      skipSpace_cons (by decide)] at hmembers
    cases hmembers
    exact ⟨_, .nil _, hbuild⟩
  · rw [List.cons_append] at h
    obtain ⟨filled, hmembers, hbuild⟩ := (RecordFormat.read_object_eq_ok hbefore).mp h
    rw [List.append_assoc, List.singleton_append] at hmembers
    obtain ⟨fuel, -, hread⟩ := readMembers_listed format.fields hlisted more
    rw [hread] at hmembers
    exact ⟨filled, gathers_readNextMember hlawful.skims hlisted hvalues hmembers, hbuild⟩

theorem LawfulFields.find?_name (hlawful : LawfulFields fields) {field : Field σ} (hfield : field ∈ fields) :
    fields.find? (·.name == field.name) = some field := by
  cases h : fields.find? (·.name == field.name) with
  | none => exact absurd rfl (find?_name_eq_none h field hfield)
  | some other =>
    obtain ⟨hother, hname⟩ := find?_name_eq_some h
    obtain rfl | hindependent := hlawful.eq_or_independent hother hfield
    · rfl
    · exact absurd hname hindependent.name_ne

theorem LawfulFields.takeValue_eq_read (hlawful : LawfulFields fields) {field : Field σ} (hfield : field ∈ fields)
    (hunset : field.isSet draft = false) : takeValue fields draft field.name bs = field.read draft bs := by
  simp only [takeValue, hlawful.find?_name hfield, hunset, Bool.false_eq_true, if_false]

inductive IsTail : List Bytes → Bytes → Prop
  | close {blank : Bytes} (h : IsBlank blank) (more : Bytes) : IsTail [] (blank ++ 0x5d :: more)
  | comma {items : List Bytes} {blank w : Bytes} (h : IsBlank blank) (hlisted : Listed Eq items w) (more : Bytes) :
    IsTail items (blank ++ 0x2c :: (w ++ 0x5d :: more))

theorem IsTail.delimits {items : List Bytes} (h : IsTail items bs) : Delimits bs := by
  cases h with
  | close hblank => exact delimits_blank hblank (delimits_cons (by decide) _)
  | comma hblank => exact delimits_blank hblank (delimits_cons (by decide) _)

theorem first_item {items : List Bytes} (h : Listed Eq items w) (more : Bytes) :
    ∃ before item others tail, items = item :: others ∧ IsBlank before ∧ IsTail others tail ∧
      w ++ 0x5d :: more = before ++ (item ++ tail) := by
  cases h with
  | @last item before w after hw hbefore hafter =>
    subst hw
    exact ⟨before, item, [], _, rfl, hbefore, .close hafter more, by simp⟩
  | @next item others before w after rest hw hbefore hafter hrest =>
    subst hw
    exact ⟨before, item, others, _, rfl, hbefore, .comma hafter hrest more, by simp⟩

theorem skipSpace_item {item : Bytes} (hvalue : IsValue item) (hbefore : IsBlank before) (tail : Bytes) :
    ∃ b others, item ++ tail = b :: others ∧ b ≠ 0x5d ∧ skipSpace (before ++ (item ++ tail)) = b :: others := by
  obtain ⟨b, others, rfl, hspace, hne⟩ := hvalue.skipped.starts
  refine ⟨b, others ++ tail, rfl, hne, ?_⟩
  rw [skipSpace_blank hbefore, List.cons_append, skipSpace_cons hspace]

section Elements

variable {field : Field σ} {b : UInt8} {others : Bytes}

theorem readElements_closed {first : Bool} (h : skipSpace bs = 0x5d :: more) :
    readElements (field :: fields) first draft bs =
      if field.mayBeCutOff then readElements fields first draft (0x5d :: more) else .error .invalidLength := by
  rw [readElements, h]
  rfl

theorem eq_of_readElements_closed {first : Bool} (hblank : IsBlank before)
    (h : readElements fields first draft (before ++ 0x5d :: more) = .ok (filled, rest)) : filled = draft := by
  induction fields generalizing before with
  | nil =>
    cases h
    rfl
  | cons field fields ih =>
    have hskip : skipSpace (before ++ 0x5d :: more) = 0x5d :: more :=
      (skipSpace_blank hblank _).trans (skipSpace_cons (by decide) _)
    rw [readElements_closed hskip] at h
    split at h
    next => exact ih isBlank_nil h
    next => cases h

variable (hb : b ≠ 0x5d)
include hb

theorem readElements_first (h : skipSpace bs = b :: others) :
    readElements (field :: fields) true draft bs =
      field.read draft (b :: others) >>= fun p => readElements fields false p.1 p.2 := by
  rw [readElements]
  split
  next heq => cases h.symm.trans heq
  next heq => exact absurd (List.cons.inj (h.symm.trans heq)).1 hb
  next heq =>
    cases h.symm.trans heq
    rfl

theorem readElements_comma (hcomma : skipSpace bs = 0x2c :: w) (h : skipSpace w = b :: others) :
    readElements (field :: fields) false draft bs =
      field.read draft (b :: others) >>= fun p => readElements fields false p.1 p.2 := by
  rw [readElements, hcomma]
  split
  next heq => cases heq
  next heq => cases heq
  next heq =>
    cases heq
    simp only [h, Bool.false_eq_true, if_false, if_true]
    split
    next heq => exact absurd (List.cons.inj heq).1 hb
    next => rfl

end Elements

section Items

variable {remaining : List (Field σ)} {items : List Bytes} {tail : Bytes} (hlawful : LawfulFields fields)
include hlawful

/-- The reader of the next member takes the item, and leaves the members after it as they are. -/
theorem LawfulFields.read_item {field : Field σ} {item : Bytes} (hsub : (field :: remaining).Sublist fields)
    (hunset : ∀ other ∈ field :: remaining, other.isSet draft = false) (hvalue : IsValue item)
    (htail : IsTail items tail) (h : field.read draft (item ++ tail) = .ok (next, rest)) :
    rest = tail ∧ takeValue fields draft field.name ([] ++ (item ++ tail)) = .ok (next, tail) ∧
      ∀ other ∈ remaining, other.isSet next = false := by
  have hfield : field ∈ fields := hsub.subset List.mem_cons_self
  have hindependent := (List.pairwise_cons.mp (hlawful.independent.sublist hsub)).1
  obtain rfl := (Field.skims_read (hlawful.skims field hfield) draft).rest_eq hvalue isBlank_nil htail.delimits h
  refine ⟨rfl, ?_, fun other hother => ?_⟩
  · rw [hlawful.takeValue_eq_read hfield (hunset field List.mem_cons_self)]
    exact h
  · obtain ⟨a, _, rfl⟩ := Field.read_eq_ok.mp h
    rw [Field.isSet, (hindependent other hother).keeps_other]
    exact hunset other (List.mem_cons_of_mem field hother)

theorem LawfulFields.gathers_tail (hsub : remaining.Sublist fields)
    (hunset : ∀ other ∈ remaining, other.isSet draft = false) (hvalues : ∀ item ∈ items, IsValue item)
    (htail : IsTail items bs) (h : readElements remaining false draft bs = .ok (filled, rest)) :
    Gathers fields draft ((remaining.map Field.name).zip items) filled := by
  induction remaining generalizing draft items bs with
  | nil =>
    cases h
    exact .nil _
  | cons field remaining ih =>
    have hrest : remaining.Sublist fields := (List.sublist_cons_self field remaining).trans hsub
    cases htail with
    | close hblank more =>
      obtain rfl := eq_of_readElements_closed hblank h
      rw [List.zip_nil_right]
      exact .nil _
    | @comma _ blank w hblank hlisted more =>
      obtain ⟨before, item, others, tail, rfl, hbefore, htail, heq⟩ := first_item hlisted more
      obtain ⟨hvalue, hvalues⟩ := List.forall_mem_cons.mp hvalues
      obtain ⟨b, bytes, hitem, hb, hskip⟩ := skipSpace_item hvalue hbefore tail
      have hcomma : skipSpace (blank ++ 0x2c :: (w ++ 0x5d :: more)) = 0x2c :: (w ++ 0x5d :: more) :=
        (skipSpace_blank hblank _).trans (skipSpace_cons (by decide) _)
      rw [readElements_comma hb hcomma (heq ▸ hskip), ← hitem] at h
      obtain ⟨⟨next, afterItem⟩, hread, hothers⟩ := bind_eq_ok.mp h
      obtain ⟨rfl, htake, hunset⟩ := hlawful.read_item hsub hunset hvalue htail hread
      exact .cons isBlank_nil htail.delimits htake (ih hrest hunset hvalues htail hothers)

theorem LawfulFields.gathers_items (hsub : remaining.Sublist fields)
    (hunset : ∀ other ∈ remaining, other.isSet draft = false) (hvalues : ∀ item ∈ items, IsValue item)
    (hlisted : Listed Eq items w)
    (h : readElements remaining true draft (w ++ 0x5d :: more) = .ok (filled, rest)) :
    Gathers fields draft ((remaining.map Field.name).zip items) filled := by
  cases remaining with
  | nil =>
    cases h
    exact .nil _
  | cons field remaining =>
    have hrest : remaining.Sublist fields := (List.sublist_cons_self field remaining).trans hsub
    obtain ⟨before, item, others, tail, rfl, hbefore, htail, heq⟩ := first_item hlisted more
    obtain ⟨hvalue, hvalues⟩ := List.forall_mem_cons.mp hvalues
    obtain ⟨b, bytes, hitem, hb, hskip⟩ := skipSpace_item hvalue hbefore tail
    rw [heq, readElements_first hb hskip, ← hitem] at h
    obtain ⟨⟨next, afterItem⟩, hread, hothers⟩ := bind_eq_ok.mp h
    obtain ⟨rfl, htake, hunset⟩ := hlawful.read_item hsub hunset hvalue htail hread
    exact .cons isBlank_nil htail.delimits htake (hlawful.gathers_tail hrest hunset hvalues htail hothers)

end Items

theorem RecordFormat.read_array_eq_ok {format : RecordFormat σ α} {record : α} (hbefore : IsBlank before)
    (h : format.read (before ++ 0x5b :: bs) = .ok (record, rest)) :
    ∃ filled close, readElements format.fields true format.empty bs = .ok (filled, close) ∧
      format.build filled = .ok record := by
  rw [RecordFormat.read, skipSpace_blank hbefore, skipSpace_cons (by decide)] at h
  obtain ⟨⟨filled, close⟩, hitems, h⟩ := bind_eq_ok.mp h
  obtain ⟨made, hbuild, h⟩ := bind_eq_ok.mp h
  split at h
  next =>
    cases h
    exact ⟨filled, close, hitems, hbuild⟩
  next => cases h

/-- An array is read as the object that has its items under the names of the record, in order. -/
theorem RecordFormat.Lawful.gathers_array {format : RecordFormat σ α} {record : α} {items : List Bytes}
    (hlawful : format.Lawful) (hvalues : ∀ item ∈ items, IsValue item)
    (harray : Enclosed Eq 0x5b 0x5d items w) (hbefore : IsBlank before)
    (h : format.read (before ++ (w ++ more)) = .ok (record, rest)) :
    ∃ filled, Gathers format.fields format.empty ((format.fields.map Field.name).zip items) filled ∧
      format.build filled = .ok record := by
  obtain hblank | hlisted := harray
  · rw [List.cons_append, List.append_assoc] at h
    obtain ⟨filled, close, hitems, hbuild⟩ := RecordFormat.read_array_eq_ok hbefore h
    obtain rfl := eq_of_readElements_closed hblank hitems
    rw [List.zip_nil_right]
    exact ⟨_, .nil _, hbuild⟩
  · rw [List.cons_append, List.append_assoc] at h
    obtain ⟨filled, close, hitems, hbuild⟩ := RecordFormat.read_array_eq_ok hbefore h
    exact ⟨filled, hlawful.gathers_items (List.Sublist.refl _) hlawful.unset hvalues hlisted hitems, hbuild⟩

section Values

variable {field : Field σ} {a : field.Held} (hlawful : LawfulFields fields) (hfield : field ∈ fields)
include hlawful hfield

/-- What was read stays until the end, for the member is not taken twice. -/
theorem LawfulFields.get_of_gathers (h : Gathers fields draft members filled) (ha : field.get draft = some a) :
    field.get filled = some a := by
  induction h with
  | nil => exact ha
  | cons _ _ htake _ ih =>
    apply ih
    unfold takeValue at htake
    split at htake
    next other hfind =>
      split at htake
      next => cases htake
      next hunset =>
        obtain ⟨b, _, rfl⟩ := Field.read_eq_ok.mp htake
        obtain rfl | hindependent := hlawful.eq_or_independent (find?_name_eq_some hfind).1 hfield
        · exact absurd (congrArg Option.isSome ha) hunset
        · rw [hindependent.keeps_other, ha]
    next =>
      obtain ⟨rfl, _⟩ := map_skipValue_eq_ok htake
      exact ha

theorem LawfulFields.value_of_gathers (h : Gathers fields draft members filled)
    (hm : (field.name, value) ∈ members) :
    ∃ a blank more, IsBlank blank ∧ Delimits more ∧ field.value (blank ++ (value ++ more)) = .ok (a, more) ∧
      field.get filled = some a := by
  induction h with
  | nil => cases hm
  | @cons draft next filled m members blank more hblank hmore htake hrest ih =>
    obtain rfl | hm := List.mem_cons.mp hm
    · simp only [takeValue, hlawful.find?_name hfield] at htake
      split at htake
      next => cases htake
      next =>
        obtain ⟨a, hvalue, rfl⟩ := Field.read_eq_ok.mp htake
        have hget := hlawful.get_of_gathers hfield hrest (hlawful.get_set field hfield draft a)
        exact ⟨a, blank, more, hblank, hmore, hvalue, hget⟩
    · exact ih hm

end Values

/-- The bytes write a record, of which a member is a text: as an object with a member of the name, or as an
array with the text in the place of the name. -/
inductive Writes (names : List String) (name text : String) : Bytes → Prop
  | object {members : List (String × Bytes)} {before w after value : Bytes} (hobject : IsObject members w)
    (hbefore : IsBlank before) (hafter : IsBlank after) (hmember : (name, value) ∈ members)
    (htext : IsText text value) : Writes names name text (before ++ (w ++ after))
  | array {items : List Bytes} {before w after value : Bytes} (hvalues : ∀ item ∈ items, IsValue item)
    (harray : Enclosed Eq 0x5b 0x5d items w) (hbefore : IsBlank before) (hafter : IsBlank after)
    (hmember : (name, value) ∈ names.zip items) (htext : IsText text value) :
    Writes names name text (before ++ (w ++ after))

def RecordFormat.names (format : RecordFormat σ α) : List String := format.fields.map Field.name

theorem RecordFormat.Lawful.gathers_of_writes {format : RecordFormat σ α} {record : α} {text : String}
    (hlawful : format.Lawful) (hwrites : Writes format.names name text bs) (h : readAll format.read bs = .ok record) :
    ∃ filled members value, Gathers format.fields format.empty members filled ∧
      format.build filled = .ok record ∧ (name, value) ∈ members ∧ IsText text value := by
  obtain ⟨⟨made, rest⟩, hread, h⟩ := bind_eq_ok.mp h
  obtain rfl : made = record := by
    dsimp only at h
    split at h
    next => exact Except.ok.inj h
    next => cases h
  cases hwrites with
  | object hobject hbefore hafter hmember htext =>
    obtain ⟨filled, hgathers, hbuild⟩ := hlawful.gathers_object hobject hbefore hread
    exact ⟨filled, _, _, hgathers, hbuild, hmember, htext⟩
  | array hvalues harray hbefore hafter hmember htext =>
    obtain ⟨filled, hgathers, hbuild⟩ := hlawful.gathers_array hvalues harray hbefore hread
    exact ⟨filled, _, _, hgathers, hbuild, hmember, htext⟩

end RelyingParty.Json
