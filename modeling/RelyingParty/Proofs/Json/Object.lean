import RelyingParty.Json.Record
import RelyingParty.Proofs.Checks
import RelyingParty.Proofs.Json.Skipping

namespace RelyingParty.Json

variable {σ α : Type} {w more before after bs rest : Bytes}

/-- The value that `w` writes is read, whatever blanks stand before it and whatever stands after it. -/
def Reads (read : Reader α) (w : Bytes) (a : α) : Prop :=
  ∀ ⦃before more⦄, IsBlank before → Delimits more → read (before ++ (w ++ more)) = .ok (a, more)

theorem reads_readText {s : String} (h : IsText s w) : Reads readText w s := by
  obtain ⟨body, hbody, rfl⟩ := h
  intro before more hbefore _
  rw [readText, skipSpace_blank hbefore, List.cons_append, skipSpace_cons (by decide), List.append_assoc]
  exact hbody.readQuoted more

theorem reads_readBool {b : Bool} (h : IsFlag b w) : Reads readBool w b := by
  subst h
  intro before more hbefore _
  cases b
  · rw [readBool, skipSpace_blank hbefore]
    rfl
  · rw [readBool, skipSpace_blank hbefore]
    rfl

/-- A reader that may find null in the place of a value that opens with another letter. -/
theorem reads_readOptional {read : Reader α} {IsWritten : α → Bytes → Prop} (opening : UInt8)
    (hspace : isSpace opening = false) (hnull : opening ≠ 0x6e)
    (hread : ∀ {a w}, IsWritten a w → Reads read w a)
    (hopening : ∀ {a w}, IsWritten a w → w.head? = some opening) {a : Option α} (h : IsNullable IsWritten a w) :
    Reads (readOptional read) w a := by
  intro before more hbefore hmore
  rw [readOptional, skipSpace_blank hbefore]
  cases h with
  | null => rfl
  | value h =>
    have hvalue := hread h isBlank_nil hmore
    obtain ⟨w, rfl⟩ := List.head?_eq_some_iff.mp (hopening h)
    rw [List.cons_append, skipSpace_cons hspace]
    dsimp only
    split
    next heq => exact absurd (List.cons.inj heq).1 hnull
    next => exact bind_eq_ok.mpr ⟨_, hvalue, rfl⟩

theorem reads_readVariant {find : String → Option α} {s : String} {a : α} (h : IsText s w)
    (hfind : find s = some a) : Reads (readVariant find) w a := by
  obtain ⟨body, hbody, rfl⟩ := h
  intro before more hbefore _
  rw [readVariant, skipSpace_blank hbefore, List.cons_append, skipSpace_cons (by decide), List.append_assoc]
  refine bind_eq_ok.mpr ⟨_, hbody.readQuoted more, ?_⟩
  simp only [hfind]

theorem reads_readNatural {limit : Nat} (h : IsWhole w) (hlt : digitsValue 0 w < limit)
    (hlimit : limit ≤ UInt64.size) : Reads (readNatural limit) w (digitsValue 0 w) := by
  intro before more hbefore hmore
  have hread := h.readNumeral hmore
  have hkept : Numeral.natural? ⟨false, digitsValue 0 w, 0, true⟩ = some (digitsValue 0 w) := by
    simp only [Numeral.natural?, Numeral.wholeLimit, Nat.lt_of_lt_of_le hlt hlimit, Bool.not_false,
      Bool.and_self, decide_true, if_true]
  obtain ⟨hne, hall⟩ := h.isDigits
  obtain ⟨b, w, rfl⟩ := List.exists_cons_of_ne_nil hne
  have hopens : b = 0x2d ∨ isDigit b = true := .inr (hall b List.mem_cons_self)
  rw [readNatural, skipSpace_blank hbefore, List.cons_append, skipSpace_cons (isSpace_of_opens hopens),
    ← List.cons_append]
  simp only [hread, hkept, hlt, if_true]
  exact if_pos hopens

theorem readAll_of_reads {read : Reader α} {a : α} (h : Reads read w a) (hbefore : IsBlank before)
    (hafter : IsBlank after) : readAll read (before ++ (w ++ after)) = .ok a := by
  have hread := h hbefore (delimits_blank hafter delimits_nil)
  rw [List.append_nil] at hread
  have hend := skipSpace_blank hafter []
  rw [List.append_nil] at hend
  exact bind_eq_ok.mpr ⟨_, hread, by simp only [hend]; rfl⟩

theorem Reads.readAll {read : Reader α} {a : α} (h : Reads read w a) : readAll read w = .ok a := by
  have hread := readAll_of_reads h isBlank_nil isBlank_nil
  rwa [List.nil_append, List.append_nil] at hread

def takeValue (fields : List (Field σ)) (draft : σ) (name : String) : Reader σ := fun bs =>
  match fields.find? (·.name == name) with
  | some field => if field.isSet draft then .error (.duplicateField name) else field.read draft bs
  | none => (skipValue bs).map fun p => (draft, p.2)

theorem Field.read_eq_ok {field : Field σ} {draft next : σ} :
    field.read draft bs = .ok (next, rest) ↔ ∃ a, field.value bs = .ok (a, rest) ∧ next = field.set draft a := by
  constructor
  · intro h
    obtain ⟨⟨a, _⟩, hvalue, heq⟩ := bind_eq_ok.mp h
    cases heq
    exact ⟨a, hvalue, rfl⟩
  · rintro ⟨a, hvalue, rfl⟩
    exact bind_eq_ok.mpr ⟨_, hvalue, rfl⟩

/-- Members that make a draft into another, one after the other: the members that the draft is for,
each of them once, and members of other names. -/
inductive Takes (fields : List (Field σ)) : (draft : σ) → List (String × Bytes) → (filled : σ) → Prop
  | nil (draft : σ) : Takes fields draft [] draft
  | known {draft filled : σ} {name : String} {value : Bytes} {members : List (String × Bytes)}
    {field : Field σ} {a : field.Held} (found : fields.find? (·.name == name) = some field)
    (unset : field.get draft = none) (reads : Reads field.value value a)
    (rest : Takes fields (field.set draft a) members filled) : Takes fields draft ((name, value) :: members) filled
  | other {draft filled : σ} {name : String} {value : Bytes} {members : List (String × Bytes)}
    (unknown : fields.find? (·.name == name) = none) (isValue : IsValue value)
    (rest : Takes fields draft members filled) : Takes fields draft ((name, value) :: members) filled

def readNextMember (fields : List (Field σ)) (fuel : Nat) (draft : σ) : Reader σ := fun bs =>
  match skipSpace bs with
  | 0x22 :: rest => readMembersWithin fields fuel draft rest
  | _ => .error .malformed

def readOtherMembers (fields : List (Field σ)) (fuel : Nat) (draft : σ) : Reader σ := fun bs =>
  match skipSpace bs with
  | 0x7d :: rest => .ok (draft, rest)
  | 0x2c :: rest => readNextMember fields fuel draft rest
  | _ => .error .malformed

variable {fields : List (Field σ)} {draft next filled : σ} {name : String} {fuel : Nat}
  {m : String × Bytes} {members : List (String × Bytes)}

theorem readOtherMembers_closed (h : IsBlank after) (more : Bytes) :
    readOtherMembers fields fuel draft (after ++ 0x7d :: more) = .ok (draft, more) := by
  rw [readOtherMembers, skipSpace_blank h, skipSpace_cons (by decide)]
  rfl

theorem readOtherMembers_comma (h : IsBlank after) (more : Bytes) :
    readOtherMembers fields fuel draft (after ++ 0x2c :: more) = readNextMember fields fuel draft more := by
  rw [readOtherMembers, skipSpace_blank h, skipSpace_cons (by decide)]
  rfl

theorem readMembersWithin_colon {value : Bytes} (hname : readQuoted bs = .ok (name, rest))
    (hcolon : skipSpace rest = 0x3a :: value) :
    readMembersWithin fields (fuel + 1) draft bs =
      takeValue fields draft name value >>= fun p => readOtherMembers fields fuel p.1 p.2 := by
  rw [readMembersWithin, hname, ok_bind]
  simp only [hcolon]
  rw [takeValue]
  cases fields.find? (·.name == name) with
  | none => rfl
  | some field =>
    simp only [Option.any_some]
    split
    · rfl
    · rfl

/-- A member is read by its name up to the end of its value. -/
theorem readNextMember_named (fields : List (Field σ)) (h : IsNamed m w) (hbefore : IsBlank before) :
    ∃ blank, IsBlank blank ∧ ∀ fuel draft more,
      readNextMember fields (fuel + 1) draft (before ++ (w ++ more)) =
        takeValue fields draft m.1 (blank ++ (m.2 ++ more)) >>= fun p => readOtherMembers fields fuel p.1 p.2 := by
  obtain ⟨body, hbody, ⟨hleft, hright⟩⟩ := h
  refine ⟨_, hright, fun fuel draft more => ?_⟩
  rw [readNextMember, skipSpace_blank hbefore, List.cons_append, skipSpace_cons (by decide)]
  simp only [List.append_assoc, List.cons_append]
  refine readMembersWithin_colon (hbody.readQuoted _) ?_
  rw [skipSpace_blank hleft, skipSpace_cons (by decide)]

theorem Takes.first (h : Takes fields draft (m :: members) filled) :
    ∃ next, Reads (takeValue fields draft m.1) m.2 next ∧ Takes fields next members filled := by
  cases h with
  | known found unset reads rest =>
    refine ⟨_, fun _ _ hbefore hmore => ?_, rest⟩
    simp only [takeValue, found, Field.isSet, unset, Option.isSome_none, Bool.false_eq_true, if_false]
    exact Field.read_eq_ok.mpr ⟨_, reads hbefore hmore, rfl⟩
  | other unknown isValue rest =>
    refine ⟨draft, fun _ _ hbefore hmore => ?_, rest⟩
    simp only [takeValue, unknown, isValue.skipValue hbefore hmore]
    rfl

theorem Takes.readNextMember (h : Takes fields draft members filled) (hlisted : Listed IsNamed members w)
    (hfuel : members.length ≤ fuel) (more : Bytes) :
    readNextMember fields fuel draft (w ++ 0x7d :: more) = .ok (filled, more) := by
  induction hlisted generalizing fuel draft with
  | @last m before w after hw hbefore hafter =>
    obtain ⟨next, hvalue, hrest⟩ := h.first
    cases hrest
    obtain ⟨fuel, rfl⟩ := Nat.exists_eq_succ_of_ne_zero (Nat.ne_of_gt hfuel)
    obtain ⟨blank, hblank, hread⟩ := readNextMember_named fields hw hbefore
    rw [List.append_assoc, List.append_assoc, hread,
      hvalue hblank (delimits_blank hafter (delimits_cons (by decide) _)), ok_bind]
    exact readOtherMembers_closed hafter more
  | @next m members before w after tail hw hbefore hafter _ ih =>
    obtain ⟨next, hvalue, hrest⟩ := h.first
    obtain ⟨fuel, rfl⟩ := Nat.exists_eq_succ_of_ne_zero (Nat.ne_of_gt (Nat.zero_lt_of_lt hfuel))
    obtain ⟨blank, hblank, hread⟩ := readNextMember_named fields hw hbefore
    rw [List.append_assoc, List.append_assoc, List.append_assoc, List.cons_append, hread,
      hvalue hblank (delimits_blank hafter (delimits_cons (by decide) _)), ok_bind,
      readOtherMembers_comma hafter]
    exact ih hrest (Nat.le_of_succ_le_succ hfuel)

theorem Takes.append {others : List (String × Bytes)} (h : Takes fields draft members next)
    (hothers : Takes fields next others filled) : Takes fields draft (members ++ others) filled := by
  induction h with
  | nil => exact hothers
  | known found unset reads _ ih => exact .known found unset reads (ih hothers)
  | other unknown isValue _ ih => exact .other unknown isValue (ih hothers)

theorem find?_name_of_not_mem (h : name ∉ fields.map Field.name) : fields.find? (·.name == name) = none := by
  refine List.find?_eq_none.mpr fun field hfield heq => h ?_
  rw [← eq_of_beq heq]
  exact List.mem_map_of_mem hfield

/-- A member that may be left out fills its component of the draft, `put`, with what it is. -/
theorem takes_optional {get : σ → Option α} {set : σ → α → σ} {read : Reader α} {mayBeCutOff : Bool}
    {IsWritten : α → Bytes → Prop} {a : Option α} (h : IsOptional name IsWritten a members)
    (hread : ∀ {a w}, IsWritten a w → Reads read w a)
    (found : fields.find? (·.name == name) = some ⟨name, get, set, read, mayBeCutOff⟩) (put : Option α → σ)
    (hunset : get (put none) = none) (hput : ∀ a, set (put none) a = put (some a)) :
    Takes fields (put none) members (put a) := by
  cases h with
  | absent => exact .nil _
  | present h =>
    rw [← hput]
    exact .known found hunset (hread h) (.nil _)

theorem takes_others (hunknown : ∀ m ∈ members, m.1 ∉ fields.map Field.name)
    (hvalues : ∀ m ∈ members, IsValue m.2) (draft : σ) : Takes fields draft members draft := by
  induction members with
  | nil => exact .nil draft
  | cons m members ih =>
    obtain ⟨hm, hunknown⟩ := List.forall_mem_cons.mp hunknown
    obtain ⟨hvalue, hvalues⟩ := List.forall_mem_cons.mp hvalues
    exact .other (find?_name_of_not_mem hm) hvalue (ih hunknown hvalues)

theorem Listed.length_le (h : Listed IsNamed members w) : members.length ≤ w.length := by
  have hnamed {m : String × Bytes} {w : Bytes} (h : IsNamed m w) : 0 < w.length := by
    obtain ⟨_, _, ⟨_, _⟩⟩ := h
    exact Nat.zero_lt_succ _
  induction h with
  | last hw =>
    have hlength := hnamed hw
    simp only [List.length_append, List.length_singleton]
    omega
  | next hw _ _ _ ih =>
    simp only [List.length_append, List.length_cons]
    omega

/-- The bytes after the first quote are fuel enough. -/
theorem readMembers_listed (fields : List (Field σ)) (h : Listed IsNamed members w) (more : Bytes) :
    ∃ fuel, members.length ≤ fuel ∧ ∀ draft,
      readMembers fields draft (w ++ 0x7d :: more) = readNextMember fields fuel draft (w ++ 0x7d :: more) := by
  have hquote : ∃ rest, skipSpace (w ++ 0x7d :: more) = 0x22 :: rest ∧ members.length ≤ rest.length := by
    obtain ⟨hw, hbefore, hafter⟩ | ⟨hw, hbefore, hafter, hrest⟩ := h
    · obtain ⟨_, _, ⟨_, _⟩⟩ := hw
      rw [List.append_assoc, skipSpace_blank hbefore, List.append_assoc, List.cons_append,
        skipSpace_cons (by decide)]
      refine ⟨_, rfl, ?_⟩
      simp only [List.length_append, List.length_cons, List.length_nil]
      omega
    · obtain ⟨_, _, ⟨_, _⟩⟩ := hw
      have hlength := hrest.length_le
      rw [List.append_assoc, skipSpace_blank hbefore, List.append_assoc, List.cons_append,
        skipSpace_cons (by decide)]
      refine ⟨_, rfl, ?_⟩
      simp only [List.length_append, List.length_cons]
      omega
  obtain ⟨rest, hskip, hlength⟩ := hquote
  refine ⟨rest.length, hlength, fun draft => ?_⟩
  rw [readMembers, readNextMember, hskip]
  rfl

theorem Takes.readMembers (h : Takes fields draft members filled) (hlayout : Enclosed IsNamed 0x7b 0x7d members w) :
    ∃ tail, w = 0x7b :: tail ∧ ∀ more, readMembers fields draft (tail ++ more) = .ok (filled, more) := by
  obtain hblank | hlisted := hlayout
  · cases h
    refine ⟨_, rfl, fun more => ?_⟩
    rw [List.append_assoc, Json.readMembers, skipSpace_blank hblank, List.singleton_append,
      skipSpace_cons (by decide)]
    rfl
  · refine ⟨_, rfl, fun more => ?_⟩
    rw [List.append_assoc, List.singleton_append]
    obtain ⟨fuel, hfuel, hread⟩ := readMembers_listed fields hlisted more
    rw [hread, h.readNextMember hlisted hfuel]

theorem RecordFormat.read_object_eq_ok {format : RecordFormat σ α} {record : α} (hbefore : IsBlank before) :
    format.read (before ++ 0x7b :: bs) = .ok (record, rest) ↔
      ∃ filled, readMembers format.fields format.empty bs = .ok (filled, rest) ∧ format.build filled = .ok record := by
  rw [RecordFormat.read, skipSpace_blank hbefore, skipSpace_cons (by decide)]
  constructor
  · intro h
    obtain ⟨⟨filled, _⟩, hmembers, h⟩ := bind_eq_ok.mp h
    dsimp only at h
    obtain ⟨_, hbuild, heq⟩ := bind_eq_ok.mp h
    cases heq
    exact ⟨filled, hmembers, hbuild⟩
  · rintro ⟨filled, hmembers, hbuild⟩
    exact bind_eq_ok.mpr ⟨_, hmembers, bind_eq_ok.mpr ⟨_, hbuild, rfl⟩⟩

/-- An object whose members make the empty draft into one that builds a record is read as the record. -/
theorem RecordFormat.reads {format : RecordFormat σ α} {record : α}
    (h : Takes format.fields format.empty members filled) (hbuild : format.build filled = .ok record)
    (hobject : Enclosed IsNamed 0x7b 0x7d members w) : Reads format.read w record := by
  intro before more hbefore _
  obtain ⟨tail, rfl, hread⟩ := h.readMembers hobject
  rw [List.cons_append]
  exact (RecordFormat.read_object_eq_ok hbefore).mpr ⟨filled, hread more, hbuild⟩

end RelyingParty.Json
