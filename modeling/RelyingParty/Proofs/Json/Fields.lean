import Mathlib.Data.List.Pairwise
import RelyingParty.Proofs.Json.Object

namespace RelyingParty.Json

variable {σ α : Type} {w more before after bs rest : Bytes} {fields : List (Field σ)}
  {draft next filled : σ} {name : String} {fuel : Nat} {m : String × Bytes} {members : List (String × Bytes)}

structure Field.Independent (field other : Field σ) : Prop where
  name_ne : field.name ≠ other.name
  keeps_other : ∀ draft a, other.get (field.set draft a) = other.get draft
  keeps : ∀ draft b, field.get (other.set draft b) = field.get draft
  commute : ∀ draft a b, other.set (field.set draft a) b = field.set (other.set draft b) a

/-- The members of a record: independent of each other, each held as it was set, and with a reader that takes a
whole value. -/
structure LawfulFields (fields : List (Field σ)) : Prop where
  independent : fields.Pairwise Field.Independent
  get_set : ∀ field ∈ fields, ∀ draft a, field.get (field.set draft a) = some a
  skims : ∀ field ∈ fields, Skims field.value

/-- A record with such members, none of which its first draft holds. -/
structure RecordFormat.Lawful (format : RecordFormat σ α) : Prop extends LawfulFields format.fields where
  unset : ∀ field ∈ format.fields, field.isSet format.empty = false

theorem required_eq_ok {a : Option α} {value : α} (h : required name a = .ok value) : a = some value := by
  cases a with
  | none => cases h
  | some b => exact congrArg some (Except.ok.inj h)

theorem Field.Independent.symm {field other : Field σ} (h : field.Independent other) :
    other.Independent field where
  name_ne := h.name_ne.symm
  keeps_other := h.keeps
  keeps := h.keeps_other
  commute draft b a := (h.commute draft a b).symm

instance : Std.Symm (@Field.Independent σ) := ⟨fun _ _ h => h.symm⟩

theorem Field.skims_read {field : Field σ} (h : Skims field.value) (draft : σ) : Skims (field.read draft) := by
  intro bs next rest hread
  obtain ⟨a, hvalue, _⟩ := Field.read_eq_ok.mp hread
  exact h hvalue

theorem find?_name_eq_some {field : Field σ} (h : fields.find? (·.name == name) = some field) :
    field ∈ fields ∧ field.name = name :=
  ⟨List.mem_of_find?_eq_some h, by simpa only [beq_iff_eq] using List.find?_some h⟩

theorem find?_name_eq_none (h : fields.find? (·.name == name) = none) : ∀ field ∈ fields, field.name ≠ name :=
  fun field hfield => by simpa only [beq_iff_eq] using List.find?_eq_none.mp h field hfield

namespace LawfulFields

variable (hlawful : LawfulFields fields)
include hlawful

theorem eq_or_independent {field other : Field σ} (hfield : field ∈ fields) (hother : other ∈ fields) :
    field = other ∨ field.Independent other := by
  by_cases heq : field = other
  · exact .inl heq
  · exact .inr (hlawful.independent.forall hfield hother heq)

/-- Of two members that stand next to each other, either may stand first. -/
theorem takes_swap {m' : String × Bytes} (h : Takes fields draft (m :: m' :: members) filled) :
    Takes fields draft (m' :: m :: members) filled := by
  cases h with
  | other unknown isValue rest =>
    cases rest with
    | other unknown' isValue' rest => exact .other unknown' isValue' (.other unknown isValue rest)
    | known found unset reads rest => exact .known found unset reads (.other unknown isValue rest)
  | known found unset reads rest =>
    cases rest with
    | other unknown' isValue' rest => exact .other unknown' isValue' (.known found unset reads rest)
    | known found' unset' reads' rest =>
      -- both are members of the record, and two different ones, for the first has been set
      have hfield := (find?_name_eq_some found).1
      obtain rfl | hindependent := hlawful.eq_or_independent hfield (find?_name_eq_some found').1
      · cases (hlawful.get_set _ hfield draft _).symm.trans unset'
      · rw [hindependent.keeps_other] at unset'
        rw [hindependent.commute] at rest
        exact .known found' unset' reads' (.known found ((hindependent.keeps draft _).trans unset) reads rest)

theorem takes_perm {members' : List (String × Bytes)} (hperm : members.Perm members')
    (h : Takes fields draft members filled) : Takes fields draft members' filled := by
  induction hperm generalizing draft with
  | nil => exact h
  | cons m _ ih =>
    cases h with
    | known found unset reads rest => exact .known found unset reads (ih rest)
    | other unknown isValue rest => exact .other unknown isValue (ih rest)
  | swap m m' _ => exact hlawful.takes_swap h
  | trans _ _ ih ih' => exact ih' (ih h)

end LawfulFields

theorem map_skipValue_eq_ok (h : (skipValue bs).map (fun p => (draft, p.2)) = .ok (next, rest)) :
    next = draft ∧ SkipsTo bs rest := by
  cases hskip : skipValue bs with
  | error e =>
    rw [hskip] at h
    cases h
  | ok p =>
    rw [hskip] at h
    cases h
    exact ⟨rfl, skipsTo_of_skipValue hskip⟩

theorem skims_takeValue (hskims : ∀ field ∈ fields, Skims field.value) :
    Skims (takeValue fields draft name) := by
  intro bs next rest h
  unfold takeValue at h
  split at h
  next field hfind =>
    split at h
    next => cases h
    next => exact Field.skims_read (hskims field (find?_name_eq_some hfind).1) draft h
  next => exact (map_skipValue_eq_ok h).2

theorem readMembersWithin_eq_ok (h : readMembersWithin fields (fuel + 1) draft bs = .ok (filled, rest)) :
    ∃ name afterName value next afterValue, readQuoted bs = .ok (name, afterName) ∧
      skipSpace afterName = 0x3a :: value ∧ takeValue fields draft name value = .ok (next, afterValue) ∧
      readOtherMembers fields fuel next afterValue = .ok (filled, rest) := by
  have hcolon : ∃ name afterName value, readQuoted bs = .ok (name, afterName) ∧
      skipSpace afterName = 0x3a :: value := by
    rw [readMembersWithin] at h
    obtain ⟨⟨name, afterName⟩, hname, h⟩ := bind_eq_ok.mp h
    dsimp only at h
    split at h
    next => cases h
    next =>
      split at h
      next hcolon => exact ⟨name, afterName, _, hname, hcolon⟩
      next => cases h
  obtain ⟨name, afterName, value, hname, hcolon⟩ := hcolon
  rw [readMembersWithin_colon hname hcolon] at h
  obtain ⟨⟨next, afterValue⟩, htake, hothers⟩ := bind_eq_ok.mp h
  exact ⟨name, afterName, value, next, afterValue, hname, hcolon, htake, hothers⟩

theorem skipsMembersTo_of_readMembersWithin (hskims : ∀ field ∈ fields, Skims field.value)
    (h : readMembersWithin fields fuel draft bs = .ok (filled, rest)) : SkipsMembersTo (0x22 :: bs) rest := by
  induction fuel generalizing draft bs with
  | zero => cases h
  | succ fuel ih =>
    obtain ⟨name, afterName, value, next, afterValue, hname, hcolon, htake, hothers⟩ := readMembersWithin_eq_ok h
    obtain ⟨pieces, hpieces⟩ := readPieces_of_readQuoted hname
    have hskips := skims_takeValue hskims htake
    unfold readOtherMembers at hothers
    split at hothers
    next hclose =>
      cases hothers
      exact hskips.lastMember hpieces hcolon hclose
    next hcomma =>
      refine hskips.nextMember hpieces hcolon hcomma ?_
      unfold readNextMember at hothers
      split at hothers
      next hquote =>
        obtain ⟨fuel, hmembers⟩ := ih hothers
        rw [← hquote, skipMembersWithin_skipSpace] at hmembers
        exact ⟨fuel, hmembers⟩
      next => cases hothers
    next => cases hothers

def SkipsOtherItemsTo (bs rest : Bytes) : Prop :=
  skipSpace bs = 0x5d :: rest ∨ ∃ others, skipSpace bs = 0x2c :: others ∧ SkipsItemsTo others rest

theorem SkipsTo.item {afterItem : Bytes} (h : SkipsTo bs afterItem) (hothers : SkipsOtherItemsTo afterItem rest) :
    SkipsItemsTo bs rest := by
  obtain hclose | ⟨others, hcomma, hitems⟩ := hothers
  · exact h.lastItem hclose
  · exact h.nextItem hcomma hitems

theorem skips_readElements (hskims : ∀ field ∈ fields, Skims field.value) {first : Bool}
    {close : Bytes} (h : readElements fields first draft bs = .ok (filled, close))
    (hclose : skipSpace close = 0x5d :: rest) :
    if first then skipSpace bs = 0x5d :: rest ∨ (skipSpace bs).head? ≠ some 0x5d ∧ SkipsItemsTo bs rest
    else SkipsOtherItemsTo bs rest := by
  induction fields generalizing first draft bs with
  | nil =>
    cases h
    split
    · exact .inl hclose
    · exact .inl hclose
  | cons field fields ih =>
    obtain ⟨hfield, hskims⟩ := List.forall_mem_cons.mp hskims
    rw [readElements] at h
    split at h
    next => cases h
    next heq =>
      -- the array ends here, and the members that are left may be cut off
      split at h
      next =>
        have hrest := ih hskims h
        have hskip : skipSpace (0x5d :: _) = skipSpace bs := (skipSpace_cons (by decide) _).trans heq.symm
        cases first with
        | false =>
          obtain hclosed | ⟨_, hcomma, _⟩ := hrest
          · exact .inl (hskip ▸ hclosed)
          · cases hcomma
        | true =>
          obtain hclosed | ⟨hhead, _⟩ := hrest
          · exact .inl (hskip ▸ hclosed)
          · exact absurd rfl hhead
      next => cases h
    next b items hne heq =>
      split at h
      next hfirst =>
        obtain ⟨⟨next, afterItem⟩, hread, h⟩ := bind_eq_ok.mp h
        have hskips : SkipsTo bs afterItem := skipsTo_skipSpace (heq ▸ Field.skims_read hfield draft hread)
        rw [if_pos hfirst, heq]
        exact .inr ⟨fun hhead => hne (Option.some.inj hhead), hskips.item (ih hskims h)⟩
      next hfirst =>
        rw [if_neg hfirst]
        split at h
        next hcomma =>
          split at h
          next => cases h
          next =>
            obtain ⟨⟨next, afterItem⟩, hread, h⟩ := bind_eq_ok.mp h
            have hskips : SkipsTo items afterItem := skipsTo_skipSpace (Field.skims_read hfield draft hread)
            exact .inr ⟨items, hcomma ▸ heq, hskips.item (ih hskims h)⟩
        next => cases h

/-- A record is read as it would be skipped, from an object as from an array. -/
theorem RecordFormat.skims {format : RecordFormat σ α}
    (hskims : ∀ field ∈ format.fields, Skims field.value) : Skims format.read := by
  intro bs record rest h
  refine skipsTo_skipSpace ?_
  unfold RecordFormat.read at h
  split at h
  next body heq =>
    rw [heq]
    obtain ⟨⟨filled, _⟩, hmembers, h⟩ := bind_eq_ok.mp h
    dsimp only at h
    obtain ⟨_, _, heq⟩ := bind_eq_ok.mp h
    cases heq
    refine skipsTo_object ?_
    unfold readMembers at hmembers
    split at hmembers
    next hclose =>
      cases hmembers
      exact .inl hclose
    next hquote =>
      obtain ⟨fuel, hskip⟩ := skipsMembersTo_of_readMembersWithin hskims hmembers
      rw [← hquote, skipMembersWithin_skipSpace] at hskip
      exact .inr ⟨by rw [hquote]; nofun, fuel, hskip⟩
    next => cases hmembers
  next body heq =>
    rw [heq]
    obtain ⟨⟨filled, close⟩, hitems, h⟩ := bind_eq_ok.mp h
    dsimp only at h
    obtain ⟨_, _, h⟩ := bind_eq_ok.mp h
    split at h
    next hclose =>
      cases h
      exact skipsTo_array (skips_readElements hskims hitems hclose)
    next => cases h
  next => cases h

end RelyingParty.Json
