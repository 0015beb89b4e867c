import RelyingParty.Cbor.Member
import RelyingParty.Proofs.Cbor.Entries
import RelyingParty.Proofs.Cbor.RoundTrip

namespace RelyingParty.Cbor.Entries

def named (members : List (String × Item)) : Entries :=
  members.map fun member => (.text member.1, member.2)

/-- An entry that a map may hold beside its members: under another key, and nested no deeper than a reader
goes inside of a map. -/
structure Foreign (members : List (String × Item)) (entry : Item × Item) : Prop where
  name : ∀ member ∈ members, entry.1 ≠ .text member.1
  key : Plain (depthLimit - 1) entry.1
  value : Plain (depthLimit - 1) entry.2

variable {α : Type} {read : Item → Option α} {a : α} {entries further : Entries}
  {members : List (String × Item)} {name : String} {item : Item}

theorem member_eq_ok :
    entries.member read name = .ok a ↔ (entries.getText? name).bind read = some a := by
  unfold member
  split
  next b hb => rw [hb]; simp
  next hnone => rw [hnone]; simp

/-- Among members whose names differ, a name stands for one of them. -/
theorem filter_name_eq (hnames : (members.map Prod.fst).Nodup) (h : (name, item) ∈ members) :
    members.filter (fun member => member.1 == name) = [(name, item)] := by
  induction members with
  | nil => cases h
  | cons first members ih =>
    obtain ⟨hfirst, hnames⟩ := List.nodup_cons.mp hnames
    rcases List.mem_cons.mp h with rfl | h
    · have hnone (other : String × Item) (hother : other ∈ members) : ¬ (other.1 == name) = true := by
        intro hsame
        exact hfirst (List.mem_map.mpr ⟨other, hother, beq_iff_eq.mp hsame⟩)
      rw [List.filter_cons, List.filter_eq_nil_iff.mpr hnone, if_pos (beq_self_eq_true name)]
    · have hne : first.1 ≠ name := by
        rintro rfl
        exact hfirst (List.mem_map.mpr ⟨_, h, rfl⟩)
      rw [List.filter_cons_of_neg (by simpa using hne), ih hnames h]

theorem filter_named (hnames : (members.map Prod.fst).Nodup) (h : (name, item) ∈ members) :
    (named members).filter (fun entry => entry.1.text? == some name) = [(.text name, item)] := by
  have hkey : (fun entry : Item × Item => entry.1.text? == some name) ∘
      (fun member : String × Item => (Item.text member.1, member.2)) = fun member => member.1 == name := rfl
  rw [named, List.filter_map, hkey, filter_name_eq hnames h]
  rfl

theorem getText?_of_perm (hnames : (members.map Prod.fst).Nodup)
    (hforeign : ∀ entry ∈ further, Foreign members entry) (hperm : entries.Perm (named members ++ further))
    (h : (name, item) ∈ members) : entries.getText? name = some item := by
  have hfilter := filter_named hnames h
  have honce : (named members).countP (fun entry => entry.1.text? == some name) = 1 := by
    rw [List.countP_eq_length_filter, hfilter]
    rfl
  have hother (entry : Item × Item) (hentry : entry ∈ further) :
      (entry.1.text? == some name) = false := by
    refine beq_eq_false_iff_ne.mpr fun hname => ?_
    exact (hforeign entry hentry).name _ h (Item.text?_eq_some.mp hname)
  rw [getText?, find?_eq_of_perm hperm hother honce, ← List.head?_filter, hfilter]
  rfl

theorem member_of_perm (hnames : (members.map Prod.fst).Nodup)
    (hforeign : ∀ entry ∈ further, Foreign members entry) (hperm : entries.Perm (named members ++ further))
    (h : (name, item) ∈ members) (hread : read item = some a) : entries.member read name = .ok a := by
  rw [member_eq_ok, getText?_of_perm hnames hforeign hperm h]
  exact hread

theorem decodeMap_of_perm (hmembers : ∀ member ∈ members, Plain (depthLimit - 1) member.2)
    (hforeign : ∀ entry ∈ further, Foreign members entry) (hperm : entries.Perm (named members ++ further))
    (hfits : (Item.map entries).encode.length < UInt64.size) :
    decodeMap (Item.map entries).encode = .ok entries := by
  have hentries (entry : Item × Item) (h : entry ∈ entries) :
      Plain (depthLimit - 1) entry.1 ∧ Plain (depthLimit - 1) entry.2 := by
    rcases List.mem_append.mp (hperm.mem_iff.mp h) with hown | hother
    · obtain ⟨member, hmember, rfl⟩ := List.mem_map.mp hown
      exact ⟨.text _, hmembers member hmember⟩
    · exact ⟨(hforeign entry hother).key, (hforeign entry hother).value⟩
  have hplain : Plain depthLimit (.map entries) :=
    .map (fun entry h => (hentries entry h).1) fun entry h => (hentries entry h).2
  exact decodeMap_encode (hplain.writable hfits)

end RelyingParty.Cbor.Entries
