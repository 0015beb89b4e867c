import Mathlib.Data.List.Perm.Basic
import RelyingParty.Cbor.Item

namespace RelyingParty

def IsFirst {α : Type} (p : α → Prop) (a : α) (l : List α) : Prop :=
  ∃ earlier later, l = earlier ++ a :: later ∧ p a ∧ ∀ b ∈ earlier, ¬ p b

theorem find?_eq_some_iff_isFirst {α : Type} {p : α → Prop} {q : α → Bool} {a : α} {l : List α}
    (h : ∀ b, q b = true ↔ p b) : l.find? q = some a ↔ IsFirst p a l := by
  rw [List.find?_eq_some_iff_append, h]
  constructor
  · rintro ⟨ha, earlier, later, rfl, hearlier⟩
    exact ⟨earlier, later, rfl, ha, fun b hb hp => by simpa [(h b).mpr hp] using hearlier b hb⟩
  · rintro ⟨earlier, later, rfl, ha, hearlier⟩
    refine ⟨ha, earlier, later, rfl, fun b hb => ?_⟩
    have hnot := mt (h b).mp (hearlier b hb)
    simpa using hnot

/-- What stands once is found alike in every order of a list. -/
theorem find?_eq_of_perm {α : Type} {q : α → Bool} {l known further : List α}
    (hperm : l.Perm (known ++ further)) (hfurther : ∀ a ∈ further, q a = false)
    (honce : known.countP q = 1) : l.find? q = known.find? q := by
  have hnone : further.filter q = [] :=
    List.filter_eq_nil_iff.mpr fun a ha => by simp [hfurther a ha]
  have hfilter := hperm.filter q
  rw [List.filter_append, hnone, List.append_nil] at hfilter
  rw [List.countP_eq_length_filter] at honce
  obtain ⟨a, ha⟩ := List.length_eq_one_iff.mp honce
  rw [ha] at hfilter
  rw [← List.head?_filter, ← List.head?_filter, ha, List.perm_singleton.mp hfilter]

namespace Cbor

namespace Item

variable {item : Item}

theorem eq_ofInt_of_number? {n : Int} (h : item.number? = some n) : item = ofInt n := by
  cases item with
  | unsigned m =>
    obtain rfl := Option.some.inj h
    have hpos : (0 : Int) ≤ m.toNat := Int.natCast_nonneg _
    rw [ofInt, if_pos hpos, Int.toNat_natCast, UInt64.ofNat_toNat]
  | negative m =>
    obtain rfl := Option.some.inj h
    have hneg : ¬ (0 : Int) ≤ -1 - m.toNat := by omega
    have hsub : (-1 - (-1 - (m.toNat : Int))).toNat = m.toNat := by omega
    rw [ofInt, if_neg hneg, hsub, UInt64.ofNat_toNat]
  | _ => cases h

theorem number?_ofInt {n : Int} (hlow : -0x10000000000000000 ≤ n) (hhigh : n < 0x10000000000000000) :
    (ofInt n).number? = some n := by
  unfold ofInt
  split
  next hpos =>
    have hn : n.toNat < 2 ^ 64 := by omega
    rw [number?, UInt64.toNat_ofNat_of_lt' hn, Int.toNat_of_nonneg hpos]
  next hneg =>
    have hn : (-1 - n).toNat < 2 ^ 64 := by omega
    rw [number?, UInt64.toNat_ofNat_of_lt' hn]
    congr 1
    omega

/-- The numbers that a signed 64-bit word holds. -/
def InWord (n : Int) : Prop := -0x8000000000000000 ≤ n ∧ n < 0x8000000000000000

instance (n : Int) : Decidable (InWord n) := inferInstanceAs (Decidable (_ ∧ _))

theorem int?_eq_some {n : Int} : item.int? = some n ↔ item = ofInt n ∧ InWord n := by
  unfold int?
  rw [Option.filter_eq_some_iff, decide_eq_true_iff]
  constructor
  · rintro ⟨hnumber, hword⟩
    exact ⟨eq_ofInt_of_number? hnumber, hword⟩
  · rintro ⟨rfl, hlow, hhigh⟩
    exact ⟨number?_ofInt (by omega) (by omega), hlow, hhigh⟩

theorem bytes?_eq_some {bs : Bytes} : item.bytes? = some bs ↔ item = .bytes bs := by
  cases item <;> simp [bytes?]

theorem array?_eq_some {items : List Item} : item.array? = some items ↔ item = .array items := by
  cases item <;> simp [array?]

theorem text?_eq_some {s : String} : item.text? = some s ↔ item = .text s := by
  cases item <;> simp [text?]

theorem map?_eq_some {entries : Entries} : item.map? = some entries ↔ item = .map entries := by
  cases item <;> simp [map?]

end Item

namespace Entries

variable {entries known further : Entries} {item : Item} {name : String} {label : Int}

/-- The first entry under a name. -/
def Names (entries : Entries) (name : String) (item : Item) : Prop :=
  IsFirst (·.1 = .text name) (.text name, item) entries

def Labels (entries : Entries) (label : Int) (item : Item) : Prop :=
  IsFirst (·.1.number? = some label) (.ofInt label, item) entries

theorem getText?_eq_some : entries.getText? name = some item ↔ entries.Names name item := by
  have hkey (entry : Item × Item) : (entry.1.text? == some name) = true ↔ entry.1 = .text name := by
    rw [beq_iff_eq, Item.text?_eq_some]
  unfold getText? Names
  rw [Option.map_eq_some_iff]
  simp only [find?_eq_some_iff_isFirst hkey]
  constructor
  · rintro ⟨⟨key, value⟩, hfirst, rfl⟩
    obtain ⟨_, _, _, hname, _⟩ := id hfirst
    exact hname ▸ hfirst
  · intro hfirst
    exact ⟨_, hfirst, rfl⟩

theorem getText?_eq_none : entries.getText? name = none ↔ ∀ entry ∈ entries, entry.1 ≠ .text name := by
  simp [getText?, Item.text?_eq_some]

theorem getInt?_eq_some : entries.getInt? label = some item ↔ entries.Labels label item := by
  have hkey (entry : Item × Item) : (entry.1.number? == some label) = true ↔ entry.1.number? = some label :=
    beq_iff_eq
  unfold getInt? Labels
  rw [Option.map_eq_some_iff]
  simp only [find?_eq_some_iff_isFirst hkey]
  constructor
  · rintro ⟨⟨key, value⟩, hfirst, rfl⟩
    obtain ⟨_, _, _, hnumber, _⟩ := id hfirst
    exact Item.eq_ofInt_of_number? hnumber ▸ hfirst
  · intro hfirst
    exact ⟨_, hfirst, rfl⟩

theorem getInt?_eq_of_perm (hperm : entries.Perm (known ++ further))
    (hfurther : ∀ entry ∈ further, entry.1.number? ≠ some label)
    (honce : known.countP (fun entry => entry.1.number? == some label) = 1) :
    entries.getInt? label = known.getInt? label := by
  unfold getInt?
  rw [find?_eq_of_perm hperm (fun entry h => beq_eq_false_iff_ne.mpr (hfurther entry h)) honce]

theorem bind_int? {found : Option Item} {n : Int} :
    found.bind Item.int? = some n ↔ found = some (.ofInt n) ∧ Item.InWord n := by
  rw [Option.bind_eq_some_iff]
  simp only [Item.int?_eq_some]
  constructor
  · rintro ⟨_, hfound, rfl, hword⟩
    exact ⟨hfound, hword⟩
  · rintro ⟨hfound, hword⟩
    exact ⟨_, hfound, rfl, hword⟩

theorem getText?_bind_int? {n : Int} : (entries.getText? name).bind Item.int? = some n ↔
    entries.Names name (.ofInt n) ∧ Item.InWord n := by
  rw [bind_int?, getText?_eq_some]

theorem getText?_bind_bytes? {bs : Bytes} : (entries.getText? name).bind Item.bytes? = some bs ↔
    entries.Names name (.bytes bs) := by
  rw [Option.bind_eq_some_iff]
  simp only [getText?_eq_some, Item.bytes?_eq_some, exists_eq_right]

theorem getText?_bind_array? {items : List Item} :
    (entries.getText? name).bind Item.array? = some items ↔ entries.Names name (.array items) := by
  rw [Option.bind_eq_some_iff]
  simp only [getText?_eq_some, Item.array?_eq_some, exists_eq_right]

theorem getInt?_bind_int? {n : Int} : (entries.getInt? label).bind Item.int? = some n ↔
    entries.Labels label (.ofInt n) ∧ Item.InWord n := by
  rw [bind_int?, getInt?_eq_some]

theorem getInt?_bind_bytes? {bs : Bytes} : (entries.getInt? label).bind Item.bytes? = some bs ↔
    entries.Labels label (.bytes bs) := by
  rw [Option.bind_eq_some_iff]
  simp only [getInt?_eq_some, Item.bytes?_eq_some, exists_eq_right]

end Entries

end Cbor

end RelyingParty
