import RelyingParty.Bytes

namespace RelyingParty

structure Table (α : Type) where
  entries : List (Bytes × α)
  nodup : (entries.map Prod.fst).Nodup

namespace Table

variable {α : Type}

def empty : Table α := ⟨[], .nil⟩

def get? (t : Table α) (key : Bytes) : Option α :=
  (t.entries.find? fun entry => entry.1 == key).map (·.2)

def contains (t : Table α) (key : Bytes) : Bool := (t.get? key).isSome

def restrict (t : Table α) (p : Bytes × α → Bool) : Table α :=
  ⟨t.entries.filter p, t.nodup.sublist (List.filter_sublist.map _)⟩

def erase (t : Table α) (key : Bytes) : Table α := t.restrict fun entry => entry.1 != key

theorem notMem_keys_erase (t : Table α) (key : Bytes) :
    key ∉ (t.erase key).entries.map Prod.fst := by
  simp [erase, restrict]

def insert (t : Table α) (key : Bytes) (a : α) : Table α :=
  ⟨(key, a) :: (t.erase key).entries,
    List.nodup_cons.mpr ⟨t.notMem_keys_erase key, (t.erase key).nodup⟩⟩

def filter (t : Table α) (p : α → Bool) : Table α := t.restrict fun entry => p entry.2

def size (t : Table α) : Nat := t.entries.length

theorem get?_eq_some_iff {t : Table α} {key : Bytes} {a : α} :
    t.get? key = some a ↔ (key, a) ∈ t.entries := by
  obtain ⟨entries, nodup⟩ := t
  simp only [get?]
  induction entries with
  | nil => simp
  | cons entry entries ih =>
    obtain ⟨other, b⟩ := entry
    have hn := List.nodup_cons.mp nodup
    by_cases he : other = key
    · subst he
      have hm : (other, a) ∉ entries := fun h => hn.1 (List.mem_map.mpr ⟨_, h, rfl⟩)
      simp [hm, eq_comm]
    · simp [he, Ne.symm he, ih hn.2]

theorem mem_restrict {t : Table α} {p : Bytes × α → Bool} {entry : Bytes × α} :
    entry ∈ (t.restrict p).entries ↔ entry ∈ t.entries ∧ p entry = true := List.mem_filter

@[simp] theorem get?_empty (key : Bytes) : (empty : Table α).get? key = none := rfl

@[simp] theorem get?_filter (t : Table α) (p : α → Bool) (key : Bytes) :
    (t.filter p).get? key = (t.get? key).filter p := by
  apply Option.ext
  intro a
  rw [get?_eq_some_iff, filter, mem_restrict, ← get?_eq_some_iff, Option.filter_eq_some_iff]

@[simp] theorem get?_erase_self (t : Table α) (key : Bytes) : (t.erase key).get? key = none := by
  apply Option.eq_none_iff_forall_ne_some.mpr
  intro a h
  simpa using (mem_restrict.mp (get?_eq_some_iff.mp h)).2

theorem get?_erase_of_ne (t : Table α) {key other : Bytes} (h : other ≠ key) :
    (t.erase key).get? other = t.get? other := by
  apply Option.ext
  intro a
  rw [get?_eq_some_iff, erase, mem_restrict, ← get?_eq_some_iff]
  simp [h]

@[simp] theorem get?_insert_self (t : Table α) (key : Bytes) (a : α) :
    (t.insert key a).get? key = some a := by
  simp [get?, insert]

theorem get?_insert_of_ne (t : Table α) {key other : Bytes} (a : α) (h : other ≠ key) :
    (t.insert key a).get? other = t.get? other := by
  rw [← get?_erase_of_ne t h]
  simp [get?, insert, Ne.symm h]

theorem contains_eq_false_iff {t : Table α} {key : Bytes} :
    t.contains key = false ↔ t.get? key = none := by
  simp [contains]

theorem size_erase_of_get?_eq_none {t : Table α} {key : Bytes} (h : t.get? key = none) :
    (t.erase key).size = t.size := by
  have hk : ∀ entry ∈ t.entries, (entry.1 != key) = true := by
    intro entry hm
    have hne : entry.1 ≠ key := by
      rintro rfl
      exact absurd (h.symm.trans (get?_eq_some_iff.mpr hm)) (by simp)
    simpa using hne
  simp [size, erase, restrict, List.filter_eq_self.mpr hk]

/-- At most one record is removed, for no two stand under one key. -/
theorem size_erase_of_get?_eq_some {t : Table α} {key : Bytes} {b : α} (h : t.get? key = some b) :
    (t.erase key).size + 1 = t.size := by
  obtain ⟨entries, nodup⟩ := t
  rw [get?_eq_some_iff] at h
  simp only [size, erase, restrict] at h ⊢
  induction entries with
  | nil => simp at h
  | cons entry entries ih =>
    have hn := List.nodup_cons.mp nodup
    by_cases he : entry.1 = key
    · have hk : ∀ other ∈ entries, (other.1 != key) = true := by
        intro other hm
        have hne : other.1 ≠ key := fun heq => hn.1 (List.mem_map.mpr ⟨other, hm, heq.trans he.symm⟩)
        simpa using hne
      simp [he, List.filter_eq_self.mpr hk]
    · have hm : (key, b) ∈ entries := by
        rcases List.mem_cons.mp h with heq | hm
        · exact absurd (by rw [← heq]) he
        · exact hm
      simp [he, ih hn.2 hm]

theorem size_insert (t : Table α) (key : Bytes) (a : α) :
    (t.insert key a).size = (t.erase key).size + 1 := rfl

end Table

end RelyingParty
