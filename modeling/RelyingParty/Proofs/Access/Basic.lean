import RelyingParty.Proofs.Checks
import RelyingParty.Bytes

namespace RelyingParty

/-- What a partial operation was asked for where it has no value. -/
inductive OutOfRange where
  | index (place length : Nat)
  /-- Bytes up to a place behind the last one, or before the place where they begin. -/
  | slice (start stop length : Nat)
  | width (width length : Nat)
  | difference (whole part : Nat)
  deriving DecidableEq

abbrev Access := Except OutOfRange

def difference (whole part : Nat) : Access Nat :=
  if part ≤ whole then .ok (whole - part) else .error (.difference whole part)

theorem difference_of_le {whole part : Nat} (h : part ≤ whole) :
    difference whole part = .ok (whole - part) := if_pos h

def FixedBytes.copy (n : Nat) (bs : Bytes) : Access (FixedBytes n) :=
  match ofBytes? n bs with
  | some field => .ok field
  | none => .error (.width n bs.length)

theorem FixedBytes.copy_bytes {n : Nat} (field : FixedBytes n) : copy n field.bytes = .ok field := by
  rw [copy, ofBytes?_bytes]

namespace Bytes

def byteAt (bs : Bytes) (place : Nat) : Access UInt8 :=
  match bs[place]? with
  | some b => .ok b
  | none => .error (.index place bs.length)

def slice (bs : Bytes) (start stop : Nat) : Access Bytes :=
  if start ≤ stop ∧ stop ≤ bs.length then .ok ((bs.drop start).take (stop - start))
  else .error (.slice start stop bs.length)

def sliceFrom (bs : Bytes) (start : Nat) : Access Bytes := bs.slice start bs.length

variable {bs part rest : Bytes} {b : UInt8} {start stop place : Nat}

theorem byteAt_eq_ok : bs.byteAt place = .ok b ↔ bs[place]? = some b := by
  unfold byteAt
  split
  next found hfound => rw [hfound, Except.ok.injEq, Option.some.injEq]
  next hnone => exact iff_of_false nofun (by rw [hnone]; exact nofun)

theorem lt_length_of_byteAt (h : bs.byteAt place = .ok b) : place < bs.length :=
  (List.getElem?_eq_some_iff.mp (byteAt_eq_ok.mp h)).1

theorem byteAt_append {front : Bytes} (i : Nat) (hfront : front.length = place) (h : rest[i]? = some b) :
    (front ++ rest).byteAt (place + i) = .ok b := by
  subst hfront
  rw [byteAt_eq_ok, List.getElem?_append_right (Nat.le_add_right _ _), Nat.add_sub_cancel_left, h]

theorem slice_eq_ok : bs.slice start stop = .ok part ↔
    ∃ front rest, bs = front ++ (part ++ rest) ∧ front.length = start ∧ start + part.length = stop := by
  unfold slice
  constructor
  · intro h
    split at h
    next hrange =>
      obtain rfl := Except.ok.inj h
      obtain ⟨hle, hlength⟩ := hrange
      have hfront : (bs.take start).length = start := List.length_take_of_le (Nat.le_trans hle hlength)
      have hpart : ((bs.drop start).take (stop - start)).length = stop - start := by
        rw [List.length_take, List.length_drop]
        omega
      refine ⟨bs.take start, (bs.drop start).drop (stop - start), ?_, hfront, ?_⟩
      · rw [List.take_append_drop, List.take_append_drop]
      · omega
    next => cases h
  · rintro ⟨front, rest, rfl, rfl, rfl⟩
    have hrange : front.length ≤ front.length + part.length ∧
        front.length + part.length ≤ (front ++ (part ++ rest)).length := by
      simp only [List.length_append]
      omega
    rw [if_pos hrange, List.drop_left, Nat.add_sub_cancel_left, List.take_left]

theorem sliceFrom_eq_ok : bs.sliceFrom start = .ok rest ↔
    ∃ front, bs = front ++ rest ∧ front.length = start := by
  rw [sliceFrom, slice_eq_ok]
  constructor
  · rintro ⟨front, behind, rfl, hfront, hstop⟩
    rw [List.length_append, List.length_append] at hstop
    obtain rfl := List.eq_nil_of_length_eq_zero (by omega : behind.length = 0)
    exact ⟨front, by rw [List.append_nil], hfront⟩
  · rintro ⟨front, rfl, rfl⟩
    exact ⟨front, [], by rw [List.append_nil], rfl, List.length_append.symm⟩

theorem split?_eq_none {n : Nat} : bs.split? n = none ↔ bs.length < n := by
  unfold split?
  split
  next h => exact iff_of_false nofun (Nat.not_lt.mpr h)
  next h => exact iff_of_true rfl (Nat.lt_of_not_le h)

/-- A cut as two slices. -/
theorem slices_of_split? {n : Nat} (h : bs.split? n = some (part, rest)) :
    bs.slice 0 n = .ok part ∧ bs.sliceFrom n = .ok rest := by
  obtain ⟨rfl, rfl⟩ := split?_eq_some.mp h
  exact ⟨slice_eq_ok.mpr ⟨[], rest, rfl, rfl, Nat.zero_add _⟩, sliceFrom_eq_ok.mpr ⟨part, rfl, rfl⟩⟩

end Bytes

end RelyingParty
