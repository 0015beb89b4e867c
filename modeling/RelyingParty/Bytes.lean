namespace RelyingParty

abbrev Bytes := List UInt8

namespace Bytes

def split? (n : Nat) (bs : Bytes) : Option (Bytes × Bytes) :=
  if n ≤ bs.length then some (bs.take n, bs.drop n) else none

theorem split?_eq_some {n : Nat} {bs front rest : Bytes} :
    split? n bs = some (front, rest) ↔ bs = front ++ rest ∧ front.length = n := by
  unfold split?
  constructor
  · intro h
    split at h
    next hn =>
      obtain ⟨rfl, rfl⟩ := Prod.mk.inj (Option.some.inj h)
      exact ⟨(List.take_append_drop n bs).symm, by simp [hn]⟩
    next => simp at h
  · rintro ⟨rfl, rfl⟩
    simp

@[simp] theorem split?_append (front rest : Bytes) :
    split? front.length (front ++ rest) = some (front, rest) :=
  split?_eq_some.mpr ⟨rfl, rfl⟩

def toNat (bs : Bytes) : Nat :=
  bs.foldl (fun n b => n * 256 + b.toNat) 0

def ofNat : (width n : Nat) → Bytes
  | 0, _ => []
  | width + 1, n => ofNat width (n / 256) ++ [UInt8.ofNat n]

@[simp] theorem length_ofNat (width n : Nat) : (ofNat width n).length = width := by
  induction width generalizing n with
  | zero => rfl
  | succ width ih => simp [ofNat, ih]

theorem toNat_append_singleton (bs : Bytes) (b : UInt8) :
    toNat (bs ++ [b]) = toNat bs * 256 + b.toNat := by
  simp [toNat]

theorem toNat_ofNat {width n : Nat} (h : n < Nat.pow 256 width) : toNat (ofNat width n) = n := by
  induction width generalizing n with
  | zero => simp_all [ofNat, toNat]
  | succ width ih =>
    have hq : n / 256 < Nat.pow 256 width := by
      have hs : n < Nat.pow 256 width * 256 := h
      omega
    simp only [ofNat, toNat_append_singleton, ih hq, UInt8.toNat_ofNat']
    omega

theorem toNat_lt (bs : Bytes) : toNat bs < Nat.pow 256 bs.length := by
  suffices h : ∀ n, bs.foldl (fun n b => n * 256 + b.toNat) n < (n + 1) * Nat.pow 256 bs.length by
    simpa [toNat] using h 0
  induction bs with
  | nil => simp
  | cons b bs ih =>
    intro n
    have hb := b.toNat_lt
    have hle : n * 256 + b.toNat + 1 ≤ (n + 1) * 256 := by omega
    calc (b :: bs).foldl (fun n b => n * 256 + b.toNat) n
        < (n * 256 + b.toNat + 1) * Nat.pow 256 bs.length := ih _
      _ ≤ (n + 1) * 256 * Nat.pow 256 bs.length := Nat.mul_le_mul_right _ hle
      _ = (n + 1) * Nat.pow 256 (b :: bs).length := by
        rw [Nat.mul_assoc, Nat.mul_comm 256]
        rfl

def trimZeros (bs : Bytes) : Bytes :=
  bs.dropWhile (· == 0)

def ofText (s : String) : Bytes :=
  s.toUTF8.data.toList

def toText? (bs : Bytes) : Option String :=
  String.fromUTF8? ⟨bs.toArray⟩

end Bytes

structure FixedBytes (n : Nat) where
  bytes : Bytes
  length_eq : bytes.length = n
  deriving DecidableEq

namespace FixedBytes

def ofBytes? (n : Nat) (bs : Bytes) : Option (FixedBytes n) :=
  if h : bs.length = n then some ⟨bs, h⟩ else none

@[simp] theorem ofBytes?_bytes {n : Nat} (b : FixedBytes n) : ofBytes? n b.bytes = some b := by
  simp [ofBytes?, b.length_eq]

def split? (n : Nat) (bs : Bytes) : Option (FixedBytes n × Bytes) :=
  if h : n ≤ bs.length then some (⟨bs.take n, by simp [h]⟩, bs.drop n) else none

theorem split?_eq_some {n : Nat} {bs rest : Bytes} {front : FixedBytes n} :
    split? n bs = some (front, rest) ↔ bs = front.bytes ++ rest := by
  unfold split?
  constructor
  · intro h
    split at h
    · obtain ⟨rfl, rfl⟩ := Prod.mk.inj (Option.some.inj h)
      exact (List.take_append_drop n bs).symm
    · simp at h
  · rintro rfl
    obtain ⟨bytes, rfl⟩ := front
    simp

end FixedBytes

end RelyingParty
