import Mathlib.Data.Nat.Bitwise
import RelyingParty.Proofs.Access.Basic
import RelyingParty.Proofs.Cbor.FirstItem
import RelyingParty.Proofs.Der.Splitting

namespace RelyingParty

namespace Der

/-- The length that a byte begins, and what follows its field: a byte without the high bit, or one that counts
the digits which a machine word gathers. -/
def readLengthByPlace (first : UInt8) (rest : Bytes) : Access (Option (Nat × Bytes)) :=
  if first &&& 0x80 = 0 then .ok (some (first.toNat, rest))
  else
    let count := (first &&& 0x7f).toNat
    if count = 0 ∨ 4 < count ∨ rest.length < count then .ok none
    else do
      let digits ← rest.slice 0 count
      let rest ← rest.sliceFrom count
      .ok (some ((Bytes.gather digits).toNat, rest))

/-- The element at the front of a byte string, and what follows it. -/
def Element.readByPlace : Bytes → Access (Option (Element × Bytes))
  | tag :: first :: rest =>
    if isLongTag tag then .ok none
    else do
      match ← readLengthByPlace first rest with
      | some (length, rest) =>
        if rest.length < length then .ok none
        else do
          let content ← rest.slice 0 length
          let rest ← rest.sliceFrom length
          .ok (some (⟨tag, content⟩, rest))
      | none => .ok none
  | _ => .ok none

theorem and_high_eq_zero {b : UInt8} : b &&& 0x80 = 0 ↔ b < 0x80 := by
  have hlt : b.toNat < 256 := b.toNat_lt
  rw [← UInt8.toNat_inj, UInt8.lt_iff_toNat_lt, UInt8.toNat_and]
  change b.toNat &&& 2 ^ 7 = 0 ↔ b.toNat < 128
  rw [Nat.and_two_pow, Nat.testBit_eq_decide_div_mod_eq]
  by_cases hbit : b.toNat / 2 ^ 7 % 2 = 1
  · rw [decide_eq_true hbit]
    exact iff_of_false (by decide) (by omega)
  · rw [decide_eq_false hbit]
    exact iff_of_true rfl (by omega)

theorem toNat_and_low {b : UInt8} (h : ¬ b < 0x80) : (b &&& 0x7f).toNat = b.toNat - 0x80 := by
  have hlt : b.toNat < 256 := b.toNat_lt
  have hge : 128 ≤ b.toNat := Nat.le_of_not_lt fun hlow => h (UInt8.lt_iff_toNat_lt.mpr hlow)
  rw [UInt8.toNat_and]
  change b.toNat &&& 2 ^ 7 - 1 = b.toNat - 128
  rw [Nat.and_two_pow_sub_one_eq_mod]
  omega

theorem readLengthByPlace_eq (first : UInt8) (rest : Bytes) :
    readLengthByPlace first rest = .ok (readLength? (first :: rest)) := by
  rw [readLengthByPlace, readLength?]
  by_cases hshort : first < 0x80
  · rw [if_pos (and_high_eq_zero.mpr hshort), if_pos hshort]
  · rw [if_neg (mt and_high_eq_zero.mp hshort), if_neg hshort, toNat_and_low hshort]
    dsimp only
    generalize first.toNat - 0x80 = count
    by_cases hcount : 1 ≤ count ∧ count ≤ 4
    · rw [if_pos hcount]
      cases hsplit : rest.split? count with
      | none => exact if_pos (.inr (.inr (Bytes.split?_eq_none.mp hsplit)))
      | some cut =>
        obtain ⟨digits, left⟩ := cut
        obtain ⟨hdigits, hleft⟩ := Bytes.slices_of_split? hsplit
        obtain ⟨rfl, rfl⟩ := Bytes.split?_eq_some.mp hsplit
        have hroom : ¬ (digits.length = 0 ∨ 4 < digits.length ∨
            (digits ++ left).length < digits.length) := by
          rw [List.length_append]
          omega
        rw [if_neg hroom, hdigits, ok_bind, hleft, ok_bind, Bytes.toNat_gather (by omega)]
        rfl
    · rw [if_neg hcount, if_pos (by omega)]

/-- Reading an element by places is never out of range, and reads what is cut off. -/
theorem Element.readByPlace_eq (bs : Bytes) : readByPlace bs = .ok (read? bs) := by
  match bs with
  | [] => rfl
  | [tag] =>
    rw [read?]
    split <;> rfl
  | tag :: first :: rest =>
    rw [readByPlace, read?]
    by_cases htag : isLongTag tag
    · rw [if_pos htag, if_pos htag]
    · rw [if_neg htag, if_neg htag, readLengthByPlace_eq, ok_bind]
      cases readLength? (first :: rest) with
      | none => rfl
      | some field =>
        obtain ⟨length, left⟩ := field
        simp only [Option.bind_eq_bind, Option.bind_some]
        cases hsplit : left.split? length with
        | none => exact if_pos (Bytes.split?_eq_none.mp hsplit)
        | some cut =>
          obtain ⟨content, behind⟩ := cut
          obtain ⟨hcontent, hbehind⟩ := Bytes.slices_of_split? hsplit
          have hroom : ¬ left.length < length := by
            intro hlt
            cases hsplit.symm.trans (Bytes.split?_eq_none.mpr hlt)
          rw [if_neg hroom, hcontent, ok_bind, hbehind, ok_bind]
          rfl

end Der

namespace Cbor

/-- The first item, with the number of bytes that it takes as the difference to those that are left. -/
def decodeFirstByPlace (bs : Bytes) : Access (Except DecodeError (Item × Nat)) :=
  match readItem depthLimit bs with
  | .ok (item, rest) => do
    let taken ← difference bs.length rest.length
    .ok (.ok (item, taken))
  | .error e => .ok (.error e)

/-- The item that spans a byte string; what follows a shorter one is counted. -/
def decodeByPlace (bs : Bytes) : Access (Except DecodeError Item) := do
  match ← decodeFirstByPlace bs with
  | .ok (item, taken) =>
    if taken ≠ bs.length then do
      let left ← difference bs.length taken
      .ok (.error (.trailing left))
    else .ok (.ok item)
  | .error e => .ok (.error e)

theorem decodeFirstByPlace_eq (bs : Bytes) : decodeFirstByPlace bs = .ok (decodeFirst bs) := by
  unfold decodeFirstByPlace decodeFirst
  cases hread : readItem depthLimit bs with
  | error e => rfl
  | ok read =>
    obtain ⟨item, rest⟩ := read
    obtain ⟨front, rfl, _⟩ := (readItem_readsItem depthLimit).toLocal.takes hread
    have hleft : rest.length ≤ (front ++ rest).length := by
      rw [List.length_append]
      exact Nat.le_add_left _ _
    simp only
    rw [difference_of_le hleft]
    rfl

theorem decodeByPlace_eq (bs : Bytes) : decodeByPlace bs = .ok (decode bs) := by
  rw [decodeByPlace, decodeFirstByPlace_eq, ok_bind, decode_eq]
  cases hfirst : decodeFirst bs with
  | error e => rfl
  | ok first =>
    obtain ⟨item, taken⟩ := first
    obtain ⟨_, htaken, _⟩ := take_of_decodeFirst hfirst
    rw [ok_bind]
    by_cases hspan : taken = bs.length
    · rw [if_pos hspan]
      exact if_neg (not_not_intro hspan)
    · rw [if_neg hspan]
      simp only
      rw [if_pos hspan, difference_of_le htaken]
      rfl

end Cbor

end RelyingParty
