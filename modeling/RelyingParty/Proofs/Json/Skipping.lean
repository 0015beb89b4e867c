import Mathlib.Data.List.DropRight
import RelyingParty.Proofs.Json.Quotation
import RelyingParty.Proofs.Json.Tokens
import RelyingParty.Proofs.Outcome

namespace RelyingParty.Json

variable {w more blank before after bs rest : Bytes} {fuel : Nat}

theorem readWord?_append (word : List UInt8) (more : Bytes) : readWord? word (word ++ more) = some more := by
  induction word with
  | nil => rfl
  | cons b word ih => rw [List.cons_append, readWord?, if_pos rfl, ih]

theorem delimits_cons {b : UInt8} (h : b = 0x2c ∨ b = 0x5d ∨ b = 0x7d) (bs : Bytes) : Delimits (b :: bs) :=
  fun _ hb => .inr (Option.some.inj hb ▸ h)

theorem skipValueWithin_blank (h : IsBlank blank) (fuel : Nat) (bs : Bytes) :
    skipValueWithin fuel (blank ++ bs) = skipValueWithin fuel bs := by
  cases fuel with
  | zero => rw [skipValueWithin, skipValueWithin]
  | succ fuel => rw [skipValueWithin, skipValueWithin, skipSpace_blank h]

/-- The bytes are skipped as one value, by any fuel that their length allows. -/
structure Skipped (w : Bytes) : Prop where
  starts : ∃ b rest, w = b :: rest ∧ isSpace b = false ∧ b ≠ 0x5d
  skip : ∀ {more fuel}, Delimits more → w.length ≤ fuel → skipValueWithin fuel (w ++ more) = some more

theorem Skipped.nonempty (h : Skipped w) : 0 < w.length := by
  obtain ⟨b, rest, rfl, _⟩ := h.starts
  exact Nat.zero_lt_succ _

theorem Skipped.skip_blank (h : Skipped w) (hbefore : IsBlank before) (hmore : Delimits more)
    (hfuel : w.length ≤ fuel) : skipValueWithin fuel (before ++ (w ++ more)) = some more := by
  rw [skipValueWithin_blank hbefore, h.skip hmore hfuel]

theorem skipItemsWithin_listed {items : List Bytes} (h : Listed Eq items w)
    (hitems : ∀ item ∈ items, Skipped item) (hfuel : w.length < fuel) (more : Bytes) :
    skipItemsWithin fuel (w ++ 0x5d :: more) = some more := by
  obtain ⟨fuel, rfl⟩ := Nat.exists_eq_succ_of_ne_zero (Nat.ne_of_gt (Nat.zero_lt_of_lt hfuel))
  induction h generalizing fuel with
  | @last item before w after hw hbefore hafter =>
    subst hw
    simp only [List.length_append] at hfuel
    have hitem := hitems item List.mem_cons_self
    have hskip : skipValueWithin fuel (before ++ (item ++ (after ++ 0x5d :: more))) =
        some (after ++ 0x5d :: more) :=
      hitem.skip_blank hbefore (delimits_blank hafter (delimits_cons (by decide) _)) (by omega)
    simp only [List.append_assoc, skipItemsWithin, hskip, Option.bind_eq_bind, Option.bind_some,
      skipSpace_blank hafter]
    rw [skipSpace_cons (by decide)]
    rfl
  | @next item items before w after rest hw hbefore hafter hrest ih =>
    subst hw
    obtain ⟨hitem, hitems⟩ := List.forall_mem_cons.mp hitems
    simp only [List.length_append, List.length_cons] at hfuel
    have hnonempty := hitem.nonempty
    have hskip : skipValueWithin fuel (before ++ (item ++ (after ++ 0x2c :: (rest ++ 0x5d :: more)))) =
        some (after ++ 0x2c :: (rest ++ 0x5d :: more)) :=
      hitem.skip_blank hbefore (delimits_blank hafter (delimits_cons (by decide) _)) (by omega)
    obtain ⟨fuel, rfl⟩ := Nat.exists_eq_succ_of_ne_zero (n := fuel) (by omega)
    simp only [List.append_assoc, List.cons_append, skipItemsWithin, hskip, Option.bind_eq_bind,
      Option.bind_some, skipSpace_blank hafter]
    rw [skipSpace_cons (by decide)]
    exact ih hitems fuel (by omega)

def skipOtherMembersWithin (fuel : Nat) (bs : Bytes) : Option Bytes :=
  match skipSpace bs with
  | 0x2c :: rest => skipMembersWithin fuel rest
  | 0x7d :: rest => some rest
  | _ => none

theorem skipOtherMembersWithin_comma (h : skipSpace bs = 0x2c :: rest) (fuel : Nat) :
    skipOtherMembersWithin fuel bs = skipMembersWithin fuel rest := by
  simp only [skipOtherMembersWithin, h]

theorem skipOtherMembersWithin_close (h : skipSpace bs = 0x7d :: rest) (fuel : Nat) :
    skipOtherMembersWithin fuel bs = some rest := by
  simp only [skipOtherMembersWithin, h]

/-- A member is skipped up to what follows its value. -/
theorem skipMembersWithin_member {body value member : Bytes} (hbody : IsBody body) (hvalue : Skipped value)
    (h : IsMember body value member) (hbefore : IsBlank before) (hmore : Delimits more)
    (hfuel : value.length ≤ fuel) :
    skipMembersWithin (fuel + 1) (before ++ (member ++ more)) = skipOtherMembersWithin fuel more := by
  obtain ⟨hleft, hright⟩ := h
  obtain ⟨pieces, hpieces⟩ := hbody.readPieces
  have hskip := hvalue.skip_blank hright hmore hfuel
  rw [skipMembersWithin, skipSpace_blank hbefore, List.cons_append, skipSpace_cons (by decide)]
  simp only [List.append_assoc, List.cons_append, hpieces, Option.bind_eq_bind, Option.bind_some,
    skipSpace_blank hleft]
  rw [skipSpace_cons (by decide)]
  simp only [hskip, Option.bind_some]
  rfl

theorem skipMembersWithin_listed {members : List (Bytes × Bytes)}
    (h : Listed (fun m => IsMember m.1 m.2) members w) (hnames : ∀ m ∈ members, IsBody m.1)
    (hvalues : ∀ m ∈ members, Skipped m.2) (hfuel : w.length < fuel) (more : Bytes) :
    skipMembersWithin fuel (w ++ 0x7d :: more) = some more := by
  obtain ⟨fuel, rfl⟩ := Nat.exists_eq_succ_of_ne_zero (Nat.ne_of_gt (Nat.zero_lt_of_lt hfuel))
  induction h generalizing fuel with
  | @last m before w after hw hbefore hafter =>
    have hlength : m.2.length ≤ w.length := by
      obtain ⟨_, _⟩ := hw
      simp only [List.length_cons, List.length_append]
      omega
    simp only [List.length_append] at hfuel
    have hclose : skipSpace (after ++ 0x7d :: more) = 0x7d :: more := by
      rw [skipSpace_blank hafter, skipSpace_cons (by decide)]
    rw [List.append_assoc, List.append_assoc, skipMembersWithin_member (hnames m List.mem_cons_self)
      (hvalues m List.mem_cons_self) hw hbefore (delimits_blank hafter (delimits_cons (by decide) _))
      (by omega), skipOtherMembersWithin_close hclose]
  | @next m members before w after rest hw hbefore hafter hrest ih =>
    obtain ⟨hname, hnames⟩ := List.forall_mem_cons.mp hnames
    obtain ⟨hvalue, hvalues⟩ := List.forall_mem_cons.mp hvalues
    have hlength : m.2.length < w.length := by
      obtain ⟨_, _⟩ := hw
      simp only [List.length_cons, List.length_append]
      omega
    simp only [List.length_append, List.length_cons] at hfuel
    obtain ⟨fuel, rfl⟩ := Nat.exists_eq_succ_of_ne_zero (n := fuel) (by omega)
    have hcomma : skipSpace (after ++ 0x2c :: (rest ++ 0x7d :: more)) = 0x2c :: (rest ++ 0x7d :: more) := by
      rw [skipSpace_blank hafter, skipSpace_cons (by decide)]
    simp only [List.append_assoc, List.cons_append]
    rw [skipMembersWithin_member hname hvalue hw hbefore
      (delimits_blank hafter (delimits_cons (by decide) _)) (by omega), skipOtherMembersWithin_comma hcomma]
    exact ih hnames hvalues fuel (by omega)

theorem Skipped.of_head {b : UInt8} {w : Bytes} (hb : isSpace b = false ∧ b ≠ 0x5d)
    (h : ∀ {more fuel}, Delimits more → w.length ≤ fuel →
      skipValueWithin (fuel + 1) (b :: (w ++ more)) = some more) : Skipped (b :: w) where
  starts := ⟨b, w, rfl, hb⟩
  skip {more fuel} hmore hfuel := by
    obtain ⟨fuel, rfl⟩ := Nat.exists_eq_succ_of_ne_zero (Nat.ne_of_gt (Nat.zero_lt_of_lt hfuel))
    exact h hmore (Nat.le_of_succ_le_succ hfuel)

theorem skipSpace_skipSpace (bs : Bytes) : skipSpace (skipSpace bs) = skipSpace bs :=
  List.dropWhile_idempotent _ _

theorem skipValueWithin_skipSpace (fuel : Nat) (bs : Bytes) :
    skipValueWithin fuel (skipSpace bs) = skipValueWithin fuel bs := by
  cases fuel with
  | zero => rw [skipValueWithin, skipValueWithin]
  | succ fuel => rw [skipValueWithin, skipValueWithin, skipSpace_skipSpace]

theorem skipItemsWithin_skipSpace (fuel : Nat) (bs : Bytes) :
    skipItemsWithin fuel (skipSpace bs) = skipItemsWithin fuel bs := by
  cases fuel with
  | zero => rw [skipItemsWithin, skipItemsWithin]
  | succ fuel => rw [skipItemsWithin, skipItemsWithin, skipValueWithin_skipSpace]

theorem skipMembersWithin_skipSpace (fuel : Nat) (bs : Bytes) :
    skipMembersWithin fuel (skipSpace bs) = skipMembersWithin fuel bs := by
  cases fuel with
  | zero => rw [skipMembersWithin, skipMembersWithin]
  | succ fuel => rw [skipMembersWithin, skipMembersWithin, skipSpace_skipSpace]

theorem skipValueWithin_items (h : (skipSpace bs).head? ≠ some 0x5d) :
    skipValueWithin (fuel + 1) (0x5b :: bs) = skipItemsWithin fuel bs := by
  rw [skipValueWithin, skipSpace_cons (by decide), ← skipItemsWithin_skipSpace]
  dsimp only
  rw [if_neg (by decide), if_pos rfl]
  split
  next heq => exact absurd (by rw [heq]; rfl) h
  next => rfl

theorem skipValueWithin_members (h : (skipSpace bs).head? ≠ some 0x7d) :
    skipValueWithin (fuel + 1) (0x7b :: bs) = skipMembersWithin fuel bs := by
  rw [skipValueWithin, skipSpace_cons (by decide), ← skipMembersWithin_skipSpace]
  dsimp only
  rw [if_neg (by decide), if_neg (by decide), if_pos rfl]
  split
  next heq => exact absurd (by rw [heq]; rfl) h
  next => rfl

theorem skipValueWithin_empty_array (h : skipSpace bs = 0x5d :: rest) :
    skipValueWithin (fuel + 1) (0x5b :: bs) = some rest := by
  rw [skipValueWithin, skipSpace_cons (by decide)]
  simp only [h]
  rfl

theorem skipValueWithin_empty_object (h : skipSpace bs = 0x7d :: rest) :
    skipValueWithin (fuel + 1) (0x7b :: bs) = some rest := by
  rw [skipValueWithin, skipSpace_cons (by decide)]
  simp only [h]
  rfl

theorem Listed.head {α : Type} {IsItem : α → Bytes → Prop} {as : List α} (h : Listed IsItem as w)
    {P : UInt8 → Prop}
    (hitems : ∀ a ∈ as, ∀ item, IsItem a item → ∃ b rest, item = b :: rest ∧ isSpace b = false ∧ P b)
    (bs : Bytes) : ∃ b rest, skipSpace (w ++ bs) = b :: rest ∧ P b := by
  obtain ⟨hw, hbefore, _⟩ | ⟨hw, hbefore, _, _⟩ := h
  all_goals
    obtain ⟨b, rest, rfl, hspace, hb⟩ := hitems _ List.mem_cons_self _ hw
    rw [List.append_assoc, skipSpace_blank hbefore, List.append_assoc, List.cons_append, skipSpace_cons hspace]
    exact ⟨b, _, rfl, hb⟩

theorem skipped_array {items : List Bytes} (h : Enclosed Eq 0x5b 0x5d items w)
    (hitems : ∀ item ∈ items, Skipped item) : Skipped w := by
  obtain hblank | hlisted := h
  · refine .of_head (by decide) fun {more fuel} hmore hfuel => skipValueWithin_empty_array ?_
    rw [List.append_assoc, skipSpace_blank hblank]
    exact skipSpace_cons (by decide) more
  · refine .of_head (by decide) fun {more fuel} hmore hfuel => ?_
    rw [List.length_append, List.length_singleton] at hfuel
    obtain ⟨b, rest, hskip, hne⟩ := hlisted.head
      (fun item hitem _ heq => heq ▸ (hitems item hitem).starts) ([0x5d] ++ more)
    rw [List.append_assoc, skipValueWithin_items (by rw [hskip]; exact fun heq => hne (Option.some.inj heq))]
    exact skipItemsWithin_listed hlisted hitems hfuel more

theorem skipped_object {members : List (Bytes × Bytes)}
    (h : Enclosed (fun m => IsMember m.1 m.2) 0x7b 0x7d members w) (hnames : ∀ m ∈ members, IsBody m.1)
    (hvalues : ∀ m ∈ members, Skipped m.2) : Skipped w := by
  obtain hblank | hlisted := h
  · refine .of_head (by decide) fun {more fuel} hmore hfuel => skipValueWithin_empty_object ?_
    rw [List.append_assoc, skipSpace_blank hblank]
    exact skipSpace_cons (by decide) more
  · refine .of_head (by decide) fun {more fuel} hmore hfuel => ?_
    rw [List.length_append, List.length_singleton] at hfuel
    have hhead : ∀ m ∈ members, ∀ member, IsMember m.1 m.2 member →
        ∃ b rest, member = b :: rest ∧ isSpace b = false ∧ b ≠ 0x7d := by
      rintro m - _ ⟨_, _⟩
      exact ⟨_, _, rfl, by decide⟩
    obtain ⟨b, rest, hskip, hne⟩ := hlisted.head hhead ([0x7d] ++ more)
    rw [List.append_assoc, skipValueWithin_members (by rw [hskip]; exact fun heq => hne (Option.some.inj heq))]
    exact skipMembersWithin_listed hlisted hnames hvalues hfuel more

theorem skipValueWithin_numeral {b : UInt8} (hb : b = 0x2d ∨ isDigit b = true) (h : skipSpace bs = b :: rest) :
    skipValueWithin (fuel + 1) bs = (readNumeral (b :: rest)).map (·.2) := by
  rw [skipValueWithin, h]
  -- neither a quote nor a bracket, brace or word opens a number
  simp only [if_neg (ne_of_opens (c := 0x22) hb (by decide)), if_neg (ne_of_opens (c := 0x5b) hb (by decide)),
    if_neg (ne_of_opens (c := 0x7b) hb (by decide)), if_neg (ne_of_opens (c := 0x6e) hb (by decide)),
    if_neg (ne_of_opens (c := 0x74) hb (by decide)), if_neg (ne_of_opens (c := 0x66) hb (by decide))]

theorem skipped_numeral (h : IsNumeral w) : Skipped w := by
  obtain ⟨b, rest, rfl, hb⟩ := h.head
  have hspace := isSpace_of_opens hb
  refine .of_head ⟨hspace, ne_of_opens hb (by decide)⟩ fun {more fuel} hmore hfuel => ?_
  obtain ⟨n, hread⟩ := h.readNumeral hmore
  rw [List.cons_append] at hread
  rw [skipValueWithin_numeral hb (skipSpace_cons hspace _), hread, Option.map_some]

theorem skipped_text {body : Bytes} (h : IsBody body) : Skipped (0x22 :: (body ++ [0x22])) := by
  refine .of_head (by decide) fun {more fuel} hmore hfuel => ?_
  obtain ⟨pieces, hpieces⟩ := h.readPieces
  rw [skipValueWithin, skipSpace_cons (by decide), List.append_assoc]
  simp only [List.singleton_append, if_true, hpieces, Option.map_some]

theorem IsValue.skipped (h : IsValue w) : Skipped w := by
  induction h with
  | null =>
    exact .of_head (by decide) fun {more fuel} hmore hfuel => readWord?_append nullWord more
  | bool b =>
    cases b
    · exact .of_head (by decide) fun {more fuel} hmore hfuel => readWord?_append falseWord more
    · exact .of_head (by decide) fun {more fuel} hmore hfuel => readWord?_append trueWord more
  | number h => exact skipped_numeral h
  | text h => exact skipped_text h
  | array _ h ih => exact skipped_array h ih
  | object hnames _ h ih => exact skipped_object h hnames ih

theorem IsValue.skipValue (h : IsValue w) (hbefore : IsBlank before) (hmore : Delimits more) :
    skipValue (before ++ (w ++ more)) = .ok ((), more) := by
  rw [Json.skipValue, h.skipped.skip_blank hbefore hmore (by simp only [List.length_append]; omega)]

def Extends (x y : Option Bytes) : Prop := x = none ∨ x = y

theorem Extends.refl (x : Option Bytes) : Extends x x := .inr rfl

theorem Extends.bind {x y : Option Bytes} {f g : Bytes → Option Bytes} (h : Extends x y)
    (hnext : ∀ a, Extends (f a) (g a)) : Extends (x >>= f) (y >>= g) := by
  obtain rfl | rfl := h
  · exact .inl rfl
  · cases x with
    | none => exact .inl rfl
    | some a => exact hnext a

/-- One unit of fuel more changes no answer. -/
theorem extends_succ (fuel : Nat) :
    (∀ bs, Extends (skipValueWithin fuel bs) (skipValueWithin (fuel + 1) bs)) ∧
    (∀ bs, Extends (skipItemsWithin fuel bs) (skipItemsWithin (fuel + 1) bs)) ∧
    (∀ bs, Extends (skipMembersWithin fuel bs) (skipMembersWithin (fuel + 1) bs)) := by
  -- a value skips items and members, and these skip values, so the three hold together
  induction fuel with
  | zero =>
    refine ⟨fun bs => .inl ?_, fun bs => .inl ?_, fun bs => .inl ?_⟩
    · rw [skipValueWithin]
    · rw [skipItemsWithin]
    · rw [skipMembersWithin]
  | succ fuel ih =>
    obtain ⟨hvalue, hitems, hmembers⟩ := ih
    refine ⟨fun bs => ?_, fun bs => ?_, fun bs => ?_⟩
    · rw [skipValueWithin, skipValueWithin]
      split
      · exact .refl _
      · split
        · exact .refl _
        split
        · split
          · exact .refl _
          · exact hitems _
        split
        · split
          · exact .refl _
          · exact hmembers _
        · exact .refl _
    · rw [skipItemsWithin, skipItemsWithin]
      refine (hvalue bs).bind fun rest => ?_
      split
      · exact hitems _
      · exact .refl _
      · exact .refl _
    · rw [skipMembersWithin, skipMembersWithin]
      split
      · cases readPieces _ with
        | none => exact .refl _
        | some p =>
          dsimp only [Option.bind_eq_bind, Option.bind_some]
          split
          · refine (hvalue _).bind fun rest => ?_
            split
            · exact hmembers _
            · exact .refl _
            · exact .refl _
          · exact .refl _
      · exact .refl _

theorem eq_some_of_le {skip : Nat → Option Bytes} (hsucc : ∀ fuel, Extends (skip fuel) (skip (fuel + 1)))
    {fuel fuel' : Nat} (h : skip fuel = some rest) (hle : fuel ≤ fuel') : skip fuel' = some rest := by
  induction hle with
  | refl => exact h
  | step _ ih =>
    obtain hnone | heq := hsucc _
    · cases ih.symm.trans hnone
    · exact heq ▸ ih

def SkipsTo (bs rest : Bytes) : Prop := ∃ fuel, skipValueWithin fuel bs = some rest

theorem SkipsTo.unique {rest' : Bytes} (h : SkipsTo bs rest) (h' : SkipsTo bs rest') : rest = rest' := by
  obtain ⟨fuel, hskip⟩ := h
  obtain ⟨fuel', hskip'⟩ := h'
  have hsucc (n : Nat) : Extends (skipValueWithin n bs) (skipValueWithin (n + 1) bs) := (extends_succ n).1 bs
  have hboth := eq_some_of_le hsucc hskip (Nat.le_max_left fuel fuel')
  exact Option.some.inj (hboth.symm.trans (eq_some_of_le hsucc hskip' (Nat.le_max_right fuel fuel')))

theorem IsValue.skipsTo (h : IsValue w) (hbefore : IsBlank before) (hmore : Delimits more) :
    SkipsTo (before ++ (w ++ more)) more :=
  ⟨_, h.skipped.skip_blank hbefore hmore (Nat.le_refl _)⟩

theorem skipsTo_of_skipValue {a : Unit} (h : skipValue bs = .ok (a, rest)) : SkipsTo bs rest := by
  rw [Json.skipValue] at h
  split at h
  next hskip =>
    cases h
    exact ⟨_, hskip⟩
  next => cases h

theorem skipsTo_skipSpace (h : SkipsTo (skipSpace bs) rest) : SkipsTo bs rest := by
  obtain ⟨fuel, hskip⟩ := h
  exact ⟨fuel, by rwa [skipValueWithin_skipSpace] at hskip⟩

def SkipsItemsTo (bs rest : Bytes) : Prop := ∃ fuel, skipItemsWithin fuel bs = some rest

theorem SkipsTo.lastItem {afterItem : Bytes} (h : SkipsTo bs afterItem)
    (hclose : skipSpace afterItem = 0x5d :: rest) : SkipsItemsTo bs rest := by
  obtain ⟨fuel, hskip⟩ := h
  refine ⟨fuel + 1, ?_⟩
  rw [skipItemsWithin, hskip]
  simp only [Option.bind_eq_bind, Option.bind_some, hclose]

theorem SkipsTo.nextItem {afterItem others : Bytes} (h : SkipsTo bs afterItem)
    (hcomma : skipSpace afterItem = 0x2c :: others) (hothers : SkipsItemsTo others rest) :
    SkipsItemsTo bs rest := by
  obtain ⟨fuel, hskip⟩ := h
  obtain ⟨fuel', hskip'⟩ := hothers
  have hitem := eq_some_of_le (fun n => (extends_succ n).1 bs) hskip (Nat.le_max_left fuel fuel')
  have hrest := eq_some_of_le (fun n => (extends_succ n).2.1 others) hskip' (Nat.le_max_right fuel fuel')
  refine ⟨max fuel fuel' + 1, ?_⟩
  rw [skipItemsWithin, hitem]
  simp only [Option.bind_eq_bind, Option.bind_some, hcomma, hrest]

theorem skipsTo_array (h : skipSpace bs = 0x5d :: rest ∨
    (skipSpace bs).head? ≠ some 0x5d ∧ SkipsItemsTo bs rest) : SkipsTo (0x5b :: bs) rest := by
  obtain hclose | ⟨hhead, fuel, hitems⟩ := h
  · exact ⟨1, skipValueWithin_empty_array hclose⟩
  · exact ⟨fuel + 1, (skipValueWithin_items hhead).trans hitems⟩

def SkipsMembersTo (bs rest : Bytes) : Prop := ∃ fuel, skipMembersWithin fuel bs = some rest

section Member

variable {pieces : List Piece} {afterName value afterValue others : Bytes}
  (hname : readPieces bs = some (pieces, afterName)) (hcolon : skipSpace afterName = 0x3a :: value)
include hname hcolon

theorem skipMembersWithin_colon (fuel : Nat) :
    skipMembersWithin (fuel + 1) (0x22 :: bs) =
      skipValueWithin fuel value >>= skipOtherMembersWithin fuel := by
  rw [skipMembersWithin, skipSpace_cons (by decide)]
  simp only [hname, Option.bind_eq_bind, Option.bind_some, hcolon]
  rfl

theorem SkipsTo.lastMember (h : SkipsTo value afterValue) (hclose : skipSpace afterValue = 0x7d :: rest) :
    SkipsMembersTo (0x22 :: bs) rest := by
  obtain ⟨fuel, hskip⟩ := h
  refine ⟨fuel + 1, ?_⟩
  rw [skipMembersWithin_colon hname hcolon, hskip]
  exact skipOtherMembersWithin_close hclose fuel

theorem SkipsTo.nextMember (h : SkipsTo value afterValue) (hcomma : skipSpace afterValue = 0x2c :: others)
    (hothers : SkipsMembersTo others rest) : SkipsMembersTo (0x22 :: bs) rest := by
  obtain ⟨fuel, hskip⟩ := h
  obtain ⟨fuel', hskip'⟩ := hothers
  have hvalue := eq_some_of_le (fun n => (extends_succ n).1 value) hskip (Nat.le_max_left fuel fuel')
  have hrest := eq_some_of_le (fun n => (extends_succ n).2.2 others) hskip' (Nat.le_max_right fuel fuel')
  refine ⟨max fuel fuel' + 1, ?_⟩
  rw [skipMembersWithin_colon hname hcolon, hvalue]
  exact (skipOtherMembersWithin_comma hcomma _).trans hrest

end Member

theorem skipsTo_object (h : skipSpace bs = 0x7d :: rest ∨
    (skipSpace bs).head? ≠ some 0x7d ∧ SkipsMembersTo bs rest) : SkipsTo (0x7b :: bs) rest := by
  obtain hclose | ⟨hhead, fuel, hmembers⟩ := h
  · exact ⟨1, skipValueWithin_empty_object hclose⟩
  · exact ⟨fuel + 1, (skipValueWithin_members hhead).trans hmembers⟩

def Skims {α : Type} (read : Reader α) : Prop :=
  ∀ ⦃bs a rest⦄, read bs = .ok (a, rest) → SkipsTo bs rest

/-- Of a value of the grammar, a reader that succeeds takes neither less nor more. -/
theorem Skims.rest_eq {α : Type} {read : Reader α} (h : Skims read) (hw : IsValue w) (hbefore : IsBlank before)
    (hmore : Delimits more) {a : α} (hread : read (before ++ (w ++ more)) = .ok (a, rest)) : rest = more :=
  (h hread).unique (hw.skipsTo hbefore hmore)

theorem readPieces_of_readQuoted {s : String} (h : readQuoted bs = .ok (s, rest)) :
    ∃ pieces, readPieces bs = some (pieces, rest) := by
  rw [readQuoted] at h
  split at h
  next => cases h
  next hpieces =>
    split at h
    next => cases h
    next =>
      cases h
      exact ⟨_, hpieces⟩

theorem readText_quoted {s : String} (h : readText bs = .ok (s, rest)) :
    ∃ quoted, skipSpace bs = 0x22 :: quoted ∧ readQuoted quoted = .ok (s, rest) := by
  unfold readText at h
  split at h
  next quoted heq => exact ⟨quoted, heq, h⟩
  next => cases h

theorem skipsTo_quoted {s : String} {quoted : Bytes} (hquote : skipSpace bs = 0x22 :: quoted)
    (h : readQuoted quoted = .ok (s, rest)) : SkipsTo bs rest := by
  obtain ⟨pieces, hpieces⟩ := readPieces_of_readQuoted h
  refine ⟨1, ?_⟩
  rw [skipValueWithin, hquote]
  simp only [if_true, hpieces, Option.map_some]

theorem skims_readText : Skims readText := by
  intro bs s rest h
  obtain ⟨quoted, hquote, h⟩ := readText_quoted h
  exact skipsTo_quoted hquote h

theorem readWord?_eq_some {word : List UInt8} (h : readWord? word bs = some rest) : bs = word ++ rest := by
  induction word generalizing bs with
  | nil => exact Option.some.inj h
  | cons b word ih =>
    cases bs with
    | nil => cases h
    | cons c bs =>
      rw [readWord?] at h
      split at h
      next heq => rw [heq, ih h, List.cons_append]
      next => cases h

theorem skims_readBool : Skims readBool := by
  intro bs b rest h
  unfold readBool at h
  dsimp only at h
  split at h
  next hword =>
    cases h
    refine skipsTo_skipSpace ⟨1, ?_⟩
    rw [readWord?_eq_some hword]
    exact readWord?_append trueWord _
  next hword =>
    cases h
    refine skipsTo_skipSpace ⟨1, ?_⟩
    rw [readWord?_eq_some hword]
    exact readWord?_append falseWord _
  next => cases h

theorem skipsTo_null (h : readWord? nullWord (skipSpace bs) = some rest) : SkipsTo bs rest := by
  refine skipsTo_skipSpace ⟨1, ?_⟩
  rw [readWord?_eq_some h]
  exact readWord?_append nullWord rest

theorem skims_readOptional {α : Type} {read : Reader α} (h : Skims read) : Skims (readOptional read) := by
  intro bs a rest hread
  refine skipsTo_skipSpace ?_
  unfold readOptional at hread
  dsimp only at hread
  split at hread
  next =>
    split at hread
    next hword =>
      cases hread
      exact skipsTo_null (by rwa [skipSpace_skipSpace])
    next => cases hread
  next =>
    obtain ⟨⟨value, rest'⟩, hvalue, heq⟩ := bind_eq_ok.mp hread
    cases heq
    exact h hvalue

theorem skims_readNatural (limit : Nat) : Skims (readNatural limit) := by
  intro bs n rest h
  unfold readNatural at h
  dsimp only at h
  split at h
  next => cases h
  next b others heq =>
    split at h
    next hopens =>
      split at h
      next => cases h
      next hnumeral =>
        split at h
        next =>
          split at h
          next =>
            cases h
            refine ⟨1, ?_⟩
            rw [skipValueWithin_numeral hopens heq, ← heq, hnumeral, Option.map_some]
          next => cases h
        next => 
          split at h
          next => cases h
          next =>
            split at h
            · cases h
            · cases h
    next => cases h

theorem skims_readVariant {α : Type} (find : String → Option α) : Skims (readVariant find) := by
  intro bs a rest h
  unfold readVariant at h
  split at h
  next others heq =>
    obtain ⟨⟨name, afterName⟩, hname, h⟩ := bind_eq_ok.mp h
    dsimp only at h
    split at h
    next =>
      cases h
      exact skipsTo_quoted heq hname
    next => cases h
  next others heq =>
    refine skipsTo_skipSpace ?_
    rw [heq]
    obtain ⟨⟨name, afterName⟩, hname, h⟩ := bind_eq_ok.mp h
    dsimp only at h
    split at h
    next => cases h
    next =>
      split at h
      next value hcolon =>
        split at h
        next => cases h
        next afterNull hnull =>
          split at h
          next hclose =>
            cases h
            obtain ⟨quoted, hquote, hname⟩ := readText_quoted hname
            obtain ⟨pieces, hpieces⟩ := readPieces_of_readQuoted hname
            obtain ⟨fuel, hskip⟩ := (skipsTo_null hnull).lastMember hpieces hcolon hclose
            rw [← hquote, skipMembersWithin_skipSpace] at hskip
            exact skipsTo_object (.inr ⟨by rw [hquote]; nofun, fuel, hskip⟩)
          next => cases h
      next => cases h
  next => cases h

end RelyingParty.Json
