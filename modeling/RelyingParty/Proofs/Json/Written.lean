import RelyingParty.Proofs.Json.Object

namespace RelyingParty.Json

variable {w : Bytes}

theorem isUnit_control {n : Nat} (h : n < 32) :
    IsUnit n (Bytes.ofChars ['\\', 'u', '0', '0', hexDigit (n / 16), hexDigit (n % 16)]) := by
  have hbytes : ∀ n < 32, Bytes.ofChars ['\\', 'u', '0', '0', hexDigit (n / 16), hexDigit (n % 16)] =
      [0x5c, 0x75, 0x30, 0x30, .ofNat (hexDigit (n / 16)).toNat, .ofNat (hexDigit (n % 16)).toNat] := by decide
  have hzero : IsHexDigit 0 0x30 := ⟨by decide, .inl rfl⟩
  have hunit := IsUnit.digits hzero hzero (r := n / 16) (s := n % 16) ⟨by omega, .inl rfl⟩ ⟨by omega, .inl rfl⟩
  have hvalue : ((0 * 16 + 0) * 16 + n / 16) * 16 + n % 16 = n := by omega
  rwa [hvalue, ← hbytes n h] at hunit

theorem Spelling.escapeChar {cs : List Char} (h : Spelling w cs) (c : Char) :
    Spelling (Bytes.ofChars (escapeChar c) ++ w) (c :: cs) := by
  have eq_of_toNat {n : Nat} (h : c.toNat = n) : c = Char.ofNat n := by rw [← h, Char.ofNat_toNat]
  unfold Json.escapeChar
  split
  next hc => subst hc; exact .escape (e := 0x22) (by decide) h
  split
  next hc => subst hc; exact .escape (e := 0x5c) (by decide) h
  split
  next hc => subst hc; exact .escape (e := 0x6e) (by decide) h
  split
  next hc => subst hc; exact .escape (e := 0x72) (by decide) h
  split
  next hc => subst hc; exact .escape (e := 0x74) (by decide) h
  split
  next hc => obtain rfl := eq_of_toNat hc; exact .escape (e := 0x62) (by decide) h
  split
  next hc => obtain rfl := eq_of_toNat hc; exact .escape (e := 0x66) (by decide) h
  split
  next hcontrol => exact .unit (isUnit_control hcontrol) h
  next hquote hslash _ _ _ _ _ hcontrol =>
    rw [Bytes.ofChars_cons, Bytes.ofChars_nil, List.append_nil]
    exact .plain hquote hslash (Nat.le_of_not_lt hcontrol) h

theorem spelling_escapeChars (cs : List Char) : Spelling (Bytes.ofChars (cs.flatMap escapeChar)) cs := by
  induction cs with
  | nil => exact .nil
  | cons c cs ih =>
    rw [List.flatMap_cons, Bytes.ofChars_append]
    exact ih.escapeChar c

theorem isText_quote (s : String) : IsText s (Bytes.ofChars (quote s)) := by
  refine ⟨_, spelling_escapeChars s.toList, ?_⟩
  rw [quote, List.cons_append, Bytes.ofChars_cons, Bytes.ofChars_append]
  rfl

theorem isBody_append {plain : Bytes} (hplain : ∀ b ∈ plain, IsPlain b) (h : IsBody w) : IsBody (plain ++ w) := by
  induction plain with
  | nil => exact h
  | cons b plain ih =>
    obtain ⟨hb, hplain⟩ := List.forall_mem_cons.mp hplain
    exact .plain hb (ih hplain)

theorem Spelling.isBody {cs : List Char} (h : Spelling w cs) : IsBody w := by
  induction h with
  | nil => exact .nil
  | @plain w c cs hquote hslash hcontrol _ ih =>
    refine isBody_append (fun b hb => ?_) ih
    by_cases hascii : c.toNat < 128
    · rw [Bytes.utf8EncodeChar_of_lt hascii, List.mem_singleton] at hb
      exact hb ▸ isPlain_ofNat (Nat.not_lt.mpr hcontrol) hascii hquote hslash
    · exact isPlain_of_le (Bytes.le_of_mem_utf8EncodeChar (Nat.le_of_not_lt hascii) hb)
  | escape h _ ih => exact .escape h ih
  | unit h _ ih => exact .unit h ih
  | pair _ high low _ ih =>
    rw [List.append_assoc]
    exact .unit high (.unit low ih)

theorem digitChar_bytes : ∀ n < 10, Bytes.ofChars [Nat.digitChar n] = [.ofNat (48 + n)] ∧
    isDigit (.ofNat (48 + n)) = true ∧ (UInt8.ofNat (48 + n)).toNat - 48 = n ∧
    (0 < n → UInt8.ofNat (48 + n) ≠ 0x30) := by decide

theorem digitsValue_append (w : Bytes) (b : UInt8) :
    digitsValue 0 (w ++ [b]) = digitsValue 0 w * 10 + (b.toNat - 48) := by
  rw [digitsValue, List.foldl_append]
  rfl

/-- The decimal digits of a number above zero, from the first on. -/
theorem toDigits_of_pos (n : Nat) (hn : 0 < n) : IsDigits (Bytes.ofChars (Nat.toDigits 10 n)) ∧
    (Bytes.ofChars (Nat.toDigits 10 n)).head? ≠ some 0x30 ∧
    digitsValue 0 (Bytes.ofChars (Nat.toDigits 10 n)) = n := by
  induction n using Nat.strongRecOn with
  | ind n ih =>
    by_cases hlt : n < 10
    · obtain ⟨hbytes, hdigit, hvalue, hzero⟩ := digitChar_bytes n hlt
      rw [Nat.toDigits_of_lt_base hlt, hbytes]
      refine ⟨⟨nofun, List.forall_mem_singleton.mpr hdigit⟩, ?_, ?_⟩
      · exact fun hhead => hzero hn (Option.some.inj hhead)
      · rw [← List.nil_append [_], digitsValue_append, hvalue]
        exact Nat.zero_add n
    · obtain ⟨hbytes, hdigit, hvalue, _⟩ := digitChar_bytes (n % 10) (Nat.mod_lt n (by decide))
      obtain ⟨⟨hne, hall⟩, hhead, hrest⟩ := ih (n / 10) (by omega) (by omega)
      rw [Nat.toDigits_of_base_le (by decide) (Nat.le_of_not_lt hlt), Bytes.ofChars_append, hbytes]
      refine ⟨⟨List.append_ne_nil_of_left_ne_nil hne _, ?_⟩, ?_, ?_⟩
      · exact List.forall_mem_append.mpr ⟨hall, List.forall_mem_singleton.mpr hdigit⟩
      · rwa [List.head?_append_of_ne_nil _ hne]
      · rw [digitsValue_append, hrest, hvalue]
        omega

theorem isWhole_toString (n : Nat) :
    IsWhole (Bytes.ofChars (toString n).toList) ∧ digitsValue 0 (Bytes.ofChars (toString n).toList) = n := by
  rw [Nat.toString_eq_ofList_toDigits, String.toList_ofList]
  by_cases hn : n = 0
  · subst hn
    exact ⟨.inl rfl, rfl⟩
  · obtain ⟨hdigits, hhead, hvalue⟩ := toDigits_of_pos n (Nat.pos_of_ne_zero hn)
    exact ⟨.inr ⟨hdigits, hhead⟩, hvalue⟩

/-- A text of a value: any spelling of its texts, and any blanks between its tokens. -/
inductive Renders : Value → Bytes → Prop
  | null : Renders .null nullWord
  | bool {b : Bool} {w : Bytes} (h : IsFlag b w) : Renders (.bool b) w
  | number {n : Nat} {w : Bytes} (h : IsWhole w) (hvalue : digitsValue 0 w = n) : Renders (.number n) w
  | text {s : String} {w : Bytes} (h : IsText s w) : Renders (.text s) w
  | array {items : List (Value × Bytes)} {w : Bytes} (hitems : ∀ item ∈ items, Renders item.1 item.2)
    (h : Enclosed Eq 0x5b 0x5d (items.map Prod.snd) w) : Renders (.array (items.map Prod.fst)) w
  | object {members : List (String × Value × Bytes)} {w : Bytes}
    (hvalues : ∀ m ∈ members, Renders m.2.1 m.2.2)
    (h : Enclosed IsNamed 0x7b 0x7d (members.map fun m => (m.1, m.2.2)) w) :
    Renders (.object (members.map fun m => (m.1, m.2.1))) w

variable {α β : Type} {IsItem : α → Bytes → Prop} {IsItem' : β → Bytes → Prop}

theorem isMember_of_isNamed {members : List (String × Bytes)} (h : Listed IsNamed members w) :
    ∃ names : List (Bytes × Bytes), Listed (fun m => IsMember m.1 m.2) names w ∧ (∀ m ∈ names, IsBody m.1) ∧
      names.map Prod.snd = members.map Prod.snd := by
  induction h with
  | @last m before w after hw hbefore hafter =>
    obtain ⟨body, hbody, hmember⟩ := hw
    exact ⟨[(body, m.2)], .last hmember hbefore hafter, List.forall_mem_singleton.mpr hbody.isBody, rfl⟩
  | @next m members before w after rest hw hbefore hafter _ ih =>
    obtain ⟨body, hbody, hmember⟩ := hw
    obtain ⟨names, hlisted, hnames, hvalues⟩ := ih
    refine ⟨(body, m.2) :: names, .next hmember hbefore hafter hlisted, ?_, congrArg (m.2 :: ·) hvalues⟩
    exact List.forall_mem_cons.mpr ⟨hbody.isBody, hnames⟩

theorem IsObject.isValue {members : List (String × Bytes)} (h : IsObject members w) : IsValue w := by
  obtain ⟨hvalues, hblank | hlisted⟩ := h
  · exact .object (List.forall_mem_nil _) (List.forall_mem_nil _) (.nothing hblank)
  · obtain ⟨names, hlisted, hnames, hsame⟩ := isMember_of_isNamed hlisted
    refine .object hnames (fun m hm => ?_) (.items hlisted)
    have hm' := List.mem_map_of_mem (f := Prod.snd) hm
    rw [hsame] at hm'
    obtain ⟨m', hm', heq⟩ := List.mem_map.mp hm'
    exact heq ▸ hvalues m' hm'

theorem IsText.isValue {s : String} (h : IsText s w) : IsValue w := by
  obtain ⟨body, hbody, rfl⟩ := h
  exact .text hbody.isBody

theorem Renders.isValue {v : Value} (h : Renders v w) : IsValue w := by
  induction h with
  | null => exact .null
  | bool h => exact h ▸ .bool _
  | number h _ => exact .number ⟨[], _, [], [], .inl rfl, h, .inl rfl, .inl rfl, by simp⟩
  | text h => exact h.isValue
  | array _ h ih => exact .array (List.forall_mem_map.mpr ih) h
  | object _ h ih => exact IsObject.isValue ⟨List.forall_mem_map.mpr ih, h⟩

/-- Induction over a value with what is known of each item and each member. -/
@[elab_as_elim]
theorem Value.induction {motive : Value → Prop} (null : motive .null) (bool : ∀ b, motive (.bool b))
    (number : ∀ n, motive (.number n)) (text : ∀ s, motive (.text s))
    (array : ∀ items, (∀ item ∈ items, motive item) → motive (.array items))
    (object : ∀ members, (∀ m ∈ members, motive m.2) → motive (.object members)) (v : Value) : motive v :=
  match v with
  | .null => null
  | .bool b => bool b
  | .number n => number n
  | .text s => text s
  | .array items => array items fun item _ => Value.induction null bool number text array object item
  | .object members => object members fun m _ => Value.induction null bool number text array object m.2
decreasing_by
  · have hitem := List.sizeOf_lt_of_mem ‹item ∈ items›
    rw [Value.array.sizeOf_spec]
    omega
  · have hmember := List.sizeOf_lt_of_mem ‹m ∈ members›
    have hvalue : sizeOf m.2 < sizeOf m := by
      rw [Prod.mk.sizeOf_spec]
      omega
    rw [Value.object.sizeOf_spec]
    omega

theorem Enclosed.map {f : α → β} {opening closing : UInt8} {as : List α}
    (h : Enclosed (fun a => IsItem' (f a)) opening closing as w) :
    Enclosed IsItem' opening closing (as.map f) w := by
  obtain hblank | hlisted := h
  · exact .nothing hblank
  · refine .items ?_
    induction hlisted with
    | last hw hbefore hafter => exact .last hw hbefore hafter
    | next hw hbefore hafter _ ih => exact .next hw hbefore hafter ih

theorem renders_array {items : List Value} (text : Value → Bytes) (hitems : ∀ v ∈ items, Renders v (text v))
    (h : Enclosed (fun v => Eq (text v)) 0x5b 0x5d items w) : Renders (.array items) w := by
  have hrenders : Renders (.array ((items.map fun v => (v, text v)).map Prod.fst)) w :=
    .array (List.forall_mem_map.mpr hitems) (by rw [List.map_map]; exact h.map)
  rwa [List.map_map, List.map_id''] at hrenders
  exact fun _ => rfl

theorem renders_object {members : List (String × Value)} (text : Value → Bytes)
    (hvalues : ∀ m ∈ members, Renders m.2 (text m.2))
    (h : Enclosed (fun m => IsNamed (m.1, text m.2)) 0x7b 0x7d members w) : Renders (.object members) w := by
  have hrenders : Renders (.object ((members.map fun m => (m.1, m.2, text m.2)).map fun m => (m.1, m.2.1))) w :=
    .object (List.forall_mem_map.mpr hvalues) (by rw [List.map_map]; exact h.map)
  rwa [List.map_map, List.map_id''] at hrenders
  exact fun _ => rfl

theorem listed_join {before after : Bytes} (hbefore : IsBlank before) (hafter : IsBlank after)
    {text : α → Bytes} (a : α) (as : List α) (hitems : ∀ x ∈ a :: as, IsItem x (text x)) :
    Listed IsItem (a :: as)
      (before ++ (text a ++ (as.flatMap (fun x => 0x2c :: (before ++ text x)) ++ after))) := by
  obtain ⟨ha, has⟩ := List.forall_mem_cons.mp hitems
  induction as generalizing a with
  | nil => exact .last ha hbefore hafter
  | cons b as ih =>
    have hrest := Listed.next ha hbefore isBlank_nil (ih b has (List.forall_mem_cons.mp has).1
      (List.forall_mem_cons.mp has).2)
    simpa only [List.flatMap_cons, List.nil_append, List.append_assoc, List.cons_append] using hrest

theorem ofChars_ascii {c : Char} (h : c.toNat < 128) (cs : List Char) :
    Bytes.ofChars (c :: cs) = .ofNat c.toNat :: Bytes.ofChars cs := by
  rw [Bytes.ofChars_cons, Bytes.utf8EncodeChar_of_lt h, List.singleton_append]

section Join

variable (opening closing : Char) {before after : List Char} {text : α → List Char} {tail : List α → List Char}
  (hcons : ∀ a as, tail (a :: as) = ',' :: (before ++ text a) ++ tail as) (hnil : tail [] = after ++ [closing])
  (hclosing : closing.toNat < 128)
include hcons hnil hclosing

theorem ofChars_tail (as : List α) : Bytes.ofChars (tail as) =
    as.flatMap (fun x => 0x2c :: (Bytes.ofChars before ++ Bytes.ofChars (text x))) ++
      (Bytes.ofChars after ++ [.ofNat closing.toNat]) := by
  induction as with
  | nil => rw [hnil, Bytes.ofChars_append, ofChars_ascii hclosing, Bytes.ofChars_nil, List.flatMap_nil, List.nil_append]
  | cons a as ih =>
    rw [hcons, Bytes.ofChars_append, ih, ofChars_ascii (by decide), Bytes.ofChars_append, List.flatMap_cons,
      List.append_assoc (0x2c :: _)]
    rfl

/-- Items or members that are written one after the other: `tail` writes those after the first, and the
closing bracket. -/
theorem enclosed_join (hopening : opening.toNat < 128) (hbefore : IsBlank (Bytes.ofChars before))
    (hafter : IsBlank (Bytes.ofChars after)) {a : α} {as : List α}
    (hitems : ∀ x ∈ a :: as, IsItem x (Bytes.ofChars (text x))) :
    Enclosed IsItem (.ofNat opening.toNat) (.ofNat closing.toNat) (a :: as)
      (Bytes.ofChars (opening :: (before ++ text a ++ tail as))) := by
  have henclosed : Enclosed IsItem (.ofNat opening.toNat) (.ofNat closing.toNat) (a :: as) _ :=
    .items (listed_join hbefore hafter a as hitems)
  rw [ofChars_ascii hopening, Bytes.ofChars_append, Bytes.ofChars_append, ofChars_tail closing hcons hnil hclosing]
  simpa only [List.append_assoc] using henclosed

end Join

theorem isNamed_quote (name : String) (blank : List Char) {value : List Char} (h : IsBlank (Bytes.ofChars blank)) :
    IsNamed (name, Bytes.ofChars value) (Bytes.ofChars (quote name ++ ':' :: (blank ++ value))) := by
  refine ⟨_, spelling_escapeChars name.toList, ?_⟩
  have hmember : IsMember (Bytes.ofChars (name.toList.flatMap escapeChar)) (Bytes.ofChars value) _ :=
    .member isBlank_nil h
  rw [Bytes.ofChars_append, quote, List.cons_append, ofChars_ascii (by decide), Bytes.ofChars_append,
    ofChars_ascii (by decide), ofChars_ascii (by decide), Bytes.ofChars_append, List.cons_append, List.append_assoc]
  exact hmember

def Value.compactBytes (v : Value) : Bytes := Bytes.ofChars v.compactChars

def Value.prettyBytes (depth : Nat) (v : Value) : Bytes := Bytes.ofChars (v.prettyChars depth)

theorem Value.ofText_compact (v : Value) : Bytes.ofText v.compact = v.compactBytes := Bytes.ofText_ofList _

theorem Value.ofText_pretty (v : Value) : Bytes.ofText v.pretty = v.prettyBytes 0 := Bytes.ofText_ofList _

theorem renders_compact (v : Value) : Renders v v.compactBytes := by
  induction v using Value.induction with
  | null => exact .null
  | bool b => cases b <;> exact .bool rfl
  | number n => exact .number (isWhole_toString n).1 (isWhole_toString n).2
  | text s => exact .text (isText_quote s)
  | array items ih =>
    refine renders_array Value.compactBytes ih ?_
    cases items with
    | nil => exact .nothing isBlank_nil
    | cons item items =>
      have hcons (v : Value) (vs : List Value) :
          Value.compactItems (v :: vs) = ',' :: ([] ++ v.compactChars) ++ Value.compactItems vs := rfl
      have hnil : Value.compactItems [] = [] ++ [']'] := rfl
      exact enclosed_join '[' ']' hcons hnil (by decide) (by decide) isBlank_nil isBlank_nil
        fun v _ => rfl
  | object members ih =>
    refine renders_object Value.compactBytes ih ?_
    cases members with
    | nil => exact .nothing isBlank_nil
    | cons m members =>
      have hcons (m : String × Value) (ms : List (String × Value)) : Value.compactMembers (m :: ms) =
          ',' :: ([] ++ (quote m.1 ++ ':' :: ([] ++ m.2.compactChars))) ++ Value.compactMembers ms := by
        rw [Value.compactMembers, List.nil_append, List.nil_append, List.cons_append]
      have hnil : Value.compactMembers [] = [] ++ ['}'] := rfl
      exact enclosed_join '{' '}' hcons hnil (by decide) (by decide) isBlank_nil isBlank_nil
        fun m _ => isNamed_quote m.1 [] isBlank_nil

theorem isBlank_spaces (n : Nat) : IsBlank (Bytes.ofChars (List.replicate n ' ')) := by
  induction n with
  | zero => exact isBlank_nil
  | succ n ih =>
    rw [List.replicate_succ, ofChars_ascii (by decide)]
    exact List.forall_mem_cons.mpr ⟨rfl, ih⟩

theorem isBlank_indent (depth : Nat) : IsBlank (Bytes.ofChars (Value.indent depth)) := by
  rw [Value.indent, ofChars_ascii (by decide)]
  exact List.forall_mem_cons.mpr ⟨rfl, isBlank_spaces _⟩

theorem renders_pretty (v : Value) (depth : Nat) : Renders v (v.prettyBytes depth) := by
  induction v using Value.induction generalizing depth with
  | null => exact .null
  | bool b => cases b <;> exact .bool rfl
  | number n => exact .number (isWhole_toString n).1 (isWhole_toString n).2
  | text s => exact .text (isText_quote s)
  | array items ih =>
    refine renders_array (Value.prettyBytes (depth + 1)) (fun v hv => ih v hv _) ?_
    cases items with
    | nil => exact .nothing isBlank_nil
    | cons item items =>
      have hcons (v : Value) (vs : List Value) : Value.prettyItems depth (v :: vs) =
          ',' :: (Value.indent (depth + 1) ++ v.prettyChars (depth + 1)) ++ Value.prettyItems depth vs := by
        rw [Value.prettyItems, List.cons_append]
      exact enclosed_join '[' ']' hcons rfl (by decide) (by decide) (isBlank_indent _) (isBlank_indent _)
        fun v _ => rfl
  | object members ih =>
    refine renders_object (Value.prettyBytes (depth + 1)) (fun m hm => ih m hm _) ?_
    cases members with
    | nil => exact .nothing isBlank_nil
    | cons m members =>
      have hcons (m : String × Value) (ms : List (String × Value)) : Value.prettyMembers depth (m :: ms) =
          ',' :: (Value.indent (depth + 1) ++ (quote m.1 ++ ':' :: ([' '] ++ m.2.prettyChars (depth + 1)))) ++
            Value.prettyMembers depth ms := by
        simp only [Value.prettyMembers, List.cons_append, List.append_assoc, List.nil_append]
      have hobject : (Value.object (m :: members)).prettyChars depth = '{' :: (Value.indent (depth + 1) ++
          (quote m.1 ++ ':' :: ([' '] ++ m.2.prettyChars (depth + 1))) ++ Value.prettyMembers depth members) := by
        simp only [Value.prettyChars, List.cons_append, List.append_assoc, List.nil_append]
      rw [Value.prettyBytes, hobject]
      exact enclosed_join '{' '}' hcons rfl (by decide) (by decide) (isBlank_indent _) (isBlank_indent _)
        fun m _ => isNamed_quote m.1 [' '] (isBlank_spaces 1)

end RelyingParty.Json
