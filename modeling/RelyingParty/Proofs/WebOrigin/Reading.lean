import RelyingParty.Proofs.Text
import RelyingParty.Proofs.Text.Parts
import RelyingParty.WebOrigin.Origin

namespace RelyingParty.WebOrigin

def IsNameChar (c : Char) : Prop := c.isAlphanum = true ∨ c = '.'

theorem IsNameChar.ne {c d : Char} (h : IsNameChar c) (hd : d.isAlphanum = false) (hdot : d ≠ '.') :
    c ≠ d := by
  rcases h with h | rfl
  · exact ne_of_isAlphanum h hd
  · exact hdot.symm

theorem IsNameChar.toNat {c : Char} (h : IsNameChar c) : 0x20 < c.toNat ∧ c.toNat < 0x7f := by
  rcases h with h | rfl
  · have hname := isAlphanum_iff.mp h
    omega
  · decide

theorem IsNameChar.toLower {c : Char} (h : IsNameChar c) : IsNameChar c.toLower := by
  rcases h with h | rfl
  · exact .inl (isAlphanum_toLower h)
  · exact .inr rfl

theorem IsNameChar.not_forbidden {c : Char} (h : IsNameChar c) : DomainName.isForbidden c = false := by
  have hrange := h.toNat
  have hmeaning : "%#/:<>?@[\\]^|".toList.contains c = false := by
    have hother : "%#/:<>?@[\\]^|".toList.all (fun d => !d.isAlphanum && d != '.') = true := by decide
    rw [← Bool.not_eq_true, List.contains_iff_mem]
    intro hmem
    have hc := List.all_eq_true.mp hother c hmem
    rw [Bool.and_eq_true, Bool.not_eq_true', bne_iff_ne] at hc
    exact h.ne hc.1 hc.2 rfl
  rw [DomainName.isForbidden, hmeaning, Bool.or_false, Bool.or_eq_false_iff]
  constructor
  · exact decide_eq_false (by omega)
  · exact decide_eq_false (by omega)

def IsTail (cs : List Char) : Prop := ∀ c ∈ cs.head?, c = '/' ∨ c = '?' ∨ c = '#'

theorem IsTail.of_prefix {cs tail : List Char} (h : IsTail tail) (hcs : cs <+: tail) : IsTail cs := by
  obtain ⟨more, rfl⟩ := hcs
  intro c hc
  exact h c (by rw [List.head?_append, Option.mem_def.mp hc]; rfl)

theorem IsTail.filter {tail : List Char} (h : IsTail tail) {keep : Char → Bool} (hslash : keep '/' = true)
    (hquery : keep '?' = true) (hfragment : keep '#' = true) : IsTail (tail.filter keep) := by
  cases tail with
  | nil => exact h
  | cons c cs =>
    have hc := h c rfl
    have hkeep : keep c = true := by rcases hc with rfl | rfl | rfl <;> assumption
    rw [List.filter_cons_of_pos hkeep]
    intro d hd
    obtain rfl := Option.some.inj hd
    exact hc

/-- Blanks and line ends are dropped from the tail only. -/
theorem significantChars_append {front : List Char} (hne : front ≠ [])
    (hfront : ∀ c ∈ front, 0x20 < c.toNat) (tail : List Char) :
    ∃ tail', (IsTail tail → IsTail tail') ∧
      significantChars (String.ofList (front ++ tail)) = front ++ tail' := by
  have hmargin {c : Char} (hc : c ∈ front) : ¬ decide (c.toNat ≤ 0x20) = true := by
    rw [decide_eq_true_eq]
    exact Nat.not_le.mpr (hfront c hc)
  have hstart : (front ++ tail).dropWhile (fun c => c.toNat ≤ 0x20) = front ++ tail := by
    obtain ⟨c, cs, rfl⟩ := List.exists_cons_of_ne_nil hne
    exact List.dropWhile_cons_of_neg (hmargin List.mem_cons_self)
  -- if the tail is all blanks, the front is where dropping stops
  have hend : front.reverse.dropWhile (fun c => c.toNat ≤ 0x20) = front.reverse := by
    cases hreverse : front.reverse with
    | nil => rfl
    | cons c cs =>
      refine List.dropWhile_cons_of_neg (hmargin ?_)
      rw [← List.mem_reverse, hreverse]
      exact List.mem_cons_self
  have hkept : front.filter (fun c => c ≠ '\t' && c ≠ '\n' && c ≠ '\r') = front := by
    refine List.filter_eq_self.mpr fun c hc => ?_
    have hlow := hfront c hc
    simp only [Bool.and_eq_true, decide_eq_true_eq]
    refine ⟨⟨?_, ?_⟩, ?_⟩ <;> rintro rfl <;> exact absurd hlow (by decide)
  refine ⟨((tail.reverse.dropWhile fun c => c.toNat ≤ 0x20).reverse).filter
    (fun c => c ≠ '\t' && c ≠ '\n' && c ≠ '\r'), ?_, ?_⟩
  · intro htail
    refine IsTail.filter (htail.of_prefix ?_) rfl rfl rfl
    rw [← List.reverse_suffix, List.reverse_reverse]
    exact List.dropWhile_suffix _
  · simp only [significantChars, String.toList_ofList]
    rw [hstart, List.reverse_append, List.dropWhile_append, hend]
    have hwhole : (if (tail.reverse.dropWhile fun c => decide (c.toNat ≤ 0x20)).isEmpty = true then
        front.reverse else (tail.reverse.dropWhile fun c => decide (c.toNat ≤ 0x20)) ++ front.reverse) =
        (tail.reverse.dropWhile fun c => decide (c.toNat ≤ 0x20)) ++ front.reverse := by
      split
      next hempty => rw [List.isEmpty_iff.mp hempty, List.nil_append]
      next => rfl
    rw [hwhole, List.reverse_append, List.reverse_reverse, List.filter_append, hkept]

theorem splitScheme?_append {name : List Char} (hne : name ≠ []) (hname : ∀ c ∈ name, c.isAlpha = true)
    (rest : List Char) :
    splitScheme? (name ++ ':' :: rest) = some (String.ofList (name.map Char.toLower), rest) := by
  have hscheme : ∀ c ∈ name, (c.isAlphanum || c = '+' || c = '-' || c = '.') = true := by
    intro c hc
    rw [isAlphanum_of_isAlpha (hname c hc)]
    rfl
  have hdrop : (':' :: rest).dropWhile (fun c => c.isAlphanum || c = '+' || c = '-' || c = '.') =
      ':' :: rest := rfl
  have htake : (':' :: rest).takeWhile (fun c => c.isAlphanum || c = '+' || c = '-' || c = '.') = [] :=
    rfl
  obtain ⟨c, cs, rfl⟩ := List.exists_cons_of_ne_nil hne
  rw [List.cons_append, splitScheme?]
  simp only [hname c List.mem_cons_self, if_true]
  rw [← List.cons_append, List.dropWhile_append_of_pos hscheme, List.takeWhile_append_of_pos hscheme,
    hdrop, htake, List.append_nil]
  rfl

/-- A text whose scheme is none of those with origins has no origin. -/
theorem ofUrl?_of_other_scheme {name : List Char} (hne : name ≠ []) (hname : ∀ c ∈ name, c.isAlpha = true)
    (hblob : String.ofList (name.map Char.toLower) ≠ "blob")
    (hother : Scheme.ofName? (String.ofList (name.map Char.toLower)) = none) (rest : List Char) :
    Origin.ofUrl? (String.ofList (name ++ ':' :: rest)) = none := by
  have hfront : ∀ c ∈ name ++ [':'], 0x20 < c.toNat := by
    intro c hc
    rcases List.mem_append.mp hc with hc | hc
    · exact (IsNameChar.toNat (.inl (isAlphanum_of_isAlpha (hname c hc)))).1
    · obtain rfl := List.mem_singleton.mp hc
      decide
  obtain ⟨rest', -, hsignificant⟩ := significantChars_append
    (List.append_ne_nil_of_left_ne_nil hne [':']) hfront rest
  rw [List.append_assoc, List.append_assoc, List.singleton_append, List.singleton_append] at hsignificant
  rw [Origin.ofUrl?, Origin.ofUrlWithin?, hsignificant, splitScheme?_append hne hname]
  simp only [Option.bind_eq_bind, Option.bind_some, hblob, if_false, hother, Option.bind_none]

theorem splitHost_of_isNameChar {host : List Char} (h : ∀ c ∈ host, IsNameChar c) {rest : List Char}
    (hrest : ∀ c ∈ rest.head?, c = ':') : splitHost false (host ++ rest) = (host, rest) := by
  induction host with
  | nil =>
    cases rest with
    | nil => rfl
    | cons c rest =>
      obtain rfl := hrest c rfl
      rfl
  | cons c host ih =>
    obtain ⟨hc, hhost⟩ := List.forall_mem_cons.mp h
    have hcolon := hc.ne (d := ':') rfl (by decide)
    have hopen := hc.ne (d := '[') rfl (by decide)
    have hclose := hc.ne (d := ']') rfl (by decide)
    rw [List.cons_append, splitHost, if_neg (fun hand => hcolon hand.1)]
    simp only [hopen, hclose, if_false, ih hhost]

theorem percentDecode_of_not_mem {bs : Bytes} (h : (0x25 : UInt8) ∉ bs) : percentDecode bs = bs := by
  induction bs with
  | nil => rfl
  | cons b bs ih =>
    have hb : b ≠ 0x25 := (List.ne_of_not_mem_cons h).symm
    rw [percentDecode.eq_def]
    split
    next heq => exact absurd (List.cons.inj heq).1 hb
    next heq =>
      obtain ⟨rfl, rfl⟩ := List.cons.inj heq
      rw [ih (List.not_mem_of_not_mem_cons h)]
    next heq => cases heq

/-- A part that starts with a letter is no number in any of the bases. -/
theorem ipv4Part?_of_isAlpha {c : Char} (h : c.isAlpha = true) (cs : List Char) :
    ipv4Part? (c :: cs) = none := by
  have hzero : c ≠ '0' := by
    rintro rfl
    exact absurd h (by decide)
  have hnumber : number? 10 (c :: cs) = none := by
    rw [number?, List.mapM_cons, digitValue?_of_isAlpha h]
    rfl
  rw [ipv4Part?.eq_def]
  split
  next heq => cases heq
  next heq => exact absurd (List.cons.inj heq).1 hzero
  next heq => exact absurd (List.cons.inj heq).1 hzero
  next heq => exact absurd (List.cons.inj heq).1 hzero
  next => exact hnumber

theorem endsInNumber_intercalate {labels : List (List Char)} (hpoint : ∀ label ∈ labels, '.' ∉ label)
    {c : Char} {cs : List Char} (hlast : labels.getLast? = some (c :: cs)) (halpha : c.isAlpha = true) :
    endsInNumber (['.'].intercalate labels) = false := by
  have hne : labels ≠ [] := by
    rintro rfl
    cases hlast
  have hparts : addressParts (['.'].intercalate labels) = labels := by
    rw [addressParts, cutAt_intercalate hne hpoint]
    simp only [hlast, Option.some.injEq, List.cons_ne_nil, if_false]
  have hdigit : c.isDigit = false := by
    have hletter := isAlpha_iff.mp halpha
    rw [← Bool.not_eq_true, Char.isDigit_iff_toNat]
    change ¬ (48 ≤ c.toNat ∧ c.toNat ≤ 57)
    omega
  rw [endsInNumber, hparts]
  simp only [hlast, List.all_cons, hdigit, ipv4Part?_of_isAlpha halpha, Bool.false_and, Bool.and_false,
    Option.isSome_none, Bool.or_self]

theorem not_isEncoded {label : List Char} (h : ∀ c ∈ label, c.isAlphanum = true) :
    DomainName.isEncoded label = false := by
  rw [DomainName.isEncoded, ← Bool.not_eq_true, List.isPrefixOf_iff_prefix]
  intro hprefix
  have hhyphen : '-' ∈ label := hprefix.subset (by decide)
  exact absurd (h _ hhyphen) (by decide)

end RelyingParty.WebOrigin
