import RelyingParty.CommandLine.Run
import RelyingParty.Proofs.Base64.Digits
import RelyingParty.Proofs.Checks
import RelyingParty.Proofs.Text

namespace RelyingParty

namespace Base64

variable {s : String} {bs bs' : Bytes}

/-- The texts that both readers accept have the same digits, and no digit in which the alphabets differ. -/
theorem decodeStandard?_agrees (h : decodeStandard? s = some bs) (h' : decodeUrl? s = some bs') : bs = bs' := by
  rw [decodeStandard?] at h
  split at h
  next => exact decodeChars_agree h h'
  next => cases h

theorem isBlank_char : ∀ n < 64, CommandLine.isBlank (urlSafe.char n) = false ∧
    CommandLine.isBlank (standard.char n) = false := by
  decide

theorem isBlank_encodeChars {a : Alphabet} (ha : ∀ n < 64, CommandLine.isBlank (a.char n) = false) (bs : Bytes)
    (pads : Nat) : ∀ c ∈ a.encodeChars bs ++ List.replicate pads padChar, CommandLine.isBlank c = false := by
  rw [List.forall_mem_append, encodeChars_eq_map, List.forall_mem_map]
  refine ⟨fun n hn => ha n (sextets_lt bs n hn), fun c hc => ?_⟩
  rw [List.eq_of_mem_replicate hc]
  decide

end Base64

namespace CommandLine

open Base64 (Alphabet standard urlSafe trimPadding decodeStandard? decodeUrl?)

variable {before core after : List Char} {bs content : Bytes} {text path : String} {files : Files}

theorem dropWhile_isBlank {cs : List Char} (hcs : ∀ c ∈ cs, isBlank c = false) (hne : cs ≠ []) (more : List Char) :
    (cs ++ more).dropWhile isBlank = cs ++ more := by
  obtain ⟨c, cs, rfl⟩ := List.exists_cons_of_ne_nil hne
  exact List.dropWhile_cons_of_neg (by rw [hcs c List.mem_cons_self]; exact Bool.false_ne_true)

theorem trimBlanks_append (hbefore : ∀ c ∈ before, isBlank c = true) (hcore : ∀ c ∈ core, isBlank c = false)
    (hafter : ∀ c ∈ after, isBlank c = true) : trimBlanks (before ++ (core ++ after)) = core := by
  have hreverse : ∀ c ∈ after.reverse, isBlank c = true := fun c hc => hafter c (List.mem_reverse.mp hc)
  rw [trimBlanks, List.dropWhile_append_of_pos hbefore]
  by_cases hne : core = []
  · rw [hne, List.nil_append, List.dropWhile_eq_nil_iff.mpr hafter]
    rfl
  · have hcore' : ∀ c ∈ core.reverse, isBlank c = false := fun c hc => hcore c (List.mem_reverse.mp hc)
    have hkeep := dropWhile_isBlank hcore' (List.reverse_eq_nil_iff.not.mpr hne) []
    rw [List.append_nil] at hkeep
    rw [dropWhile_isBlank hcore hne, List.reverse_append, List.dropWhile_append_of_pos hreverse, hkeep,
      List.reverse_reverse]

/-- The first reader comes first, but where both read a text it does not matter which one does. -/
theorem base64Text?_eq_some : base64Text? text = some bs ↔
    trimBlanks text.toList = standard.encodePaddedChars bs ∨
      trimPadding (trimBlanks text.toList) = urlSafe.encodeChars bs := by
  let trimmed := String.ofList (trimBlanks text.toList)
  have hstandard : decodeStandard? trimmed = some bs ↔ trimBlanks text.toList = standard.encodePaddedChars bs := by
    rw [Base64.decodeStandard?_eq_some, String.toList_ofList]
  have hurl : decodeUrl? trimmed = some bs ↔ trimPadding (trimBlanks text.toList) = urlSafe.encodeChars bs := by
    rw [Base64.decodeUrl?_eq_some, String.toList_ofList]
  rw [← hstandard, ← hurl, base64Text?, Option.or_eq_some_iff]
  constructor
  · rintro (h | ⟨_, h⟩)
    · exact .inl h
    · exact .inr h
  · rintro (h | h)
    · exact .inl h
    · cases hfirst : decodeStandard? trimmed with
      | none => exact .inr ⟨rfl, h⟩
      | some other => exact .inl (congrArg some (Base64.decodeStandard?_agrees hfirst h))

theorem readBase64_eq (hfile : files path = .ok content) (htext : Bytes.toText? content = some text) :
    files.readBase64 path = (base64Text? text).elim (.error (.fileNotBase64 path)) .ok := by
  have hread : files.read path = .ok content := mapError_eq_ok.mpr hfile
  rw [Files.readBase64, hread, ok_bind]
  simp only [htext]
  cases base64Text? text with
  | none => rfl
  | some => rfl

/-- The texts of bytes that are written to files: in the standard alphabet with padding, and in the other one
with padding or without. -/
def base64Forms (bs : Bytes) : List (List Char) :=
  [standard.encodePaddedChars bs, urlSafe.encodePaddedChars bs, urlSafe.encodeChars bs]

theorem base64Text?_of_form (hbefore : ∀ c ∈ before, isBlank c = true) (hafter : ∀ c ∈ after, isBlank c = true)
    (hcore : core ∈ base64Forms bs) : base64Text? (String.ofList (before ++ (core ++ after))) = some bs := by
  have hstandard (pads : Nat) := Base64.isBlank_encodeChars (fun n hn => (Base64.isBlank_char n hn).2) bs pads
  have hurl (pads : Nat) := Base64.isBlank_encodeChars (fun n hn => (Base64.isBlank_char n hn).1) bs pads
  rw [base64Text?_eq_some, String.toList_ofList]
  simp only [base64Forms, List.mem_cons, List.not_mem_nil, or_false] at hcore
  obtain rfl | rfl | rfl := hcore
  · exact .inl (trimBlanks_append hbefore (hstandard _) hafter)
  · right
    rw [Alphabet.encodePaddedChars, Alphabet.padding, trimBlanks_append hbefore (hurl _) hafter]
    exact Base64.trimPadding_encodeChars Base64.urlSafe_lawful bs _
  · right
    have hplain := hurl 0
    rw [List.replicate_zero, List.append_nil] at hplain
    rw [trimBlanks_append hbefore hplain hafter]
    exact Base64.trimPadding_of_not_mem (Alphabet.padChar_not_mem_encodeChars Base64.urlSafe_lawful bs)

/-- A file stands for the bytes of which its text, without the blanks around it, is the padded form in the
standard alphabet or, but for padding, the form in the other one. No text stands for two byte strings, and each
of the usual forms is read back from among any blanks. -/
theorem files_have_one_meaning (hfile : files path = .ok content) (htext : Bytes.toText? content = some text) :
    (∀ bs, files.readBase64 path = .ok bs ↔ trimBlanks text.toList = standard.encodePaddedChars bs ∨
      trimPadding (trimBlanks text.toList) = urlSafe.encodeChars bs) ∧
    ((∀ bs, files.readBase64 path ≠ .ok bs) → files.readBase64 path = .error (.fileNotBase64 path)) ∧
    (∀ s bs bs', decodeStandard? s = some bs → decodeUrl? s = some bs' → bs = bs') ∧
    (∀ bs before core after, (∀ c ∈ before, isBlank c = true) → core ∈ base64Forms bs →
      (∀ c ∈ after, isBlank c = true) → text = String.ofList (before ++ (core ++ after)) →
      files.readBase64 path = .ok bs) := by
  have hread := readBase64_eq hfile htext
  refine ⟨fun bs => ?_, fun hrefused => ?_, fun _ _ _ => Base64.decodeStandard?_agrees, ?_⟩
  · rw [hread, ← base64Text?_eq_some]
    cases base64Text? text with
    | none => simp
    | some => simp
  · cases hdecoded : base64Text? text with
    | none => rw [hread, hdecoded, Option.elim_none]
    | some bs => exact absurd (by rw [hread, hdecoded, Option.elim_some]) (hrefused bs)
  · rintro bs before core after hbefore hcore hafter rfl
    rw [hread, base64Text?_of_form hbefore hafter hcore, Option.elim_some]

def sampleFile (text : String) : Files := fun _ => .ok (Bytes.ofText text)

theorem files_have_one_meaning_sample :
    (sampleFile "\n +/A=\r\n").readBase64 "file" = .ok [0xfb, 0xf0] ∧
    (sampleFile "-_A").readBase64 "file" = .ok [0xfb, 0xf0] ∧
    (sampleFile "+_A=").readBase64 "file" = .error (.fileNotBase64 "file") := by
  have hmeaning (text : String) := files_have_one_meaning
    (rfl : sampleFile text "file" = .ok (Bytes.ofText text)) (Bytes.toText?_ofText text)
  obtain ⟨-, -, -, hforms⟩ := hmeaning "\n +/A=\r\n"
  obtain ⟨hurl, -, -, -⟩ := hmeaning "-_A"
  obtain ⟨hmixed, hrefused, -, -⟩ := hmeaning "+_A="
  refine ⟨?_, (hurl _).mpr (.inr rfl), hrefused fun bs h => ?_⟩
  · exact hforms [0xfb, 0xf0] ['\n', ' '] ['+', '/', 'A', '='] ['\r', '\n'] (List.all_eq_true.mp rfl) (.head _)
      (List.all_eq_true.mp rfl) rfl
  · -- neither alphabet has both characters
    obtain h | h := (hmixed bs).mp h
    · exact absurd (Base64.decodeStandard?_eq_some.mpr h : decodeStandard? "+_A=" = some bs) nofun
    · exact absurd (Base64.decodeUrl?_eq_some.mpr h : decodeUrl? "+_A=" = some bs) nofun

end CommandLine

end RelyingParty
