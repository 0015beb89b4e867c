import Mathlib.Data.List.TakeWhile
import RelyingParty.Proofs.WebOrigin.Reading

namespace RelyingParty.WebOrigin

/-- The URL of a page on a host that has a name. -/
structure WebUrl where
  scheme : Scheme
  schemeChars : List Char
  labels : List (List Char)
  port : Option (List Char)
  tail : List Char
  scheme_spelled : schemeChars.map Char.toLower = scheme.name.toList
  labels_ne_nil : labels ≠ []
  label_ne_nil : ∀ label ∈ labels, label ≠ []
  label_alphanum : ∀ label ∈ labels, ∀ c ∈ label, c.isAlphanum = true
  last_alpha : ∀ label ∈ labels.getLast?, ∀ c ∈ label.head?, c.isAlpha = true
  port_digits : ∀ digits ∈ port, digits ≠ [] ∧ (∀ c ∈ digits, c.isDigit = true) ∧
    Nat.ofDigitChars 10 digits 0 ≤ 65535
  isTail : IsTail tail

namespace WebUrl

def host (u : WebUrl) : List Char := ['.'].intercalate u.labels

def portChars (u : WebUrl) : List Char :=
  match u.port with
  | none => []
  | some digits => ':' :: digits

def portNumber (u : WebUrl) : Nat :=
  match u.port with
  | none => u.scheme.defaultPort
  | some digits => Nat.ofDigitChars 10 digits 0

def front (u : WebUrl) : List Char := u.schemeChars ++ ':' :: '/' :: '/' :: u.host ++ u.portChars

def text (u : WebUrl) : String := String.ofList (u.front ++ u.tail)

def origin (u : WebUrl) : Origin :=
  ⟨u.scheme, .domain (String.ofList (u.host.map Char.toLower)), u.portNumber⟩

variable (u : WebUrl)

theorem scheme_isAlpha {c : Char} (h : c ∈ u.schemeChars) : c.isAlpha = true := by
  have hnames (s : Scheme) : s.name.toList.all (fun d => decide (97 ≤ d.toNat ∧ d.toNat ≤ 122)) = true := by
    cases s <;> decide
  have hmem : c.toLower ∈ u.schemeChars.map Char.toLower := List.mem_map_of_mem h
  rw [u.scheme_spelled] at hmem
  have hlower := of_decide_eq_true (List.all_eq_true.mp (hnames _) _ hmem)
  rw [toNat_toLower] at hlower
  rw [isAlpha_iff]
  split at hlower <;> omega

theorem schemeChars_ne_nil : u.schemeChars ≠ [] := by
  intro h
  have hname : u.scheme.name.toList ≠ [] := by cases u.scheme <;> decide
  exact hname (u.scheme_spelled.symm.trans (by rw [h]; rfl))

theorem host_isNameChar {c : Char} (h : c ∈ u.host) : IsNameChar c := by
  rcases eq_or_mem_of_mem_intercalate h with rfl | ⟨label, hlabel, hc⟩
  · exact .inr rfl
  · exact .inl (u.label_alphanum label hlabel c hc)

def lowerLabels (u : WebUrl) : List (List Char) := u.labels.map (List.map Char.toLower)

theorem lowerLabels_alphanum {label : List Char} (h : label ∈ u.lowerLabels) {c : Char} (hc : c ∈ label) :
    c.isAlphanum = true := by
  obtain ⟨spelled, hspelled, rfl⟩ := List.mem_map.mp h
  obtain ⟨d, hd, rfl⟩ := List.mem_map.mp hc
  exact isAlphanum_toLower (u.label_alphanum spelled hspelled d hd)

theorem host_toLower : u.host.map Char.toLower = ['.'].intercalate u.lowerLabels :=
  map_intercalate Char.toLower '.' u.labels

theorem lowerLabels_point {label : List Char} (h : label ∈ u.lowerLabels) : '.' ∉ label := by
  intro hpoint
  exact absurd (u.lowerLabels_alphanum h hpoint) (by decide)

theorem comparable?_host : DomainName.comparable? (String.ofList u.host) =
    some (String.ofList (u.host.map Char.toLower)) := by
  have hname : ∀ c ∈ u.host.map Char.toLower, IsNameChar c := by
    intro c hc
    obtain ⟨d, hd, rfl⟩ := List.mem_map.mp hc
    exact (u.host_isNameChar hd).toLower
  have hascii : (u.host.map Char.toLower).all DomainName.isAscii = true := by
    refine List.all_eq_true.mpr fun c hc => decide_eq_true ?_
    exact Nat.lt_trans (hname c hc).toNat.2 (by decide)
  have hplain : (cutAt '.' (u.host.map Char.toLower)).any DomainName.isEncoded = false := by
    have hne : u.lowerLabels ≠ [] := fun h => u.labels_ne_nil (List.map_eq_nil_iff.mp h)
    rw [u.host_toLower, cutAt_intercalate hne fun _ => u.lowerLabels_point, List.any_eq_false]
    intro label hlabel
    rw [not_isEncoded fun c => u.lowerLabels_alphanum hlabel]
    exact Bool.false_ne_true
  have hallowed : (u.host.map Char.toLower).any DomainName.isForbidden = false := by
    rw [List.any_eq_false]
    intro c hc
    rw [(hname c hc).not_forbidden]
    exact Bool.false_ne_true
  simp only [DomainName.comparable?, String.toList_ofList, hascii, hplain, Bool.not_false, Bool.and_self,
    if_true, DomainName.ofPlain?, hallowed, Bool.false_eq_true, if_false]

theorem endsInNumber_host : endsInNumber (u.host.map Char.toLower) = false := by
  have hlast := List.getLast?_eq_some_getLast u.labels_ne_nil
  generalize u.labels.getLast u.labels_ne_nil = last at hlast
  have hmem := List.mem_of_getLast? hlast
  obtain ⟨c, cs, rfl⟩ := List.exists_cons_of_ne_nil (u.label_ne_nil last hmem)
  have halpha : c.isAlpha = true := u.last_alpha _ hlast c rfl
  have hlower : u.lowerLabels.getLast? = some (c.toLower :: cs.map Char.toLower) := by
    rw [lowerLabels, List.getLast?_map, hlast]
    rfl
  rw [u.host_toLower]
  exact endsInNumber_intercalate (fun _ => u.lowerLabels_point) hlower (isAlpha_toLower halpha)

theorem host_ne_nil : u.host ≠ [] := by
  obtain ⟨label, labels, hlabels⟩ := List.exists_cons_of_ne_nil u.labels_ne_nil
  have hlabel := u.label_ne_nil label (hlabels ▸ List.mem_cons_self)
  rw [host, hlabels]
  cases labels with
  | nil => rwa [List.intercalate_singleton]
  | cons next labels =>
    rw [List.intercalate_cons_cons, List.append_assoc]
    exact List.append_ne_nil_of_left_ne_nil hlabel _

theorem ofChars?_host :
    Host.ofChars? u.host = some (.domain (String.ofList (u.host.map Char.toLower))) := by
  have hdecoded : percentDecode (Bytes.ofText (String.ofList u.host)) = Bytes.ofText (String.ofList u.host) := by
    refine percentDecode_of_not_mem ?_
    rw [Bytes.ofText_ofList, Bytes.ofChars, List.mem_flatMap]
    rintro ⟨c, hc, hpercent⟩
    have hname := u.host_isNameChar hc
    have hascii : c.toNat < 128 := Nat.lt_trans hname.toNat.2 (by decide)
    rw [Bytes.utf8EncodeChar_of_lt hascii, List.mem_singleton] at hpercent
    refine hname.ne (d := '%') rfl (by decide) ?_
    rw [← Char.toNat_inj, ← UInt8.toNat_ofNat_of_lt' (Nat.lt_trans hascii (by decide)), ← hpercent]
    rfl
  have hne : (String.ofList (u.host.map Char.toLower)).isEmpty = false := by
    rw [← Bool.not_eq_true, String.isEmpty_iff, ← String.toList_inj, String.toList_ofList]
    exact fun h => u.host_ne_nil (List.map_eq_nil_iff.mp h)
  rw [Host.ofChars?.eq_def]
  split
  next heq =>
    have hbracket := u.host_isNameChar (c := '[') (heq ▸ List.mem_cons_self)
    exact absurd rfl (hbracket.ne (d := '[') rfl (by decide))
  next =>
    simp only [hdecoded, Bytes.toText?_ofText, Option.bind_eq_bind, Option.bind_some, u.comparable?_host, hne,
      String.toList_ofList, u.endsInNumber_host, Bool.false_eq_true, if_false]

theorem port?_portChars : port? u.scheme u.portChars = some u.portNumber := by
  unfold portChars portNumber
  cases hport : u.port with
  | none => rfl
  | some digits =>
    obtain ⟨hne, hdigits, hle⟩ := u.port_digits digits hport
    obtain ⟨d, ds, rfl⟩ := List.exists_cons_of_ne_nil hne
    simp only [port?, number?_of_isDigit hdigits]
    exact Option.filter_eq_some_iff.mpr ⟨rfl, decide_eq_true hle⟩

theorem portChars_isName {c : Char} (h : c ∈ u.portChars) : c = ':' ∨ c.isAlphanum = true := by
  unfold portChars at h
  split at h
  next => cases h
  next digits hport =>
    obtain ⟨-, hdigits, -⟩ := u.port_digits digits hport
    rcases List.mem_cons.mp h with rfl | hmem
    · exact .inl rfl
    · refine .inr ?_
      rw [Char.isAlphanum, hdigits c hmem, Bool.or_true]

/-- No character of the host and the port ends them or has a meaning of its own. -/
theorem authority_ne {c d : Char} (h : c ∈ u.host ++ u.portChars) (hd : d.isAlphanum = false)
    (hpoint : d ≠ '.') (hcolon : d ≠ ':') : c ≠ d := by
  rcases List.mem_append.mp h with hhost | hport
  · exact (u.host_isNameChar hhost).ne hd hpoint
  · rcases u.portChars_isName hport with rfl | hname
    · exact hcolon.symm
    · exact ne_of_isAlphanum hname hd

theorem afterUser_authority : afterUser (u.host ++ u.portChars) = u.host ++ u.portChars := by
  rw [afterUser, List.takeWhile_eq_self_iff.mpr, List.reverse_reverse]
  intro c hc
  exact decide_eq_true (u.authority_ne (List.mem_reverse.mp hc) rfl (by decide) (by decide))

theorem splitHost_authority : splitHost false (u.host ++ u.portChars) = (u.host, u.portChars) := by
  refine splitHost_of_isNameChar (fun _ => u.host_isNameChar) ?_
  intro c hc
  unfold portChars at hc
  split at hc
  next => cases hc
  next => exact (Option.some.inj hc).symm

theorem ofRest?_authority {tail : List Char} (htail : IsTail tail) :
    Origin.ofRest? u.scheme ('/' :: '/' :: u.host ++ u.portChars ++ tail) = some u.origin := by
  have hslashes : ('/' :: '/' :: u.host ++ u.portChars ++ tail).dropWhile (fun c => c = '/' || c = '\\') =
      u.host ++ u.portChars ++ tail := by
    obtain ⟨c, cs, hhost⟩ := List.exists_cons_of_ne_nil u.host_ne_nil
    have hc := u.host_isNameChar (hhost ▸ List.mem_cons_self : c ∈ u.host)
    have hslash := hc.ne (d := '/') rfl (by decide)
    have hback := hc.ne (d := '\\') rfl (by decide)
    rw [hhost]
    calc ('/' :: '/' :: (c :: cs) ++ u.portChars ++ tail).dropWhile (fun c => c = '/' || c = '\\')
        = ((c :: cs) ++ u.portChars ++ tail).dropWhile (fun c => c = '/' || c = '\\') := rfl
      _ = (c :: cs) ++ u.portChars ++ tail := List.dropWhile_cons_of_neg (by simp [hslash, hback])
  have hauthority : (u.host ++ u.portChars ++ tail).takeWhile
      (fun c => c ≠ '/' && c ≠ '\\' && c ≠ '?' && c ≠ '#') = u.host ++ u.portChars := by
    rw [List.takeWhile_append_of_pos]
    · cases tail with
      | nil => simp only [List.takeWhile_nil, List.append_nil]
      | cons c cs =>
        rw [List.takeWhile_cons_of_neg, List.append_nil]
        rcases htail c rfl with rfl | rfl | rfl <;> decide
    · intro c hc
      simp only [Bool.and_eq_true, decide_eq_true_eq]
      exact ⟨⟨⟨u.authority_ne hc rfl (by decide) (by decide), u.authority_ne hc rfl (by decide) (by decide)⟩,
        u.authority_ne hc rfl (by decide) (by decide)⟩, u.authority_ne hc rfl (by decide) (by decide)⟩
  have hne : u.host.isEmpty = false := List.isEmpty_eq_false_iff.mpr u.host_ne_nil
  rw [Origin.ofRest?, hslashes]
  simp only [hauthority, u.afterUser_authority, u.splitHost_authority, hne, Bool.false_eq_true, if_false,
    u.ofChars?_host, u.port?_portChars, Option.bind_eq_bind, Option.bind_some]
  rfl

theorem ofName?_name (s : Scheme) : Scheme.ofName? s.name = some s := by
  cases s <;> rfl

/-- What follows the port is without effect on the origin, and so is the case of letters. -/
theorem ofUrl?_text : Origin.ofUrl? u.text = some u.origin := by
  have hfront : ∀ c ∈ u.front, 0x20 < c.toNat := by
    intro c hc
    have hname (h : c.isAlphanum = true) : 0x20 < c.toNat := (IsNameChar.toNat (.inl h)).1
    simp only [front, List.append_assoc, List.mem_append, List.mem_cons, List.cons_append] at hc
    rcases hc with hscheme | rfl | rfl | rfl | hhost | hport
    · exact hname (isAlphanum_of_isAlpha (u.scheme_isAlpha hscheme))
    · decide
    · decide
    · decide
    · exact (u.host_isNameChar hhost).toNat.1
    · rcases u.portChars_isName hport with rfl | h
      · decide
      · exact hname h
  have hne : u.front ≠ [] := by
    rw [front, List.append_assoc]
    exact List.append_ne_nil_of_left_ne_nil u.schemeChars_ne_nil _
  -- blanks may have been dropped from the tail, which still starts as one
  obtain ⟨tail, htail, hsignificant⟩ := significantChars_append hne hfront u.tail
  have hparts : u.front ++ tail =
      u.schemeChars ++ ':' :: ('/' :: '/' :: u.host ++ u.portChars ++ tail) := by
    simp only [front, List.append_assoc, List.cons_append]
  have hblob : String.ofList (u.schemeChars.map Char.toLower) ≠ "blob" := by
    rw [u.scheme_spelled, String.ofList_toList]
    cases u.scheme <;> decide
  rw [Origin.ofUrl?, Origin.ofUrlWithin?, text, hsignificant, hparts,
    splitScheme?_append u.schemeChars_ne_nil fun _ => u.scheme_isAlpha]
  simp only [Option.bind_eq_bind, Option.bind_some, hblob, if_false]
  rw [u.scheme_spelled, String.ofList_toList, ofName?_name, Option.bind_some]
  exact u.ofRest?_authority (htail u.isTail)

theorem lowerLabels_last {label : List Char} (h : label ∈ u.lowerLabels.getLast?) {c : Char}
    (hc : c ∈ label.head?) : c.isAlpha = true := by
  rw [lowerLabels, List.getLast?_map] at h
  obtain ⟨spelled, hspelled, rfl⟩ := Option.map_eq_some_iff.mp h
  rw [List.head?_map] at hc
  obtain ⟨d, hd, rfl⟩ := Option.map_eq_some_iff.mp hc
  exact isAlpha_toLower (u.last_alpha spelled hspelled d hd)

theorem portNumber_le : u.portNumber ≤ 65535 := by
  unfold portNumber
  split
  next => cases u.scheme <;> decide
  next digits hport => exact (u.port_digits digits hport).2.2

/-- The page itself: its URL with small letters, without a tail and without a port that its scheme has
anyway. -/
def root (u : WebUrl) : WebUrl where
  scheme := u.scheme
  schemeChars := u.scheme.name.toList
  labels := u.lowerLabels
  port := if u.portNumber = u.scheme.defaultPort then none else some (Nat.toDigits 10 u.portNumber)
  tail := []
  scheme_spelled := by cases u.scheme <;> decide
  labels_ne_nil h := u.labels_ne_nil (List.map_eq_nil_iff.mp h)
  label_ne_nil := by
    intro label hlabel h
    obtain ⟨spelled, hspelled, rfl⟩ := List.mem_map.mp hlabel
    exact u.label_ne_nil spelled hspelled (List.map_eq_nil_iff.mp h)
  label_alphanum _ hlabel _ := u.lowerLabels_alphanum hlabel
  last_alpha _ hlabel _ := u.lowerLabels_last hlabel
  port_digits := by
    intro digits hdigits
    split at hdigits
    next => cases hdigits
    next =>
      obtain rfl := Option.some.inj hdigits
      refine ⟨Nat.toDigits_ne_nil, fun c => Nat.isDigit_of_mem_toDigits (by decide) (by decide), ?_⟩
      rw [Nat.ofDigitChars_toDigits (by decide) (by decide)]
      exact u.portNumber_le
  isTail := nofun

theorem host_root : u.root.host = u.host.map Char.toLower := u.host_toLower.symm

theorem host_root_toLower : u.root.host.map Char.toLower = u.root.host := by
  rw [host_root, List.map_map]
  exact List.map_congr_left fun c _ => toLower_toLower c

theorem port_root : u.root.port =
    if u.portNumber = u.scheme.defaultPort then none else some (Nat.toDigits 10 u.portNumber) := rfl

theorem portNumber_root : u.root.portNumber = u.portNumber := by
  rw [portNumber, port_root]
  by_cases h : u.portNumber = u.scheme.defaultPort
  · rw [if_pos h]
    exact h.symm
  · rw [if_neg h]
    exact Nat.ofDigitChars_toDigits (by decide) (by decide)

theorem origin_root : u.root.origin = u.origin := by
  rw [origin, host_root_toLower, host_root, portNumber_root]
  rfl

theorem portChars_root : u.root.portChars =
    if u.portNumber = u.scheme.defaultPort then [] else ':' :: (toString u.portNumber).toList := by
  rw [portChars, port_root, Nat.toString_eq_ofList_toDigits, String.toList_ofList]
  by_cases h : u.portNumber = u.scheme.defaultPort
  · rw [if_pos h, if_pos h]
  · rw [if_neg h, if_neg h]

theorem text_root : u.root.text = u.origin.toText := by
  have hscheme : u.root.schemeChars = u.scheme.name.toList := rfl
  have htail : u.root.tail = [] := rfl
  rw [text, front, hscheme, htail, host_root, portChars_root, List.append_nil]
  simp only [Origin.toText, origin, Host.toChars, String.toList_ofList, List.append_assoc]
  rfl

theorem normalize_text : normalize u.text = u.root.text := by
  rw [normalize, u.ofUrl?_text, u.text_root]

theorem normalize_normalize : normalize (normalize u.text) = normalize u.text := by
  rw [u.normalize_text, u.root.normalize_text, text_root, text_root, origin_root]

theorem toLower_portChars : u.portChars.map Char.toLower = u.portChars := by
  unfold portChars
  cases hport : u.port with
  | none => rfl
  | some digits =>
    have hdigits : digits.map Char.toLower = digits := by
      refine (List.map_congr_left fun c hc => ?_).trans (List.map_id digits)
      obtain ⟨-, hhigh⟩ := Char.isDigit_iff_toNat.mp ((u.port_digits digits hport).2.1 c hc)
      change c.toNat ≤ 57 at hhigh
      rw [id_eq, ← Char.toNat_inj, toNat_toLower, if_neg (by omega)]
    exact congrArg (':' :: ·) hdigits

/-- The text of an origin has no capital letters. -/
theorem toLower_root : u.root.text.toList.map Char.toLower = u.root.text.toList := by
  have hscheme : u.root.schemeChars.map Char.toLower = u.root.schemeChars := u.root.scheme_spelled
  have htail : u.root.tail = [] := rfl
  rw [text, String.toList_ofList, htail, List.append_nil, front, List.map_append, List.map_append,
    toLower_portChars, hscheme]
  simp only [List.map_cons, host_root_toLower]
  rfl

/-- The pages have the same scheme and host, whatever the case of their letters, and the same port. -/
structure SameSite (u v : WebUrl) : Prop where
  scheme : u.schemeChars.map Char.toLower = v.schemeChars.map Char.toLower
  host : u.host.map Char.toLower = v.host.map Char.toLower
  port : u.portNumber = v.portNumber

theorem name_injective : Function.Injective Scheme.name := by
  intro s t h
  have hname := congrArg Scheme.ofName? h
  rw [ofName?_name, ofName?_name] at hname
  exact Option.some.inj hname

theorem origin_eq_iff {u v : WebUrl} : u.origin = v.origin ↔ u.SameSite v := by
  constructor
  · intro h
    obtain ⟨hscheme, hhost, hport⟩ := Origin.mk.inj h
    refine ⟨?_, String.ofList_injective (Host.domain.inj hhost), hport⟩
    rw [u.scheme_spelled, v.scheme_spelled, hscheme]
  · rintro ⟨hscheme, hhost, hport⟩
    rw [u.scheme_spelled, v.scheme_spelled] at hscheme
    rw [origin, origin, name_injective (String.toList_inj.mp hscheme), hhost, hport]

/-- The texts of origins tell them apart, as each is read back from its text. -/
theorem sameOrigin_text {u v : WebUrl} : sameOrigin u.text v.text = true ↔ u.SameSite v := by
  rw [sameOrigin, equalIgnoringCase, beq_iff_eq, u.normalize_text, v.normalize_text, u.toLower_root,
    v.toLower_root, String.toList_inj, ← origin_eq_iff]
  constructor
  · intro h
    have horigin := congrArg Origin.ofUrl? h
    rw [u.root.ofUrl?_text, v.root.ofUrl?_text, u.origin_root, v.origin_root] at horigin
    exact Option.some.inj horigin
  · intro h
    rw [u.text_root, v.text_root, h]

end WebUrl

end RelyingParty.WebOrigin
