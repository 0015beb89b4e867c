import RelyingParty.Proofs.ClientData.Verification
import RelyingParty.Proofs.WebOrigin.WebUrl

namespace RelyingParty

namespace WebOrigin

def SameLetter (c d : Char) : Prop :=
  c = d ∨ c.isUpper = true ∧ d.toNat = c.toNat + 32 ∨ d.isUpper = true ∧ c.toNat = d.toNat + 32

theorem toLower_eq_iff {c d : Char} : c.toLower = d.toLower ↔ SameLetter c d := by
  rw [SameLetter, ← Char.toNat_inj, toNat_toLower, toNat_toLower, ← Char.toNat_inj, isUpper_iff, isUpper_iff]
  split <;> split <;> omega

/-- The texts differ in nothing but the case of ASCII letters. -/
def SameUpToCase (s t : String) : Prop := List.Forall₂ SameLetter s.toList t.toList

theorem equalIgnoringCase_iff {s t : String} : equalIgnoringCase s t = true ↔ SameUpToCase s t := by
  rw [equalIgnoringCase, beq_iff_eq, SameUpToCase, ← List.forall₂_eq_eq_eq, List.forall₂_map_left_iff,
    List.forall₂_map_right_iff]
  simp only [toLower_eq_iff]

theorem toLower_of_isUpper_eq_false {cs : List Char} (h : ∀ c ∈ cs, c.isUpper = false) :
    cs.map Char.toLower = cs := by
  refine (List.map_congr_left fun c hc => ?_).trans (List.map_id cs)
  have hcapital : ¬ c.isUpper = true := by rw [h c hc]; exact Bool.false_ne_true
  rw [id_eq, ← Char.toNat_inj, toNat_toLower, if_neg (isUpper_iff.not.mp hcapital)]

theorem sameUpToCase_iff_eq {s t : String} (hs : ∀ c ∈ s.toList, c.isUpper = false)
    (ht : ∀ c ∈ t.toList, c.isUpper = false) : SameUpToCase s t ↔ s = t := by
  rw [← equalIgnoringCase_iff, equalIgnoringCase, beq_iff_eq, toLower_of_isUpper_eq_false hs,
    toLower_of_isUpper_eq_false ht, String.toList_inj]

/-- The name of an app is a URL without an origin. -/
theorem ofUrl?_app {scheme : String} (h : scheme = "ios" ∨ scheme = "android") (name : String) :
    Origin.ofUrl? (scheme ++ ":" ++ name) = none := by
  have hparts : scheme ++ ":" ++ name = String.ofList (scheme.toList ++ ':' :: name.toList) := by
    rw [← String.toList_inj, String.toList_ofList, String.toList_append, String.toList_append,
      List.append_assoc]
    rfl
  rw [hparts]
  rcases h with rfl | rfl
  all_goals exact ofUrl?_of_other_scheme (by decide) (List.all_eq_true.mp (by decide)) (by decide) (by decide) _

/-- Texts that are not URLs with an origin are compared as they are. -/
theorem sameOrigin_of_none {s t : String} (hs : Origin.ofUrl? s = none) (ht : Origin.ofUrl? t = none) :
    sameOrigin s t = true ↔ SameUpToCase s t := by
  rw [sameOrigin, normalize, normalize, hs, ht, equalIgnoringCase_iff]

end WebOrigin

namespace ClientData

open WebOrigin

variable {kind : CeremonyKind} {challenge : Bytes} {binding : Option TokenBinding} {crossOrigin : Bool}
  {origin expected : String}

theorem check_answer_eq_ok :
    check ⟨kind.clientDataType, challenge, origin, binding, crossOrigin⟩ challenge kind expected = .ok () ↔
      sameOrigin origin expected = true ∧ ∀ b ∈ binding, b.Admissible := by
  rw [check_eq_ok]
  constructor
  · intro h
    exact ⟨h.origin, h.tokenBinding⟩
  · rintro ⟨horigin, hbinding⟩
    exact ⟨rfl, rfl, horigin, hbinding⟩

theorem check_answer_eq_originMismatch :
    check ⟨kind.clientDataType, challenge, origin, binding, crossOrigin⟩ challenge kind expected =
      .error (.originMismatch expected origin) ↔ ¬ sameOrigin origin expected = true := by
  have hcheck : check ⟨kind.clientDataType, challenge, origin, binding, crossOrigin⟩ challenge kind expected =
      if !sameOrigin origin expected then .error (.originMismatch expected origin)
      else if binding.any fun b => !b.isValid then .error .tokenBindingInvalid else .ok () := by
    rw [check, if_neg (not_not.mpr rfl), if_neg (not_not.mpr rfl)]
  rw [hcheck]
  cases hsame : sameOrigin origin expected with
  | false => simp
  | true =>
    simp only [Bool.not_true, Bool.false_eq_true, if_false, not_true_eq_false, iff_false]
    split <;> simp

/-- Of client data that answers the challenge of a ceremony from one page of a web site and is checked
against another page, in either role, the origin is accepted exactly if scheme, host and port are the
same, where case does not count in the first two and a port that is left out is that of the scheme. The
text to which the URL of a page is reduced is reduced no further. -/
theorem web_origin_accepted_iff_sameSite (u v : WebUrl) :
    (∀ (kind : CeremonyKind) (challenge : Bytes) (binding : Option TokenBinding) (crossOrigin : Bool),
      (check ⟨kind.clientDataType, challenge, u.text, binding, crossOrigin⟩ challenge kind v.text = .ok () ↔
        u.SameSite v ∧ ∀ b ∈ binding, b.Admissible) ∧
      (check ⟨kind.clientDataType, challenge, u.text, binding, crossOrigin⟩ challenge kind v.text =
        .error (.originMismatch v.text u.text) ↔ ¬ u.SameSite v)) ∧
    normalize (normalize u.text) = normalize u.text := by
  refine ⟨fun kind challenge binding crossOrigin => ⟨?_, ?_⟩, u.normalize_normalize⟩
  · rw [check_answer_eq_ok, WebUrl.sameOrigin_text]
  · rw [check_answer_eq_originMismatch, WebUrl.sameOrigin_text]

def samplePage : WebUrl where
  scheme := .https
  schemeChars := "HTTPS".toList
  labels := ["Example".toList, "com".toList]
  port := some "0443".toList
  tail := "/login?next#top".toList
  scheme_spelled := by decide
  labels_ne_nil := by decide
  label_ne_nil := by decide
  label_alphanum := by
    have hall : ["Example".toList, "com".toList].all (·.all Char.isAlphanum) = true := by decide
    exact fun label hlabel => List.all_eq_true.mp (List.all_eq_true.mp hall label hlabel)
  last_alpha := by
    rintro _ ⟨⟩ _ ⟨⟩
    rfl
  port_digits := by
    rintro _ ⟨⟩
    exact ⟨by decide, List.all_eq_true.mp (by decide), by decide⟩
  isTail := by
    rintro _ ⟨⟩
    exact .inl rfl

def sampleOtherPort : WebUrl where
  __ := samplePage
  port := some "8443".toList
  port_digits := by
    rintro _ ⟨⟩
    exact ⟨by decide, List.all_eq_true.mp (by decide), by decide⟩

theorem web_origin_accepted_iff_sameSite_sample :
    samplePage.text = "HTTPS://Example.com:0443/login?next#top" ∧ samplePage.root.text = "https://example.com" ∧
      check ⟨"webauthn.get", [1], samplePage.text, none, false⟩ [1] .get samplePage.root.text = .ok () ∧
      check ⟨"webauthn.get", [1], samplePage.text, none, false⟩ [1] .get sampleOtherPort.text =
        .error (.originMismatch sampleOtherPort.text samplePage.text) := by
  have hsame : samplePage.SameSite samplePage.root := ⟨by decide, by decide, by decide⟩
  have hother : ¬ samplePage.SameSite sampleOtherPort := fun h => absurd h.port (by decide)
  obtain ⟨haccepted, _⟩ := web_origin_accepted_iff_sameSite samplePage samplePage.root
  obtain ⟨hrefused, _⟩ := web_origin_accepted_iff_sameSite samplePage sampleOtherPort
  refine ⟨by decide, by decide, (haccepted .get [1] none false).1.mpr ⟨hsame, nofun⟩, ?_⟩
  exact (hrefused .get [1] none false).2.mpr hother

/-- Of client data that answers the challenge of a ceremony, an origin that is not the URL of a site, as
that of an app is not, is accepted by another such origin exactly if the two differ in nothing but the
case of ASCII letters; without capital letters, only if they are the same. -/
theorem app_origin_accepted_iff_sameUpToCase {s t : String} (hs : Origin.ofUrl? s = none)
    (ht : Origin.ofUrl? t = none) :
    (∀ (kind : CeremonyKind) (challenge : Bytes) (binding : Option TokenBinding) (crossOrigin : Bool),
      (check ⟨kind.clientDataType, challenge, s, binding, crossOrigin⟩ challenge kind t = .ok () ↔
        SameUpToCase s t ∧ ∀ b ∈ binding, b.Admissible) ∧
      (check ⟨kind.clientDataType, challenge, s, binding, crossOrigin⟩ challenge kind t =
        .error (.originMismatch t s) ↔ ¬ SameUpToCase s t)) ∧
    ((∀ c ∈ s.toList ++ t.toList, c.isUpper = false) → (SameUpToCase s t ↔ s = t)) := by
  refine ⟨fun kind challenge binding crossOrigin => ⟨?_, ?_⟩, fun hsmall => ?_⟩
  · rw [check_answer_eq_ok, sameOrigin_of_none hs ht]
  · rw [check_answer_eq_originMismatch, sameOrigin_of_none hs ht]
  · exact sameUpToCase_iff_eq (fun c hc => hsmall c (List.mem_append_left _ hc))
      fun c hc => hsmall c (List.mem_append_right _ hc)

theorem app_origin_accepted_iff_sameUpToCase_sample :
    Origin.ofUrl? "ios:bundle-id:com.example.app" = none ∧
      Origin.ofUrl? "ios:bundle-id:com.example.other" = none ∧
      (∀ c ∈ "ios:bundle-id:com.example.app".toList ++ "ios:bundle-id:com.example.other".toList,
        c.isUpper = false) ∧
      check ⟨"webauthn.get", [1], "ios:bundle-id:com.example.app", none, false⟩ [1] .get
        "ios:bundle-id:com.example.other" =
        .error (.originMismatch "ios:bundle-id:com.example.other" "ios:bundle-id:com.example.app") := by
  have happ : Origin.ofUrl? "ios:bundle-id:com.example.app" = none := by
    simpa only [String.reduceAppend] using ofUrl?_app (.inl rfl) "bundle-id:com.example.app"
  have hother : Origin.ofUrl? "ios:bundle-id:com.example.other" = none := by
    simpa only [String.reduceAppend] using ofUrl?_app (.inl rfl) "bundle-id:com.example.other"
  have hsmall : ∀ c ∈ "ios:bundle-id:com.example.app".toList ++ "ios:bundle-id:com.example.other".toList,
      c.isUpper = false := by
    simp only [← Bool.not_eq_true', ← List.all_eq_true]
    decide
  obtain ⟨hcheck, hsame⟩ := app_origin_accepted_iff_sameUpToCase happ hother
  refine ⟨happ, hother, hsmall, (hcheck .get [1] none false).2.mpr ?_⟩
  rw [hsame hsmall]
  decide

/-- Two key hashes that differ, if only in the case of letters, belong to two apps. -/
theorem apps_of_other_case_taken_for_each_other :
    Origin.ofUrl? "android:apk-key-hash:AbC" = none ∧ Origin.ofUrl? "android:apk-key-hash:aBc" = none ∧
      "android:apk-key-hash:AbC" ≠ "android:apk-key-hash:aBc" ∧
      check ⟨"webauthn.get", [1], "android:apk-key-hash:AbC", none, false⟩ [1] .get
        "android:apk-key-hash:aBc" = .ok () := by
  refine ⟨?_, ?_, by decide, by decide +kernel⟩
  · simpa only [String.reduceAppend] using ofUrl?_app (.inr rfl) "apk-key-hash:AbC"
  · simpa only [String.reduceAppend] using ofUrl?_app (.inr rfl) "apk-key-hash:aBc"

end ClientData

end RelyingParty
