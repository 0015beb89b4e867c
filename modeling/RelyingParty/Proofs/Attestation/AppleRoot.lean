import RelyingParty.Attestation.AppleRoot

namespace RelyingParty.Attestation.AppleAppAttest

theorem toList_append_eq {s t : String} {cs ds : List Char} (hs : s.toList = cs) (ht : t.toList = ds) :
    (s ++ t).toList = cs ++ ds := by
  rw [String.toList_append, hs, ht]

def certificateOfChars? (cs : List Char) : Option (Bytes × Certificate) :=
  let digits := Base64.trimPadding cs
  let der? := if cs = digits ++ Base64.Alphabet.padding digits.length then Base64.standard.decodeChars digits else none
  der?.bind fun der => (Certificate.ofBytes? der).map fun c => (der, c)

theorem certificateOfChars?_eq_some {s : String} {der : Bytes} {c : Certificate} :
    certificateOfChars? s.toList = some (der, c) ↔
      Base64.decodeStandard? s = some der ∧ Certificate.ofBytes? der = some c := by
  have hopen : certificateOfChars? s.toList = (Base64.decodeStandard? s).bind fun der =>
      (Certificate.ofBytes? der).map fun c => (der, c) := rfl
  rw [hopen, Option.bind_eq_some_iff]
  simp only [Option.map_eq_some_iff, Prod.mk.injEq]
  constructor
  · rintro ⟨_, hder, _, hc, rfl, rfl⟩
    exact ⟨hder, hc⟩
  · rintro ⟨hder, hc⟩
    exact ⟨der, hder, c, hc, rfl, rfl⟩

theorem rootText_chars : ∃ cs, rootText.toList = cs ∧ (certificateOfChars? cs).any (fun found =>
    found.2.validity.notBefore = 1584556373 && found.2.validity.notAfter = 2373148800) := by
  apply Exists.intro
  apply And.intro
  · unfold rootText
    iterate 11
      apply toList_append_eq
      case ht => exact String.toList_ofList
    exact String.toList_ofList
  · decide +kernel

/-- The root is valid from March 2020 to March 2045. -/
theorem exists_root : ∃ der root, Base64.decodeStandard? rootText = some der ∧
    Certificate.ofBytes? der = some root ∧ root? = some root ∧
    root.validity.notBefore = 1584556373 ∧ root.validity.notAfter = 2373148800 := by
  obtain ⟨_, rfl, h⟩ := rootText_chars
  obtain ⟨⟨der, root⟩, hfound, hvalid⟩ := (Option.any_eq_true _ _).mp h
  obtain ⟨hder, hroot⟩ := certificateOfChars?_eq_some.mp hfound
  obtain ⟨hfirst, hlast⟩ := Bool.and_eq_true_iff.mp hvalid
  have hread : root? = some root := by rw [root?, hder, Option.bind_some, hroot]
  exact ⟨der, root, hder, hroot, hread, of_decide_eq_true hfirst, of_decide_eq_true hlast⟩

end RelyingParty.Attestation.AppleAppAttest
