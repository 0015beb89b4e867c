import Mathlib.Data.List.Chain
import RelyingParty.Proofs.Der.Element

namespace RelyingParty.Der

/-- The inner element stands at the front of the content of the outer one, which is constructed. -/
structure Holds (outer inner : Element) : Prop where
  constructed : outer.tag &&& 0x20 ≠ 0
  content : ∃ w trailing, IsElement inner w ∧ outer.content = w ++ trailing

variable {outer inner e : Element} {chain : List Element} {der payload : Bytes}

theorem isConstructed_iff {tag : UInt8} : isConstructed tag = true ↔ tag &&& 0x20 ≠ 0 := by
  rw [isConstructed, bne_iff_ne]

/-- An octet string is not constructed, so that the descent ends at the first one. -/
theorem Holds.tag_ne (h : Holds outer inner) : outer.tag ≠ octetStringTag := by
  intro htag
  have hconstructed := h.constructed
  rw [htag] at hconstructed
  exact absurd hconstructed (by decide)

theorem Holds.length_content (h : Holds outer inner) :
    inner.content.length + 2 ≤ outer.content.length := by
  obtain ⟨w, trailing, hw, hcontent⟩ := h.content
  have hlength := hw.length_content
  rw [hcontent, List.length_append]
  omega

theorem Holds.content_infix (h : Holds outer inner) : inner.content <:+: outer.content := by
  obtain ⟨w, trailing, hw, hcontent⟩ := h.content
  rw [hcontent]
  exact hw.content_infix.trans (List.prefix_append w trailing).isInfix

theorem Element.octets?_of_tag (h : e.tag = octetStringTag) : e.octets? = some e.content := by
  rw [Element.octets?, if_pos h]

theorem Element.octets?_of_holds (h : Holds outer inner) : outer.octets? = inner.octets? := by
  obtain ⟨w, trailing, hw, hcontent⟩ := h.content
  have hread := Element.read?_eq_some.mpr ⟨w, hw, hcontent⟩
  rw [Element.octets?, if_neg h.tag_ne, if_pos (isConstructed_iff.mpr h.constructed)]
  split
  next found =>
    rw [hread] at found
    cases found
    rfl
  next found => cases hread.symm.trans found

/-- One step of the descent. -/
theorem Element.octets?_cases (h : e.octets? = some payload) :
    e = ⟨octetStringTag, payload⟩ ∨ ∃ inner, Holds e inner ∧ inner.octets? = some payload := by
  rw [Element.octets?] at h
  split at h
  next htag =>
    obtain rfl := Option.some.inj h
    exact .inl (by rw [← htag])
  next =>
    split at h
    next hconstructed =>
      split at h
      next inner rest found =>
        obtain ⟨w, hw, hcontent⟩ := Element.read?_eq_some.mp found
        exact .inr ⟨inner, ⟨isConstructed_iff.mp hconstructed, w, rest, hw, hcontent⟩, h⟩
      next => cases h
    next => cases h

theorem length_chain (h : (outer :: chain).IsChain Holds) :
    2 * chain.length ≤ outer.content.length := by
  induction chain generalizing outer with
  | nil => exact Nat.zero_le _
  | cons inner chain ih =>
    obtain ⟨hstep, hrest⟩ := List.isChain_cons_cons.mp h
    have hlength := hstep.length_content
    have hdeeper := ih hrest
    rw [List.length_cons]
    omega

theorem content_infix_of_chain (h : (outer :: chain).IsChain Holds)
    (hlast : (outer :: chain).getLast? = some e) : e.content <:+: outer.content := by
  induction chain generalizing outer with
  | nil =>
    obtain rfl : outer = e := by simpa using hlast
    exact List.infix_rfl
  | cons inner chain ih =>
    obtain ⟨hstep, hrest⟩ := List.isChain_cons_cons.mp h
    rw [List.getLast?_cons_cons] at hlast
    exact (ih hrest hlast).trans hstep.content_infix

theorem octets?_of_chain (h : (outer :: chain).IsChain Holds)
    (hlast : (outer :: chain).getLast? = some ⟨octetStringTag, payload⟩) :
    outer.octets? = some payload := by
  induction chain generalizing outer with
  | nil =>
    obtain rfl : outer = ⟨octetStringTag, payload⟩ := by simpa using hlast
    exact Element.octets?_of_tag rfl
  | cons inner chain ih =>
    obtain ⟨hstep, hrest⟩ := List.isChain_cons_cons.mp h
    rw [List.getLast?_cons_cons] at hlast
    rw [Element.octets?_of_holds hstep]
    exact ih hrest hlast

/-- The descent is followed by the length of what is still to be looked at. -/
theorem chain_of_octets? (h : outer.octets? = some payload) : ∃ chain,
    (outer :: chain).IsChain Holds ∧
      (outer :: chain).getLast? = some ⟨octetStringTag, payload⟩ := by
  induction hn : outer.content.length using Nat.strong_induction_on generalizing outer with
  | _ n ih =>
    obtain rfl | ⟨inner, hstep, hinner⟩ := Element.octets?_cases h
    · exact ⟨[], List.isChain_singleton _, rfl⟩
    · have hlength := hstep.length_content
      obtain ⟨chain, hchain, hlast⟩ := ih _ (by omega) hinner rfl
      refine ⟨inner :: chain, List.isChain_cons_cons.mpr ⟨hstep, hchain⟩, ?_⟩
      rw [List.getLast?_cons_cons]
      exact hlast

theorem unwrapOctets?_eq_some : unwrapOctets? der = some payload ↔
    ∃ outer, IsElement outer der ∧ outer.octets? = some payload := by
  unfold unwrapOctets?
  constructor
  · intro h
    split at h
    next outer found =>
      obtain ⟨w, hw, heq⟩ := Element.read?_eq_some.mp found
      rw [List.append_nil] at heq
      exact ⟨outer, heq ▸ hw, h⟩
    next => cases h
  · rintro ⟨outer, houter, h⟩
    have hread : Element.read? der = some (outer, []) :=
      Element.read?_eq_some.mpr ⟨der, houter, (List.append_nil der).symm⟩
    rw [hread]
    exact h

/-- Unwrapping accepts exactly the byte strings that are one element, from which a chain of elements, each
held by the one before, leads to an octet string with the payload. A chain has at most half as many elements
as there are bytes, whether or not it leads to an octet string, and a payload is a part of the bytes without
gaps. -/
theorem unwraps_exactly_nested (der : Bytes) :
    (∀ payload, unwrapOctets? der = some payload ↔ ∃ outer chain, IsElement outer der ∧
      (outer :: chain).IsChain Holds ∧ (outer :: chain).getLast? = some ⟨0x04, payload⟩) ∧
    (∀ outer chain, IsElement outer der → (outer :: chain).IsChain Holds →
      2 * (outer :: chain).length ≤ der.length) ∧
    ∀ payload, unwrapOctets? der = some payload →
      ∃ before after, der = before ++ payload ++ after := by
  refine ⟨fun payload => ?_, fun outer chain houter hchain => ?_, fun payload h => ?_⟩
  · rw [unwrapOctets?_eq_some]
    constructor
    · rintro ⟨outer, houter, h⟩
      obtain ⟨chain, hchain, hlast⟩ := chain_of_octets? h
      exact ⟨outer, chain, houter, hchain, hlast⟩
    · rintro ⟨outer, chain, houter, hchain, hlast⟩
      exact ⟨outer, houter, octets?_of_chain hchain hlast⟩
  · have hcontent := houter.length_content
    have hlength := length_chain hchain
    rw [List.length_cons]
    omega
  · obtain ⟨outer, houter, h⟩ := unwrapOctets?_eq_some.mp h
    obtain ⟨chain, hchain, hlast⟩ := chain_of_octets? h
    have hinner : payload <:+: outer.content := content_infix_of_chain hchain hlast
    obtain ⟨before, after, heq⟩ := hinner.trans houter.content_infix
    exact ⟨before, after, heq.symm⟩

/-- Two bytes in an octet string, in a tagged element, in a sequence that goes on behind it and whose length
takes more bytes than it has to. -/
def sampleNested : Bytes := [0x30, 0x81, 0x08, 0xa1, 0x04, 0x04, 0x02, 0xaa, 0xbb, 0x05, 0x00]

def sampleSequence : Element := ⟨0x30, [0xa1, 0x04, 0x04, 0x02, 0xaa, 0xbb, 0x05, 0x00]⟩

def sampleTagged : Element := ⟨0xa1, [0x04, 0x02, 0xaa, 0xbb]⟩

theorem unwraps_exactly_nested_sample :
    IsElement sampleSequence sampleNested ∧
    [sampleSequence, sampleTagged, ⟨0x04, [0xaa, 0xbb]⟩].IsChain Holds ∧
    2 * [sampleSequence, sampleTagged, ⟨0x04, [0xaa, 0xbb]⟩].length ≤ sampleNested.length ∧
    unwrapOctets? sampleNested = some [0xaa, 0xbb] ∧
    ∃ before after, sampleNested = before ++ [0xaa, 0xbb] ++ after := by
  have hshort {b tag : UInt8} {content : Bytes} (htag : tag &&& 0x1f ≠ 0x1f)
      (hlength : b.toNat = content.length) (hb : b.toNat < 0x80) :
      IsElement ⟨tag, content⟩ (tag :: ([b] ++ content)) := .element htag (hlength ▸ .short hb)
  have hsequence : IsElement sampleSequence sampleNested :=
    @IsElement.element 0x30 [0x81, 0x08] _ (by decide) (@IsLength.long 0x81 [0x08] rfl (by decide) (by decide))
  have htagged : IsElement sampleTagged [0xa1, 0x04, 0x04, 0x02, 0xaa, 0xbb] :=
    hshort (by decide) rfl (by decide)
  have hoctets : IsElement ⟨0x04, [0xaa, 0xbb]⟩ [0x04, 0x02, 0xaa, 0xbb] :=
    hshort (by decide) rfl (by decide)
  have hchain : [sampleSequence, sampleTagged, ⟨0x04, [0xaa, 0xbb]⟩].IsChain Holds := by
    refine List.isChain_cons_cons.mpr ⟨⟨by decide, _, [0x05, 0x00], htagged, rfl⟩, ?_⟩
    exact List.isChain_cons_cons.mpr ⟨⟨by decide, _, [], hoctets, rfl⟩, List.isChain_singleton _⟩
  obtain ⟨hexactly, hbound, hpart⟩ := unwraps_exactly_nested sampleNested
  have hunwrap : unwrapOctets? sampleNested = some [0xaa, 0xbb] :=
    (hexactly _).mpr ⟨_, _, hsequence, hchain, rfl⟩
  exact ⟨hsequence, hchain, hbound _ _ hsequence hchain, hunwrap, hpart _ hunwrap⟩

end RelyingParty.Der
