import RelyingParty.Bytes

namespace RelyingParty.Der

structure Element where
  tag : UInt8
  content : Bytes
  deriving DecidableEq

def octetStringTag : UInt8 := 0x04

def isLongTag (tag : UInt8) : Bool := tag &&& 0x1f == 0x1f

def isConstructed (tag : UInt8) : Bool := tag &&& 0x20 != 0

/-- A length field at the front of a byte string: one byte below 128, or a byte that counts one to
four big-endian bytes. -/
def readLength? : Bytes → Option (Nat × Bytes)
  | [] => none
  | first :: rest =>
    if first < 0x80 then some (first.toNat, rest)
    else
      let count := first.toNat - 0x80
      if 1 ≤ count ∧ count ≤ 4 then
        (Bytes.split? count rest).map fun (digits, rest) => (Bytes.toNat digits, rest)
      else none

def Element.read? : Bytes → Option (Element × Bytes)
  | [] => none
  | tag :: rest =>
    if isLongTag tag then none
    else do
      let (length, rest) ← readLength? rest
      let (content, rest) ← Bytes.split? length rest
      some (⟨tag, content⟩, rest)

theorem readLength?_length {bs rest : Bytes} {n : Nat} (h : readLength? bs = some (n, rest)) :
    rest.length < bs.length := by
  cases bs with
  | nil => simp [readLength?] at h
  | cons first tail =>
    simp only [readLength?] at h
    split at h
    · obtain ⟨-, rfl⟩ := Prod.mk.inj (Option.some.inj h)
      simp
    · split at h
      · obtain ⟨⟨digits, left⟩, hs, he⟩ := Option.map_eq_some_iff.mp h
        obtain ⟨-, rfl⟩ := Prod.mk.inj he
        obtain ⟨rfl, -⟩ := Bytes.split?_eq_some.mp hs
        simp only [List.length_cons, List.length_append]
        omega
      · simp at h

/-- An element's content is shorter than the input it was read from. -/
theorem Element.read?_content_length {bs rest : Bytes} {e : Element}
    (h : Element.read? bs = some (e, rest)) : e.content.length < bs.length := by
  cases bs with
  | nil => simp [Element.read?] at h
  | cons tag tail =>
    simp only [Element.read?] at h
    split at h
    · simp at h
    · obtain ⟨⟨n, left⟩, hn, h⟩ := Option.bind_eq_some_iff.mp h
      obtain ⟨⟨content, right⟩, hs, h⟩ := Option.bind_eq_some_iff.mp h
      obtain ⟨rfl, -⟩ := Prod.mk.inj (Option.some.inj h)
      have hl := readLength?_length hn
      obtain ⟨rfl, -⟩ := Bytes.split?_eq_some.mp hs
      simp at hl ⊢
      omega

/-- The content of an octet string, or of the one reached by going from each constructed element
to the first element inside it. -/
def Element.octets? (e : Element) : Option Bytes :=
  if e.tag = octetStringTag then some e.content
  else if isConstructed e.tag then
    match _found : Element.read? e.content with
    | some (inner, _) => inner.octets?
    | none => none
  else none
termination_by e.content.length
decreasing_by exact Element.read?_content_length _found

def unwrapOctets? (bs : Bytes) : Option Bytes :=
  match Element.read? bs with
  | some (e, []) => e.octets?
  | _ => none

end RelyingParty.Der
