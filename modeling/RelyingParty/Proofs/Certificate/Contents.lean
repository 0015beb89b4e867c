import RelyingParty.Certificate.Basic
import RelyingParty.Proofs.Cbor.Entries

namespace RelyingParty.Certificate

variable {c : Certificate}

theorem extension?_eq_some {id : List Nat} {extension : Extension} :
    c.extension? id = some extension ↔ IsFirst (·.id.arcs = id) extension c.extensions :=
  find?_eq_some_iff_isFirst fun _ => beq_iff_eq

def Name.Tells (name : Name) (type : Der.ObjectId) : Prop :=
  ∃ set ∈ name.sets, ∃ part ∈ set, part.type = type ∧ ∃ text, part.text? = some text ∧ text ≠ ""

theorem Name.hasText_iff_tells {name : Name} {type : Der.ObjectId} :
    name.hasText type = true ↔ name.Tells type := by
  simp [Name.hasText, Name.Tells, Option.any_eq_true]

def constraints (c : Certificate) : List Extension := c.extensions.filter (·.id == basicConstraintsId)

/-- A certificate that does not say that it is one of an authority: about that it has no extension, or
one that denies it. -/
structure NoAuthority (c : Certificate) : Prop where
  once : c.constraints.length ≤ 1
  denies : ∀ extension ∈ c.constraints, authorityValue? extension.value = some false

/-- The one extension about authorities cannot be read. -/
def Unread (c : Certificate) : Prop :=
  ∃ extension, c.constraints = [extension] ∧ authorityValue? extension.value = none

theorem isAuthority?_eq_false : c.isAuthority? = some false ↔ c.NoAuthority ∨ c.Unread := by
  have hiff : c.NoAuthority ↔ c.constraints.length ≤ 1 ∧
      ∀ extension ∈ c.constraints, authorityValue? extension.value = some false :=
    ⟨fun h => ⟨h.once, h.denies⟩, fun h => ⟨h.1, h.2⟩⟩
  rw [hiff, Unread]
  unfold isAuthority? constraints
  cases c.extensions.filter (·.id == basicConstraintsId) with
  | nil => simp
  | cons extension others =>
    cases others with
    | nil => cases h : authorityValue? extension.value <;> simp [h]
    | cons second others => simp

end RelyingParty.Certificate
