namespace RelyingParty.Curve

/-- `u` times `p` plus `v` times `q`, by doubling from the highest bits down. -/
def combination (add : α → α → α) (zero p q : α) (u v : Nat) : α :=
  if u = 0 ∧ v = 0 then zero
  else
    let half := combination add zero p q (u / 2) (v / 2)
    let double := add half half
    let withP := if u % 2 = 1 then add double p else double
    if v % 2 = 1 then add withP q else withP
termination_by u + v
decreasing_by omega

end RelyingParty.Curve
