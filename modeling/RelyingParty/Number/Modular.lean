namespace RelyingParty.Modular

def pow (m b e : Nat) : Nat :=
  if e = 0 then 1 % m
  else
    let half := pow m (b * b % m) (e / 2)
    if e % 2 = 1 then b * half % m else half
termination_by e
decreasing_by omega

def inverse (p a : Nat) : Nat := pow p a (p - 2)

end RelyingParty.Modular
