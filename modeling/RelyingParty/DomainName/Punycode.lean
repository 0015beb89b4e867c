import RelyingParty.Text.Parts

namespace RelyingParty.DomainName.Punycode

def base : Nat := 36

def initialBias : Nat := 72

def initialCode : Nat := 0x80

def bound : Nat := UInt32.size

def threshold (bias k : Nat) : Nat := min 26 (max 1 (k - bias))

theorem threshold_pos (bias k : Nat) : 0 < threshold bias k := by
  unfold threshold
  omega

def digitChar (d : Nat) : Char := if d < 26 then Char.ofNat (97 + d) else Char.ofNat (22 + d)

def digit? (c : Char) : Option Nat :=
  if 'a' ≤ c ∧ c ≤ 'z' then some (c.toNat - 97)
  else if 'A' ≤ c ∧ c ≤ 'Z' then some (c.toNat - 65)
  else if '0' ≤ c ∧ c ≤ '9' then some (c.toNat - 22)
  else none

/-- The part of a bias that grows with the size of the numbers, and the quotient that is left. -/
def reduce (delta k : Nat) : Nat × Nat :=
  if 455 < delta then reduce (delta / 35) (k + base) else (delta, k)
termination_by delta

def adapt (delta count : Nat) (isFirst : Bool) : Nat :=
  let delta := if isFirst then delta / 700 else delta / 2
  let (delta, k) := reduce (delta + delta / count) 0
  k + 36 * delta / (delta + 38)

def writeNumber (bias k n : Nat) : List Char :=
  let t := threshold bias k
  if n < t then [digitChar n]
  else digitChar (t + (n - t) % (base - t)) :: writeNumber bias (k + base) ((n - t) / (base - t))
termination_by n
decreasing_by
  have ht := threshold_pos bias k
  have hq := Nat.div_le_self (n - threshold bias k) (base - threshold bias k)
  omega

/-- The state of writing: the digits so far, the distance from the last number, and the bias. -/
structure Writer where
  digits : List Char
  delta : Nat
  bias : Nat
  count : Nat

def Writer.pass (asciiCount code : Nat) (w : Writer) (c : Char) : Writer :=
  if c.toNat < code then { w with delta := w.delta + 1 }
  else if c.toNat = code then
    { digits := w.digits ++ writeNumber w.bias base w.delta
      delta := 0
      bias := adapt w.delta (w.count + 1) (w.count = asciiCount)
      count := w.count + 1 }
  else w

/-- Places all characters of each code point, of which `next` is the least one not yet passed. -/
def writeCodes (cs : List Char) (asciiCount : Nat) : (next : Nat) → List Nat → Writer → Writer
  | _, [], w => w
  | next, code :: codes, w =>
    let w := { w with delta := w.delta + (code - next) * (w.count + 1) }
    let w := cs.foldl (Writer.pass asciiCount code) w
    writeCodes cs asciiCount (code + 1) codes { w with delta := w.delta + 1 }

def foreignCodes (cs : List Char) : List Nat :=
  ((cs.map Char.toNat).filter (initialCode ≤ ·)).mergeSort.eraseDups

def encode (cs : List Char) : List Char :=
  let ascii := cs.filter (·.toNat < initialCode)
  let w := writeCodes cs ascii.length initialCode (foreignCodes cs) ⟨[], 0, initialBias, ascii.length⟩
  ascii ++ (if ascii.isEmpty then [] else ['-']) ++ w.digits

/-- The number that digits write from the place `k` on, added to `n`, and the digits after it. -/
def readNumber (bias : Nat) : (k weight n : Nat) → List Char → Option (Nat × List Char)
  | _, _, _, [] => none
  | k, weight, n, c :: cs =>
    match digit? c with
    | none => none
    | some d =>
      let n := n + d * weight
      let t := threshold bias k
      if bound ≤ n then none
      else if d < t then some (n, cs)
      else if bound ≤ weight * (base - t) then none
      else readNumber bias (k + base) (weight * (base - t)) n cs

theorem readNumber_length {bias k weight n m : Nat} {cs rest : List Char}
    (h : readNumber bias k weight n cs = some (m, rest)) : rest.length < cs.length := by
  induction cs generalizing k weight n with
  | nil => simp [readNumber] at h
  | cons c cs ih =>
    rw [readNumber] at h
    split at h
    next => simp at h
    next d _ =>
      dsimp only at h
      split at h
      next => simp at h
      next =>
        split at h
        next =>
          obtain ⟨-, rfl⟩ := Prod.mk.inj (Option.some.inj h)
          simp
        next =>
          split at h
          next => simp at h
          next =>
            have := ih h
            simp only [List.length_cons]
            omega

def char? (n : Nat) : Option Char :=
  if (Char.ofNat n).toNat = n then some (Char.ofNat n) else none

def readDigits (placed : List Char) (code place bias : Nat) (isFirst : Bool) (cs : List Char) :
    Option (List Char) :=
  if cs.isEmpty then some placed
  else
    match _h : readNumber bias base 1 place cs with
    | none => none
    | some (n, rest) =>
      let count := placed.length + 1
      let code := code + n / count
      match char? code with
      | none => none
      | some char =>
        let placed := placed.take (n % count) ++ char :: placed.drop (n % count)
        readDigits placed code (n % count + 1) (adapt (n - place) count isFirst) false rest
termination_by cs.length
decreasing_by exact readNumber_length ‹_›

def decode? (cs : List Char) : Option (List Char) :=
  let digits := (cs.reverse.takeWhile (· ≠ '-')).reverse
  let ascii := cs.take (cs.length - digits.length - 1)
  if ascii.isEmpty then readDigits [] initialCode 0 initialBias true cs
  else readDigits ascii initialCode 0 initialBias true digits

end RelyingParty.DomainName.Punycode
