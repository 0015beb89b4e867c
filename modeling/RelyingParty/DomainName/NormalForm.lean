import RelyingParty.DomainName.CanonicalData

namespace RelyingParty.DomainName

namespace Hangul

def firstLead : Nat := 0x1100
def leadCount : Nat := 19
def firstVowel : Nat := 0x1161
def vowelCount : Nat := 21

/-- One before the first final consonant, as a syllable need not have one. -/
def beforeTail : Nat := 0x11a7
def tailCount : Nat := 28
def firstSyllable : Nat := 0xac00

/-- The two parts of a syllable: a syllable without the final consonant and that consonant, or the
initial consonant and the vowel. -/
def parts? (c : Char) : Option (Char × Char) :=
  let n := c.toNat - firstSyllable
  if c.toNat < firstSyllable ∨ leadCount * vowelCount * tailCount ≤ n then none
  else if n % tailCount ≠ 0 then
    some (Char.ofNat (firstSyllable + n / tailCount * tailCount), Char.ofNat (beforeTail + n % tailCount))
  else
    some (Char.ofNat (firstLead + n / tailCount / vowelCount),
      Char.ofNat (firstVowel + n / tailCount % vowelCount))

def compose? (a b : Char) : Option Char :=
  let lead := a.toNat - firstLead
  let vowel := b.toNat - firstVowel
  let syllable := a.toNat - firstSyllable
  let tail := b.toNat - beforeTail
  if firstLead ≤ a.toNat ∧ lead < leadCount ∧ firstVowel ≤ b.toNat ∧ vowel < vowelCount then
    some (Char.ofNat (firstSyllable + (lead * vowelCount + vowel) * tailCount))
  else if firstSyllable ≤ a.toNat ∧ syllable < leadCount * vowelCount * tailCount
      ∧ syllable % tailCount = 0 ∧ beforeTail < b.toNat ∧ tail < tailCount then
    some (Char.ofNat (a.toNat + tail))
  else none

end Hangul

def parts? (c : Char) : Option (Char × Char) :=
  if c.toNat < 0x80 then none
  else (Hangul.parts? c).or ((compositions.find? fun (composed, _) => composed = c).map (·.2))

def compose? (a b : Char) : Option Char :=
  (Hangul.compose? a b).or
    ((compositions.find? fun (_, first, second) => first = a ∧ second = b).map (·.1))

def decompose : (depth : Nat) → Char → List Char
  | 0, c => [c]
  | depth + 1, c =>
    match parts? c with
    | none => [c]
    | some (first, second) => decompose depth first ++ [second]

/-- The number of steps that take apart any character: at most three marks are part of one. -/
def decompositionDepth : Nat := 3

def insertMark (mark : Char) : List Char → List Char
  | [] => [mark]
  | m :: ms =>
    if combiningClass m ≤ combiningClass mark then m :: insertMark mark ms else mark :: m :: ms

def orderMarks : (marks : List Char) → List Char → List Char
  | marks, [] => marks
  | marks, c :: cs =>
    if combiningClass c = 0 then marks ++ c :: orderMarks [] cs else orderMarks (insertMark c marks) cs

/-- Composes a character with those after it; `between` are the marks, the last one first, that
stand between them. A mark composes only if those between are of lower classes. -/
def composeFrom (start : Char) (between : List Char) : List Char → List Char
  | [] => start :: between.reverse
  | c :: cs =>
    let isNext := between.head?.all fun m => combiningClass m < combiningClass c
    match if isNext then compose? start c else none with
    | some composed => composeFrom composed between cs
    | none =>
      if combiningClass c = 0 then start :: between.reverse ++ composeFrom c [] cs
      else composeFrom start (c :: between) cs

def normalForm (cs : List Char) : List Char :=
  match orderMarks [] (cs.flatMap (decompose decompositionDepth)) with
  | [] => []
  | c :: cs => composeFrom c [] cs

end RelyingParty.DomainName
