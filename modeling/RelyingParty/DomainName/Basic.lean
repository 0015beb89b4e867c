import RelyingParty.DomainName.Direction
import RelyingParty.DomainName.Joining
import RelyingParty.DomainName.Mapping
import RelyingParty.DomainName.NormalForm
import RelyingParty.DomainName.Punycode

namespace RelyingParty.DomainName

/-- Characters that no domain may hold: controls, the blank, and those with a meaning in a URL. -/
def isForbidden (c : Char) : Bool :=
  c.toNat ≤ 0x20 || c.toNat = 0x7f || "%#/:<>?@[\\]^|".toList.contains c

def isAscii (c : Char) : Bool := c.toNat < 0x80

def encodedMark : List Char := ['x', 'n', '-', '-']

def isEncoded (label : List Char) : Bool := encodedMark.isPrefixOf label

structure Label where
  shown : List Char
  ascii : List Char

def maxShownLength : Nat := 1000

def maxEncodedLength : Nat := 2000

/-- A character joins those to one side of it, if marks between them are left out. -/
def joins (side : Joining) (neighbours : List Char) : Bool :=
  match neighbours.dropWhile fun c => Joining.ofChar c = .transparent with
  | [] => false
  | c :: _ => Joining.ofChar c = side || Joining.ofChar c = .both

/-- Invisible joiners stand only after a mark that takes away a vowel; the one that keeps characters
apart stands also between those that would join. `before` are the characters before, the last one
first. -/
def joinersFit : (before : List Char) → List Char → Bool
  | _, [] => true
  | before, c :: cs =>
    let fits :=
      if c.toNat = 0x200c ∨ c.toNat = 0x200d then
        before.head?.any fun b =>
          combiningClass b = 9
            || (c.toNat = 0x200c && joins .towardLeft before && joins .towardRight cs)
      else true
    fits && joinersFit (c :: before) cs

def isShowable (label : List Char) : Bool :=
  !label.any isForbidden && !label.head?.any isMark && joinersFit [] label

def Label.ofMapped? (cs : List Char) : Option Label :=
  if isEncoded cs then
    let isDecodable := cs.all isAscii && cs.getLast? ≠ some '-'
      && cs.length ≤ maxEncodedLength + encodedMark.length
    if isDecodable then do
      let shown ← Punycode.decode? (cs.drop encodedMark.length)
      if normalForm shown = shown ∧ shown.all isStable ∧ isShowable shown
          ∧ !cs.any isForbidden then
        some ⟨shown, cs⟩
      else none
    else none
  else if isShowable cs then
    if cs.all isAscii then some ⟨cs, cs⟩
    else if cs.length ≤ maxShownLength then some ⟨cs, encodedMark ++ Punycode.encode cs⟩
    else none
  else none

def isRightToLeft (c : Char) : Bool :=
  Direction.ofChar c = .rightToLeft || Direction.ofChar c = .arabicNumber

/-- A label keeps one direction, which its first character tells, and ends in a letter or a number,
marks apart. From right to left, it holds one kind of numbers. -/
def keepsDirection (label : List Char) : Bool :=
  let directions := label.map Direction.ofChar
  match directions with
  | [] => true
  | first :: rest =>
    let body := (rest.reverse.dropWhile (· = .mark)).reverse
    match first with
    | .leftToRight =>
      body.all (fun d => d ≠ .rightToLeft && d ≠ .arabicNumber)
        && body.getLast?.all (fun d => d = .leftToRight || d = .europeanNumber)
    | .rightToLeft =>
      body.all (· ≠ .leftToRight)
        && body.getLast?.all (fun d => d = .rightToLeft || d = .europeanNumber || d = .arabicNumber)
        && !(body.contains .europeanNumber && body.contains .arabicNumber)
    | _ => false

def ofPlain? (cs : List Char) : Option String :=
  if cs.any isForbidden then none else some (String.ofList cs)

def ofMapped? (cs : List Char) : Option String := do
  let labels ← (cutAt '.' (normalForm cs)).mapM Label.ofMapped?
  let isBidirectional := labels.any fun l => l.shown.any isRightToLeft
  if isBidirectional && !labels.all (fun l => keepsDirection l.shown) then none
  else some (String.ofList (['.'].intercalate (labels.map Label.ascii)))

def comparable? (s : String) : Option String :=
  let lower := s.toList.map Char.toLower
  if lower.all isAscii && !(cutAt '.' lower).any isEncoded then ofPlain? lower
  else do
    let mapped ← s.toList.mapM mapChar?
    ofMapped? mapped.flatten

end RelyingParty.DomainName
