import RelyingParty.Text.Parts

namespace RelyingParty.DomainName

def codePoint (cs : List Char) : Nat := numberOf 16 (cs.filterMap (digitValue? 16))

def entries (table : String) : List (List Char) :=
  (cutAt ' ' (table.toList.map fun c => if c = '\n' then ' ' else c)).filter (!·.isEmpty)

structure CodeRange where
  first : Nat
  last : Nat

namespace CodeRange

def holds (range : CodeRange) (c : Char) : Bool := range.first ≤ c.toNat && c.toNat ≤ range.last

def ofChars (cs : List Char) : CodeRange :=
  match cutAt '-' cs with
  | [first, last] => ⟨codePoint first, codePoint last⟩
  | _ => ⟨codePoint cs, codePoint cs⟩

end CodeRange

def readRanges (table : String) : List CodeRange := (entries table).map .ofChars

def inRanges (ranges : List CodeRange) (c : Char) : Bool := ranges.any (·.holds c)

def readClasses (tables : List (α × String)) : List (α × List CodeRange) :=
  tables.map fun (value, table) => (value, readRanges table)

def classOf? (classes : List (α × List CodeRange)) (c : Char) : Option α :=
  (classes.find? fun (_, ranges) => inRanges ranges c).map (·.1)

def readPairs (table : String) : List (List Char × List Char) :=
  (entries table).filterMap fun cs =>
    match cutAt '=' cs with
    | [left, right] => some (left, right)
    | _ => none

def readChars (cs : List Char) : List Char :=
  (cutAt '+' cs).map fun part => Char.ofNat (codePoint part)

end RelyingParty.DomainName
