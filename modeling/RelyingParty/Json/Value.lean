import RelyingParty.Bytes

namespace RelyingParty.Json

inductive Value where
  | null
  | bool (b : Bool)
  | number (n : Nat)
  | text (s : String)
  | array (items : List Value)
  | object (members : List (String × Value))

def hexDigit (n : Nat) : Char :=
  if n < 10 then Char.ofNat (48 + n) else Char.ofNat (87 + n)

/-- A character of a text as it stands between quotes: quote, backslash and control characters are
escaped, the rest stands for itself. -/
def escapeChar (c : Char) : List Char :=
  if c = '"' then ['\\', '"']
  else if c = '\\' then ['\\', '\\']
  else if c = '\n' then ['\\', 'n']
  else if c = '\r' then ['\\', 'r']
  else if c = '\t' then ['\\', 't']
  else if c.toNat = 8 then ['\\', 'b']
  else if c.toNat = 12 then ['\\', 'f']
  else if c.toNat < 32 then ['\\', 'u', '0', '0', hexDigit (c.toNat / 16), hexDigit (c.toNat % 16)]
  else [c]

def quote (s : String) : List Char :=
  '"' :: s.toList.flatMap escapeChar ++ ['"']

namespace Value

mutual

def compactChars : Value → List Char
  | null => "null".toList
  | bool false => "false".toList
  | bool true => "true".toList
  | number n => (toString n).toList
  | text s => quote s
  | array [] => ['[', ']']
  | array (item :: items) => '[' :: item.compactChars ++ compactItems items
  | object [] => ['{', '}']
  | object ((name, value) :: members) =>
    '{' :: quote name ++ ':' :: value.compactChars ++ compactMembers members

def compactItems : List Value → List Char
  | [] => [']']
  | item :: items => ',' :: item.compactChars ++ compactItems items

def compactMembers : List (String × Value) → List Char
  | [] => ['}']
  | (name, value) :: members =>
    ',' :: quote name ++ ':' :: value.compactChars ++ compactMembers members

end

def indent (depth : Nat) : List Char :=
  '\n' :: List.replicate (2 * depth) ' '

mutual

/-- The value with each item and member on a line of its own, two blanks deeper than its
container. -/
def prettyChars (depth : Nat) : Value → List Char
  | null => "null".toList
  | bool false => "false".toList
  | bool true => "true".toList
  | number n => (toString n).toList
  | text s => quote s
  | array [] => ['[', ']']
  | array (item :: items) =>
    '[' :: indent (depth + 1) ++ item.prettyChars (depth + 1) ++ prettyItems depth items
  | object [] => ['{', '}']
  | object ((name, value) :: members) =>
    '{' :: indent (depth + 1) ++ quote name ++ ':' :: ' ' :: value.prettyChars (depth + 1)
      ++ prettyMembers depth members

def prettyItems (depth : Nat) : List Value → List Char
  | [] => indent depth ++ [']']
  | item :: items =>
    ',' :: indent (depth + 1) ++ item.prettyChars (depth + 1) ++ prettyItems depth items

def prettyMembers (depth : Nat) : List (String × Value) → List Char
  | [] => indent depth ++ ['}']
  | (name, value) :: members =>
    ',' :: indent (depth + 1) ++ quote name ++ ':' :: ' ' :: value.prettyChars (depth + 1)
      ++ prettyMembers depth members

end

def compact (v : Value) : String := String.ofList v.compactChars

def pretty (v : Value) : String := String.ofList (v.prettyChars 0)

end Value

end RelyingParty.Json
