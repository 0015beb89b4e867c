import RelyingParty.Json.Reader
import RelyingParty.Json.Value

namespace RelyingParty.Json

/-- Blanks, which may stand between any two tokens. -/
def IsBlank (bs : Bytes) : Prop := ∀ b ∈ bs, isSpace b = true

theorem isBlank_nil : IsBlank [] := List.forall_mem_nil _

/-- What may stand after a value: nothing, a blank, a comma or a closing bracket or brace. -/
def Delimits (bs : Bytes) : Prop :=
  ∀ b ∈ bs.head?, isSpace b = true ∨ b = 0x2c ∨ b = 0x5d ∨ b = 0x7d

theorem delimits_nil : Delimits [] := nofun

def escapes : List (UInt8 × Char) :=
  [(0x22, '"'), (0x5c, '\\'), (0x2f, '/'), (0x62, '\x08'), (0x66, '\x0c'), (0x6e, '\n'), (0x72, '\r'),
    (0x74, '\t')]

def IsHexDigit (n : Nat) (b : UInt8) : Prop :=
  n < 16 ∧ (b = .ofNat (hexDigit n).toNat ∨ b = .ofNat (hexDigit n).toUpper.toNat)

inductive IsUnit : Nat → Bytes → Prop
  | digits {p q r s : Nat} {a b c d : UInt8} (ha : IsHexDigit p a) (hb : IsHexDigit q b)
    (hc : IsHexDigit r c) (hd : IsHexDigit s d) :
    IsUnit (((p * 16 + q) * 16 + r) * 16 + s) [0x5c, 0x75, a, b, c, d]

/-- What may stand between the quotes of a text for its characters: each for itself, or as a short or
numeric escape, or as a pair of numeric escapes if it is beyond 16 bits. -/
inductive Spelling : Bytes → List Char → Prop
  | nil : Spelling [] []
  | plain {w : Bytes} {c : Char} {cs : List Char} (hquote : c ≠ '"') (hslash : c ≠ '\\')
    (hcontrol : 0x20 ≤ c.toNat) (rest : Spelling w cs) : Spelling (String.utf8EncodeChar c ++ w) (c :: cs)
  | escape {e : UInt8} {w : Bytes} {c : Char} {cs : List Char} (h : (e, c) ∈ escapes)
    (rest : Spelling w cs) : Spelling ([0x5c, e] ++ w) (c :: cs)
  | unit {u w : Bytes} {c : Char} {cs : List Char} (h : IsUnit c.toNat u) (rest : Spelling w cs) :
    Spelling (u ++ w) (c :: cs)
  | pair {u v w : Bytes} {c : Char} {cs : List Char} (hbeyond : 0x10000 ≤ c.toNat)
    (high : IsUnit (0xd800 + (c.toNat - 0x10000) / 0x400) u)
    (low : IsUnit (0xdc00 + (c.toNat - 0x10000) % 0x400) v) (rest : Spelling w cs) :
    Spelling (u ++ v ++ w) (c :: cs)

def IsText (s : String) (w : Bytes) : Prop :=
  ∃ body, Spelling body s.toList ∧ w = 0x22 :: (body ++ [0x22])

def IsPlain (b : UInt8) : Prop := b ≠ 0x22 ∧ b ≠ 0x5c ∧ ¬ b < 0x20

/-- What may stand between the quotes of a text that nobody asks for: the numeric escapes need not make
characters. -/
inductive IsBody : Bytes → Prop
  | nil : IsBody []
  | plain {b : UInt8} {w : Bytes} (h : IsPlain b) (rest : IsBody w) : IsBody ([b] ++ w)
  | escape {e : UInt8} {c : Char} {w : Bytes} (h : (e, c) ∈ escapes) (rest : IsBody w) :
    IsBody ([0x5c, e] ++ w)
  | unit {n : Nat} {u w : Bytes} (h : IsUnit n u) (rest : IsBody w) : IsBody (u ++ w)

def IsDigits (w : Bytes) : Prop := w ≠ [] ∧ ∀ b ∈ w, isDigit b = true

def IsWhole (w : Bytes) : Prop := w = [0x30] ∨ IsDigits w ∧ w.head? ≠ some 0x30

def IsFraction (w : Bytes) : Prop := w = [] ∨ ∃ digits, IsDigits digits ∧ w = 0x2e :: digits

def IsExponent (w : Bytes) : Prop :=
  w = [] ∨ ∃ e sign digits, (e = 0x65 ∨ e = 0x45) ∧ (sign = [] ∨ sign = [0x2b] ∨ sign = [0x2d]) ∧
    IsDigits digits ∧ w = e :: (sign ++ digits)

def IsNumeral (w : Bytes) : Prop :=
  ∃ sign whole fraction exponent, (sign = [] ∨ sign = [0x2d]) ∧ IsWhole whole ∧ IsFraction fraction ∧
    IsExponent exponent ∧ w = sign ++ (whole ++ (fraction ++ exponent))

inductive Listed {α : Type} (IsItem : α → Bytes → Prop) : List α → Bytes → Prop
  | last {a : α} {before w after : Bytes} (hw : IsItem a w) (hbefore : IsBlank before)
    (hafter : IsBlank after) : Listed IsItem [a] (before ++ (w ++ after))
  | next {a : α} {as : List α} {before w after rest : Bytes} (hw : IsItem a w) (hbefore : IsBlank before)
    (hafter : IsBlank after) (hrest : Listed IsItem as rest) :
    Listed IsItem (a :: as) (before ++ (w ++ (after ++ 0x2c :: rest)))

inductive Enclosed {α : Type} (IsItem : α → Bytes → Prop) (opening closing : UInt8) :
    List α → Bytes → Prop
  | nothing {blank : Bytes} (h : IsBlank blank) :
    Enclosed IsItem opening closing [] (opening :: (blank ++ [closing]))
  | items {as : List α} {w : Bytes} (h : Listed IsItem as w) :
    Enclosed IsItem opening closing as (opening :: (w ++ [closing]))

inductive IsMember (body value : Bytes) : Bytes → Prop
  | member {before after : Bytes} (hbefore : IsBlank before) (hafter : IsBlank after) :
    IsMember body value (0x22 :: (body ++ 0x22 :: (before ++ 0x3a :: (after ++ value))))

inductive IsValue : Bytes → Prop
  | null : IsValue nullWord
  | bool (b : Bool) : IsValue (if b then trueWord else falseWord)
  | number {w : Bytes} (h : IsNumeral w) : IsValue w
  | text {body : Bytes} (h : IsBody body) : IsValue (0x22 :: (body ++ [0x22]))
  | array {items : List Bytes} {w : Bytes} (hitems : ∀ item ∈ items, IsValue item)
    (h : Enclosed Eq 0x5b 0x5d items w) : IsValue w
  | object {members : List (Bytes × Bytes)} {w : Bytes} (hnames : ∀ m ∈ members, IsBody m.1)
    (hvalues : ∀ m ∈ members, IsValue m.2)
    (h : Enclosed (fun m => IsMember m.1 m.2) 0x7b 0x7d members w) : IsValue w

def IsNamed (m : String × Bytes) (w : Bytes) : Prop :=
  ∃ body, Spelling body m.1.toList ∧ IsMember body m.2 w

structure IsObject (members : List (String × Bytes)) (w : Bytes) : Prop where
  values : ∀ m ∈ members, IsValue m.2
  layout : Enclosed IsNamed 0x7b 0x7d members w

def IsFlag (b : Bool) (w : Bytes) : Prop := w = if b then trueWord else falseWord

inductive IsNullable {α : Type} (IsWritten : α → Bytes → Prop) : Option α → Bytes → Prop
  | null : IsNullable IsWritten none nullWord
  | value {a : α} {w : Bytes} (h : IsWritten a w) : IsNullable IsWritten (some a) w

inductive IsOptional {α : Type} (name : String) (IsWritten : α → Bytes → Prop) :
    Option α → List (String × Bytes) → Prop
  | absent : IsOptional name IsWritten none []
  | present {a : α} {w : Bytes} (h : IsWritten a w) : IsOptional name IsWritten (some a) [(name, w)]

end RelyingParty.Json
