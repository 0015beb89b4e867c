import RelyingParty.WebOrigin.Host

namespace RelyingParty.WebOrigin

inductive Scheme where
  | http
  | https
  | ws
  | wss
  | ftp
  deriving DecidableEq

namespace Scheme

def name : Scheme → String
  | http => "http"
  | https => "https"
  | ws => "ws"
  | wss => "wss"
  | ftp => "ftp"

def ofName? (s : String) : Option Scheme :=
  [http, https, ws, wss, ftp].find? (·.name == s)

def defaultPort : Scheme → Nat
  | http => 80
  | https => 443
  | ws => 80
  | wss => 443
  | ftp => 21

end Scheme

structure Origin where
  scheme : Scheme
  host : Host
  port : Nat
  deriving DecidableEq

def Origin.toText (o : Origin) : String :=
  let port := if o.port = o.scheme.defaultPort then [] else ':' :: (toString o.port).toList
  String.ofList (o.scheme.name.toList ++ "://".toList ++ o.host.toChars ++ port)

/-- The characters of a URL that count: control characters and blanks at the ends, and tabulators
and line ends anywhere, do not. -/
def significantChars (s : String) : List Char :=
  let isMargin (c : Char) : Bool := c.toNat ≤ 0x20
  let trimmed := ((s.toList.dropWhile isMargin).reverse.dropWhile isMargin).reverse
  trimmed.filter fun c => c ≠ '\t' && c ≠ '\n' && c ≠ '\r'

def splitScheme? (cs : List Char) : Option (String × List Char) :=
  let isSchemeChar (c : Char) : Bool := c.isAlphanum || c = '+' || c = '-' || c = '.'
  match cs with
  | [] => none
  | first :: _ =>
    if first.isAlpha then
      match cs.dropWhile isSchemeChar with
      | ':' :: rest => some (String.ofList ((cs.takeWhile isSchemeChar).map Char.toLower), rest)
      | _ => none
    else none

def splitHost : (inBrackets : Bool) → List Char → List Char × List Char
  | _, [] => ([], [])
  | inBrackets, c :: cs =>
    if c = ':' ∧ !inBrackets then ([], c :: cs)
    else
      let inBrackets := if c = '[' then true else if c = ']' then false else inBrackets
      let (host, rest) := splitHost inBrackets cs
      (c :: host, rest)

/-- The port after a host: none, a colon alone, or a colon and decimal digits. -/
def port? (scheme : Scheme) : List Char → Option Nat
  | [] => some scheme.defaultPort
  | [_] => some scheme.defaultPort
  | _ :: digits => (number? 10 digits).filter (· ≤ 65535)

def afterUser (cs : List Char) : List Char :=
  (cs.reverse.takeWhile (· ≠ '@')).reverse

def Origin.ofRest? (scheme : Scheme) (rest : List Char) : Option Origin := do
  let authority := (rest.dropWhile fun c => c = '/' || c = '\\').takeWhile fun c =>
    c ≠ '/' && c ≠ '\\' && c ≠ '?' && c ≠ '#'
  let (hostChars, portChars) := splitHost false (afterUser authority)
  if hostChars.isEmpty then none
  else do
    let host ← Host.ofChars? hostChars
    let port ← port? scheme portChars
    some ⟨scheme, host, port⟩

/-- The path of a URL that is one text: up to the query, with control characters and whatever is
not ASCII percent-encoded. -/
def opaquePath (cs : List Char) : List Char :=
  let encodeByte (b : UInt8) : List Char :=
    if b < 0x20 ∨ 0x7e < b then
      let digit (n : Nat) := if n < 10 then Char.ofNat (48 + n) else Char.ofNat (55 + n)
      ['%', digit (b.toNat / 16), digit (b.toNat % 16)]
    else [Char.ofNat b.toNat]
  (Bytes.ofText (String.ofList (cs.takeWhile fun c => c ≠ '?' && c ≠ '#'))).flatMap encodeByte

/-- The origin of a URL with at most `depth` wrappings as a blob, whose path is itself a URL. -/
def Origin.ofUrlWithin? : (depth : Nat) → String → Option Origin
  | 0, _ => none
  | depth + 1, s => do
    let (name, rest) ← splitScheme? (significantChars s)
    if name = "blob" then Origin.ofUrlWithin? depth (String.ofList (opaquePath rest))
    else do
      let scheme ← Scheme.ofName? name
      Origin.ofRest? scheme rest

def Origin.ofUrl? (s : String) : Option Origin :=
  Origin.ofUrlWithin? (s.length + 1) s

/-- A text in the form in which origins are compared: that of the URL's origin, or the text itself
if it is not a URL that has one. -/
def normalize (s : String) : String :=
  match Origin.ofUrl? s with
  | some o => o.toText
  | none => s

def equalIgnoringCase (s t : String) : Bool :=
  s.toList.map Char.toLower == t.toList.map Char.toLower

def sameOrigin (s t : String) : Bool :=
  equalIgnoringCase (normalize s) (normalize t)

end RelyingParty.WebOrigin
