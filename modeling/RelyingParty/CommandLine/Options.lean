import RelyingParty.Text.Parts

namespace RelyingParty.CommandLine

inductive UsageError where
  | help
  | empty
  | missingCommand
  | unknownCommand
  | unknownArgument
  | unexpectedValue
  | missingValue
  | malformedValue
  | conflict
  | missingOption
  deriving DecidableEq

namespace UsageError

def exitCode : UsageError → Nat
  | help => 0
  | _ => 2

def message : UsageError → String
  | help => "usage: [OPTIONS] --rp-id ID --rp-origin ORIGIN attestation|assertion [OPTIONS]"
  | empty => "no arguments"
  | missingCommand => "missing command"
  | unknownCommand => "unknown command"
  | unknownArgument => "unexpected argument"
  | unexpectedValue => "a flag takes no value"
  | missingValue => "missing value"
  | malformedValue => "malformed value"
  | conflict => "options exclude each other"
  | missingOption => "missing option"

end UsageError

inductive ValueForm where
  | text
  | path
  | number

def wholeNumber? (s : String) : Option UInt64 := do
  let digits := match s.toList with
    | '+' :: cs => cs
    | cs => cs
  if digits.isEmpty then none
  else
    let n ← number? 10 digits
    if n < UInt64.size then some (UInt64.ofNat n) else none

def ValueForm.check (form : ValueForm) (value : String) : Except UsageError Unit :=
  match form with
  | text => .ok ()
  | path => if value.isEmpty then .error .missingValue else .ok ()
  | number => if (wholeNumber? value).isSome then .ok () else .error .malformedValue

inductive OptionKind where
  | help
  | counter
  | flag
  | value (form : ValueForm)

structure OptionSpec where
  name : String
  letter : Option Char
  kind : OptionKind

structure Level where
  options : List OptionSpec
  commands : List String

/-- The options that are given, with their values; the value of a flag is empty. -/
abbrev Given := List (String × String)

namespace Given

def has (given : Given) (name : String) : Bool := given.any (·.1 == name)

def value? (given : Given) (name : String) : Option String :=
  (given.find? (·.1 == name)).map (·.2)

def count (given : Given) (name : String) : Nat := given.countP (·.1 == name)

def required (given : Given) (name : String) : Except UsageError String :=
  match given.value? name with
  | some value => .ok value
  | none => .error .missingOption

def addOnce (given : Given) (name value : String) : Except UsageError Given :=
  if given.has name then .error .conflict else .ok (given ++ [(name, value)])

def record (given : Given) (option : OptionSpec) (value : Option String) : Except UsageError Given :=
  match option.kind with
  | .help => .error .help
  | .counter => .ok (given ++ [(option.name, "")])
  | .flag => given.addOnce option.name ""
  | .value form =>
    match value with
    | none => .error .missingValue
    | some value => do
      let given' ← given.addOnce option.name value
      form.check value
      .ok given'

end Given

structure Progress where
  given : Given := []
  /-- The option that is yet to be recorded, and its value as soon as that is known. -/
  pending : Option (OptionSpec × Option String) := none

namespace Progress

def awaitsValue (p : Progress) : Bool := p.pending.any (·.2.isNone)

def settle (p : Progress) : Except UsageError Given :=
  match p.pending with
  | none => .ok p.given
  | some (option, value) => p.given.record option value

def record (p : Progress) (option : OptionSpec) (value : Option String) :
    Except UsageError Progress := do
  let given ← (← p.settle).record option value
  .ok { given := given }

def long (p : Progress) (level : Level) (name : String) (value : Option String) :
    Except UsageError Progress :=
  match level.options.find? (·.name == name) with
  | none => .error .unknownArgument
  | some option =>
    match option.kind, value with
    | .value _, none => do
      let given ← p.settle
      .ok { given := given, pending := some (option, none) }
    | .value _, some value => p.record option (some value)
    | _, none => p.record option none
    | _, some _ => .error .unexpectedValue

def short (level : Level) (p : Progress) (letter : Char) : Except UsageError Progress :=
  match level.options.find? (·.letter == some letter) with
  | none => .error .unknownArgument
  | some option => p.record option none

end Progress

inductive Argument where
  | separator
  | long (name : String) (value : Option String)
  | short (letters : List Char)
  | plain

def Argument.ofChars : List Char → Argument
  | ['-', '-'] => .separator
  | '-' :: '-' :: cs =>
    .long (String.ofList (cs.takeWhile (· ≠ '=')))
      (match cs.dropWhile (· ≠ '=') with
        | [] => none
        | _ :: value => some (String.ofList value))
  | '-' :: c :: cs => .short (c :: cs)
  | _ => .plain

namespace Level

def refusal (level : Level) : UsageError :=
  if level.commands.isEmpty then .unknownArgument else .unknownCommand

def refusalOfPlain (level : Level) (arg : String) : UsageError :=
  if level.commands.contains arg then .unknownArgument else level.refusal

def scan (level : Level) :
    Progress → List String → Except UsageError (Progress × Option (String × List String))
  | p, [] => .ok (p, none)
  | p, arg :: args =>
    if !p.awaitsValue && level.commands.contains arg then .ok (p, some (arg, args))
    else
      match Argument.ofChars arg.toList with
      | .separator =>
        match args with
        | [] => .ok (p, none)
        | arg :: _ => .error (level.refusalOfPlain arg)
      | .long name value => do
        let p ← p.long level name value
        level.scan p args
      | .short letters => do
        let p ← letters.foldlM (Progress.short level) p
        level.scan p args
      | .plain =>
        match p.pending with
        | some (option, none) => level.scan { p with pending := some (option, some arg) } args
        | _ => .error level.refusal

end Level

end RelyingParty.CommandLine
