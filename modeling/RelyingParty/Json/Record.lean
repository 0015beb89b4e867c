import RelyingParty.Json.Reader

namespace RelyingParty.Json

/-- A member of a record: the reader of its value, and where a draft holds what was read. An array may end
before a member that may be cut off. -/
structure Field (σ : Type) where
  name : String
  {Held : Type}
  get : σ → Option Held
  set : σ → Held → σ
  value : Reader Held
  mayBeCutOff : Bool

def Field.isSet (field : Field σ) (draft : σ) : Bool := (field.get draft).isSome

def Field.read (field : Field σ) (draft : σ) : Reader σ := fun bs => do
  let (value, rest) ← field.value bs
  .ok (field.set draft value, rest)

/-- A record: its members in order, the draft without any, and the record that a draft makes. -/
structure RecordFormat (σ α : Type) where
  fields : List (Field σ)
  empty : σ
  build : σ → Except ReadError α

def required (name : String) : Option α → Except ReadError α
  | some a => .ok a
  | none => .error (.missingField name)

def readMembersWithin (fields : List (Field σ)) : (fuel : Nat) → σ → Reader σ
  | 0, _, _ => .error .malformed
  | fuel + 1, draft, bs => do
    let (name, rest) ← readQuoted bs
    let field? := fields.find? (·.name == name)
    if field?.any (·.isSet draft) then .error (.duplicateField name)
    else
      match skipSpace rest with
      | 0x3a :: rest => do
        let (draft, rest) ←
          match field? with
          | some field => field.read draft rest
          | none => (skipValue rest).map fun (_, rest) => (draft, rest)
        match skipSpace rest with
        | 0x7d :: rest => .ok (draft, rest)
        | 0x2c :: rest =>
          match skipSpace rest with
          | 0x22 :: rest => readMembersWithin fields fuel draft rest
          | _ => .error .malformed
        | _ => .error .malformed
      | _ => .error .malformed

def readMembers (fields : List (Field σ)) (draft : σ) : Reader σ := fun bs =>
  match skipSpace bs with
  | 0x7d :: rest => .ok (draft, rest)
  | 0x22 :: rest => readMembersWithin fields rest.length draft rest
  | _ => .error .malformed

/-- The members of an array up to its closing bracket, which the answer still holds; `first` tells
that no item stands before. -/
def readElements : (fields : List (Field σ)) → (first : Bool) → σ → Reader σ
  | [], _, draft, bs => .ok (draft, bs)
  | field :: fields, first, draft, bs =>
    match skipSpace bs with
    | [] => .error .malformed
    | 0x5d :: rest =>
      if field.mayBeCutOff then readElements fields first draft (0x5d :: rest)
      else .error .invalidLength
    | b :: rest =>
      if first then do
        let (draft, rest) ← field.read draft (b :: rest)
        readElements fields false draft rest
      else if b = 0x2c then
        match skipSpace rest with
        | 0x5d :: _ => .error .malformed
        | rest => do
          let (draft, rest) ← field.read draft rest
          readElements fields false draft rest
      else .error .malformed

def RecordFormat.read (format : RecordFormat σ α) : Reader α := fun bs =>
  match skipSpace bs with
  | 0x7b :: rest => do
    let (draft, rest) ← readMembers format.fields format.empty rest
    let record ← format.build draft
    .ok (record, rest)
  | 0x5b :: rest => do
    let (draft, rest) ← readElements format.fields true format.empty rest
    let record ← format.build draft
    match skipSpace rest with
    | 0x5d :: rest => .ok (record, rest)
    | _ => .error .malformed
  | bs => .error (mismatch bs)

def readAll (read : Reader α) (bs : Bytes) : Except ReadError α := do
  let (value, rest) ← read bs
  match skipSpace rest with
  | [] => .ok value
  | _ => .error .malformed

end RelyingParty.Json
