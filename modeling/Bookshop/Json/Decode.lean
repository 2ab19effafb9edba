/-
  Bookshop.Json.Decode — from a JSON value to a value of the domain, or the reason why not.

  A record of the domain may be written as a JSON record or as a list of its fields in order. The
  members of a JSON record are looked at in the order they are written: a name that stands for no
  field is skipped, a field that was already given is refused before its value is looked at. Fields
  that nobody gave are dealt with at the end, by the function that puts the record together.
-/

import Bookshop.Json.Reader

namespace Bookshop.Json

inductive DecodeError where
  /-- The text is not JSON at all. -/
  | malformed
  | missingField (name : String)
  | duplicateField (name : String)
  | wrongType (found : Value) (expected : String)
  /-- A list ends before a field that must be given. -/
  | tooShort (length : Nat) (expected : String)
  /-- A list goes on after the last field. -/
  | tooLong
  /-- A value of the right type that the domain refuses. -/
  | refused (reason : String)

def DecodeError.message : DecodeError → String
  | .malformed => "invalid JSON"
  | .missingField name => "missing field `" ++ name ++ "`"
  | .duplicateField name => "duplicate field `" ++ name ++ "`"
  | .wrongType found expected => "invalid type: " ++ found.describe ++ ", expected " ++ expected
  | .tooShort length expected => "invalid length " ++ toString length ++ ", expected " ++ expected
  | .tooLong => "trailing characters"
  | .refused reason => reason

abbrev Decoder (α : Type) := Value → Except DecodeError α

namespace Decode

/-! ## Plain values -/

def text : Decoder String
  | .text s => .ok s
  | v => .error (.wrongType v "a string")

def list {α : Type} (item : Decoder α) : Decoder (List α)
  | .list items => items.mapM item
  | v => .error (.wrongType v "a sequence")

/-- Null stands for an absent value. -/
def optional {α : Type} (decode : Decoder α) : Decoder (Option α)
  | .null => .ok none
  | v => (decode v).map some

/-! ## Records -/

/-- A field of a record: its name, another name for it, and how its value is added to a draft. -/
structure Field (δ : Type) where
  name : String
  otherName : Option String := none
  add : Value → δ → Except DecodeError δ

def Field.isNamed {δ : Type} (f : Field δ) (name : String) : Bool :=
  f.name == name || f.otherName == some name

/-- What is wrong when the field with this index and name was not given. -/
abbrev Missing := Nat → String → DecodeError

/-- How a record is read: a draft is filled field by field and then put together. -/
structure Layout (δ α : Type) where
  name : String
  fields : List (Field δ)
  blank : δ
  build : Missing → δ → Except DecodeError α

variable {δ α : Type}

def Layout.described (l : Layout δ α) : String :=
  "struct " ++ l.name ++ " with " ++ toString l.fields.length ++
    (if l.fields.length = 1 then " element" else " elements")

/-- Adds the members of a JSON record; `given` holds the names of the fields added before. -/
def Layout.addMembers (l : Layout δ α) (given : List String) (draft : δ) :
    List (String × Value) → Except DecodeError δ
  | [] => .ok draft
  | (name, v) :: rest =>
    match l.fields.find? (·.isNamed name) with
    | none => l.addMembers given draft rest
    | some field =>
      if field.name ∈ given then .error (.duplicateField field.name)
      else do
        let draft ← field.add v draft
        l.addMembers (field.name :: given) draft rest

def addItems : List (Field δ) → List Value → δ → Except DecodeError δ
  | field :: fields, v :: rest, draft => do
    let draft ← field.add v draft
    addItems fields rest draft
  | _, _, draft => .ok draft

def Layout.decode (l : Layout δ α) : Decoder α
  | .record members => do
    let draft ← l.addMembers [] l.blank members
    l.build (fun _ name => .missingField name) draft
  | .list items => do
    let draft ← addItems l.fields items l.blank
    let result ← l.build (fun index _ => .tooShort index l.described) draft
    if items.length > l.fields.length then .error .tooLong else .ok result
  | v => .error (.wrongType v ("struct " ++ l.name))

def required (missing : Missing) (index : Nat) (name : String) : Option α → Except DecodeError α
  | some a => .ok a
  | none => .error (missing index name)

end Decode

def decodeText {α : Type} (decode : Decoder α) (s : String) : Except DecodeError α :=
  match parse? s with
  | some v => decode v
  | none => .error .malformed

end Bookshop.Json
