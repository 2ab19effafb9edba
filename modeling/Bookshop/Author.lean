/-
  Bookshop.Author — authors, requests that name one, and patches that rename one.
-/

import Bookshop.Failure
import Bookshop.Storable
import Bookshop.Text.Lowercase

namespace Bookshop

structure Author where
  id : Uuid
  name : String
  deriving DecidableEq, Repr

namespace Author

structure Request where
  name : String
  deriving DecidableEq, Repr

/-- A change of an author; a name that is absent or blank changes nothing. -/
structure Patch where
  name : Option String
  deriving DecidableEq, Repr

/-! ## Requests and patches -/

def Request.checkedName (request : Request) : Except Failure String :=
  if Text.isBlankText request.name then .error .blankName else .ok (Text.trim request.name)

def Patch.newName? (patch : Patch) : Option String :=
  match patch.name with
  | some name => if Text.isBlankText name then none else some (Text.trim name)
  | none => none

def Patch.isEmpty (patch : Patch) : Bool := patch.newName?.isNone

/-- The request for what an author becomes under a patch. -/
def Patch.merge (patch : Patch) (current : Author) : Request :=
  ⟨patch.newName?.getD current.name⟩

/-! ## As JSON -/

structure Draft where
  id : Option Uuid := none
  name : Option String := none

def layout : Json.Decode.Layout Draft Author where
  name := "Author"
  fields := [
    ⟨"id", none, fun v d => do return { d with id := some (← Uuid.decode v) }⟩,
    ⟨"name", none, fun v d => do return { d with name := some (← Json.Decode.text v) }⟩]
  blank := {}
  build := fun missing d => do
    let id ← Json.Decode.required missing 0 "id" d.id
    let name ← Json.Decode.required missing 1 "name" d.name
    return ⟨id, name⟩

def Request.layout : Json.Decode.Layout Request Request where
  name := "AuthorRequest"
  fields := [⟨"name", none, fun v _ => do return ⟨← Json.Decode.text v⟩⟩]
  blank := ⟨""⟩
  build := fun _ request => .ok request

def Patch.layout : Json.Decode.Layout Patch Patch where
  name := "AuthorPatch"
  fields := [⟨"name", none, fun v _ => do return ⟨← Json.Decode.optional Json.Decode.text v⟩⟩]
  blank := ⟨none⟩
  build := fun _ patch => .ok patch

def decode : Json.Decoder Author := layout.decode

def Request.decode : Json.Decoder Request := Request.layout.decode

def Patch.decode : Json.Decoder Patch := Patch.layout.decode

def toJson (author : Author) : Json.Value :=
  .record [("id", author.id.toJson), ("name", .text author.name)]

def Request.toJson (request : Request) : Json.Value := .record [("name", .text request.name)]

def Patch.toJson (patch : Patch) : Json.Value :=
  .record (match patch.name with
    | some name => [("name", .text name)]
    | none => [])

/-- Two authors are the same name to the store if they differ only in case and outer blanks. -/
instance : Storable Author where
  collection := "authors"
  id := Author.id
  naturalKey := fun author => some (Text.lowercase (Text.trim author.name))
  encode := toJson
  decode := decode

end Author

end Bookshop
