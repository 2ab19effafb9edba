/-
  Bookshop.Storable — what a type needs so that its values can be rows of the store, and the data
  that a row carries besides the value itself.
-/

import Bookshop.EntityTag
import Bookshop.Json.Decode

namespace Bookshop

/-- A type whose values are kept in a collection of their own, as JSON. -/
class Storable (α : Type) where
  collection : String
  id : α → Uuid
  /-- A second key that no two rows of the collection may share; a type may do without. -/
  naturalKey : α → Option String
  encode : α → Json.Value
  decode : Json.Decoder α

/-- Version and times of a row, the times in microseconds. -/
structure Metadata where
  created : Nat
  updated : Nat
  version : Int
  deriving DecidableEq, Repr

structure Stored (α : Type) where
  data : α
  metadata : Metadata
  deriving DecidableEq, Repr

namespace Stored

variable {α : Type} [Storable α]

def id (row : Stored α) : Uuid := Storable.id row.data

def version (row : Stored α) : Int := row.metadata.version

/-- The tag of exactly this state of the row. -/
def tag (row : Stored α) : EntityTag := EntityTag.generate row.id row.version

end Stored

def Metadata.toJson (m : Metadata) : Json.Value :=
  .record [("createdAt", .ofNat m.created), ("updatedAt", .ofNat m.updated), ("version", .ofInt m.version)]

def Stored.toJson {α : Type} [Storable α] (row : Stored α) : Json.Value :=
  .record ((Storable.encode row.data).members ++ [("metadata", row.metadata.toJson)])

end Bookshop
