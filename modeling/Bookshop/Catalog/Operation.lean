/-
  Bookshop.Catalog.Operation — operations of the catalog: computations over a session that may fail.

  What both authors and books need stands here: reading a row that must be there, and settling the
  version on which a conditional write is gated.
-/

import Bookshop.Preconditions
import Bookshop.Store.Session

namespace Bookshop

/-- An operation of the catalog. A failure ends it and keeps what was done before. -/
abbrev CatalogM := ExceptT Failure (StateM Session)

namespace CatalogM

variable {α : Type}

def call (m : StoreM α) : CatalogM α := ExceptT.adapt Failure.ofFault m

def decided (result : Except Failure α) : CatalogM α := ExceptT.mk (pure result)

variable [Storable α]

def require (α : Type) [Storable α] (id : Uuid) : CatalogM (Stored α) := do
  match ← call (StoreM.get α id) with
  | some row => return row
  | none => throw (.missing (Failure.nounOf (Storable.collection α)) id)

/-- The row of an identifier, and the version that the headers assert for it. -/
def guarded (α : Type) [Storable α] (id : Uuid) (preconditions : Preconditions) : CatalogM (Stored α × Int) := do
  let current ← require α id
  let expected ← decided (preconditions.gateVersion current)
  return (current, expected)

end CatalogM

/-- What a PUT did. -/
inductive Placed (α : Type) where
  | created (row : α)
  | replaced (row : α)
  deriving DecidableEq, Repr

namespace Placed

variable {α : Type}

def isCreated : Placed α → Bool
  | .created _ => true
  | .replaced _ => false

def row : Placed α → α
  | .created row => row
  | .replaced row => row

end Placed

end Bookshop
