/-
  Bookshop.Store.Table — the rows of all collections, and the atomic calls on them.

  A row keeps its value as JSON, beside its metadata, its natural key and its serial number. What is kept is the text of
  that JSON, and a row is read from it; here the JSON stands for its text. The two say the same as long as the amounts of
  prices are read from their text as what they were. That is assumed of every row that is read (`Row.read`), and named
  where it matters (`Price.ReadsBack`).

  Updates and deletions name the version they expect and are refused if the row is at another; of two writers
  that start from one version, one is refused. A refused call answers a fault and no new store, so it
  changes nothing.

  Every insertion and update has a time, later than that of all before it even where the clock stands
  still or is set back (`Store.tick`). Serials number the insertions. Collections are read in the order
  of the serials, and listed in the order of the last writes.
-/

import Bookshop.Failure
import Bookshop.Paging
import Bookshop.Storable

namespace Bookshop

structure Row where
  collection : String
  id : Uuid
  body : Json.Value
  metadata : Metadata
  naturalKey : Option String
  serial : Nat

structure Store where
  rows : List Row
  nextSerial : Nat
  /-- The time of the last insertion or update. -/
  lastTime : Option Nat

/-- Reads the value of a row back, on the assumption that its text is read as its JSON. So it is for all rows but those
of some books: an amount with sixteen digits or more, a tiny or a huge one may be read as a float next to it. -/
def Row.read {α : Type} [Storable α] (row : Row) : Except StoreFault (Stored α) :=
  match Storable.decode row.body with
  | .ok data => .ok ⟨data, row.metadata⟩
  | .error error => .error (.unreadable error.message)

def Row.isAt (collection : String) (id : Uuid) (row : Row) : Bool := row.collection == collection && row.id == id

/-- The text under which a row is kept: its collection, a colon and its identifier. -/
def Row.key (row : Row) : List Char := row.collection.toList ++ ':' :: row.id.write

/-- Does the key of a row begin with a collection and a colon? Names without a colon are told apart so. -/
def Row.isUnder (collection : String) (row : Row) : Bool := (collection.toList ++ [':']).isPrefixOf row.key

def Row.fresh {α : Type} [Storable α] (a : α) (time serial : Nat) : Row :=
  ⟨Storable.collection α, Storable.id a, Storable.encode a, ⟨time, time, 0⟩, Storable.naturalKey a, serial⟩

def Row.renewed {α : Type} [Storable α] (row : Row) (a : α) (time : Nat) : Row :=
  { row with
    body := Storable.encode a
    metadata := ⟨row.metadata.created, time, row.metadata.version + 1⟩
    naturalKey := Storable.naturalKey a }

/-- Is the last write of a row before that of another? The serial decides between equals. -/
def Row.writtenBefore (a b : Row) : Bool :=
  a.metadata.updated < b.metadata.updated ||
    (a.metadata.updated == b.metadata.updated && a.serial ≤ b.serial)

namespace Store

def empty : Store := ⟨[], 0, none⟩

/-! ## Rows -/

def row? (s : Store) (collection : String) (id : Uuid) : Option Row := s.rows.find? (Row.isAt collection id)

def keyTaken (s : Store) (collection : String) (key : Option String) (id : Uuid) : Bool :=
  s.rows.any (fun row => key.isSome && row.isUnder collection && !row.isAt collection id && row.naturalKey == key)

/-- The rows of a collection in the order in which they were inserted. -/
def inOrder (s : Store) (collection : String) : List Row :=
  (s.rows.filter (Row.isUnder collection)).mergeSort (fun a b => a.serial ≤ b.serial)

/-- The rows of a collection in the order of their last writes. -/
def byLastWrite (s : Store) (collection : String) : List Row := (s.inOrder collection).mergeSort Row.writtenBefore

variable {α : Type} [Storable α]

/-! ## Reads -/

def get (s : Store) (α : Type) [Storable α] (id : Uuid) : Except StoreFault (Option (Stored α)) :=
  match s.row? (Storable.collection α) id with
  | some row => row.read.map some
  | none => .ok none

/-- The rows of the identifiers in their order; those without a row are skipped. -/
def getMany (s : Store) (α : Type) [Storable α] (ids : List Uuid) : Except StoreFault (List (Stored α)) :=
  (ids.filterMap (s.row? (Storable.collection α))).mapM Row.read

def find (s : Store) (p : α → Bool) : Except StoreFault (List (Stored α)) := do
  let all ← (s.inOrder (Storable.collection α)).mapM Row.read
  return all.filter (fun row => p row.data)

def list (s : Store) (α : Type) [Storable α] (page : Window) : Except StoreFault (Page (Stored α)) := do
  let rows := s.byLastWrite (Storable.collection α)
  let content ← (page.slice rows).mapM Row.read
  return Page.make content page rows.length

/-! ## Writes -/

/-- The time of a write: what the clock shows, or just after the last write where the clock is not past it. -/
def tick (s : Store) (now : Nat) : Nat :=
  match s.lastTime with
  | some last => if now ≤ last then last + 1 else now
  | none => now

def adding (s : Store) (now : Nat) (a : α) : Store :=
  ⟨Row.fresh a (s.tick now) s.nextSerial :: s.rows, s.nextSerial + 1, some (s.tick now)⟩

def replacing (s : Store) (now : Nat) (a : α) : Store :=
  let renew (row : Row) : Row :=
    if row.isAt (Storable.collection α) (Storable.id a) then row.renewed a (s.tick now) else row
  { s with rows := s.rows.map renew, lastTime := some (s.tick now) }

def removing (s : Store) (collection : String) (id : Uuid) : Store :=
  { s with rows := s.rows.filter (fun row => !row.isAt collection id) }

def insert (s : Store) (now : Nat) (a : α) : Except StoreFault (Stored α × Store) :=
  let collection := Storable.collection α
  let id := Storable.id a
  let key := Storable.naturalKey a
  if (s.row? collection id).isSome then .error (.idTaken collection id)
  else if s.keyTaken collection key id then .error (.keyTaken collection (key.getD ""))
  else .ok (⟨a, (Row.fresh a (s.tick now) s.nextSerial).metadata⟩, s.adding now a)

def update (s : Store) (now : Nat) (a : α) (expected : Int) : Except StoreFault (Stored α × Store) :=
  let collection := Storable.collection α
  let id := Storable.id a
  let key := Storable.naturalKey a
  match s.row? collection id with
  | none => .error (.noSuchRow collection id)
  | some row =>
    if row.metadata.version ≠ expected then
      .error (.versionConflict collection id expected row.metadata.version)
    else if s.keyTaken collection key id then .error (.keyTaken collection (key.getD ""))
    else .ok (⟨a, (row.renewed a (s.tick now)).metadata⟩, s.replacing now a)

def delete (s : Store) (α : Type) [Storable α] (id : Uuid) (expected : Int) : Except StoreFault Store :=
  let collection := Storable.collection α
  match s.row? collection id with
  | none => .error (.noSuchRow collection id)
  | some row =>
    if row.metadata.version ≠ expected then
      .error (.versionConflict collection id expected row.metadata.version)
    else .ok (s.removing collection id)

end Store

end Bookshop
