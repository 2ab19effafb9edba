/-
  Bookshop.Store.Session — a store as its clients reach it: calls that may fail without effect.

  A session is a store, a pattern of outages, the number of calls made so far, and a clock. The pattern
  says of each call, by its number and by what it asks, whether the store does it or answers a fault
  instead; the clock shows a time at each call, and not always a later one. `Call.attempt` is the only
  way from a session to its store.
-/

import Bookshop.Store.Table

namespace Bookshop

inductive Call where
  | get (collection : String) (id : Uuid)
  | getMany (collection : String) (ids : List Uuid)
  | insert (collection : String) (id : Uuid)
  | update (collection : String) (id : Uuid) (expected : Int)
  | delete (collection : String) (id : Uuid) (expected : Int)
  | find (collection : String)
  | list (collection : String) (page : Window)
  deriving DecidableEq, Repr

/-- The fault of each call that the store does not do. -/
abbrev Outages := Nat → Call → Option StoreFault

structure Session where
  store : Store
  outages : Outages
  calls : Nat
  /-- What the clock shows at each call. Under one that stands still, times are the numbers of the writes. -/
  clock : Nat → Nat := fun _ => 1

/-- A computation with calls of the store in it. A fault ends it and keeps what was done before. -/
abbrev StoreM := ExceptT StoreFault (StateM Session)

namespace Session

def noOutages : Outages := fun _ _ => none

def start (outages : Outages) : Session := { store := Store.empty, outages, calls := 0 }

end Session

/-- One call: the outages are asked first, then the store. -/
def Call.attempt {β : Type} (call : Call) (run : Nat → Store → Except StoreFault (β × Store)) : StoreM β :=
  fun session =>
    let next := { session with calls := session.calls + 1 }
    match session.outages session.calls call with
    | some fault => (.error fault, next)
    | none =>
      match run (session.clock session.calls) session.store with
      | .ok (b, store) => (.ok b, { next with store })
      | .error fault => (.error fault, next)

/-- A call that leaves the store as it is. -/
def Call.ask {β : Type} (call : Call) (read : Store → Except StoreFault β) : StoreM β :=
  call.attempt (fun _ store => (read store).map (fun b => (b, store)))

namespace StoreM

variable {α : Type} [Storable α]

def get (α : Type) [Storable α] (id : Uuid) : StoreM (Option (Stored α)) :=
  (Call.get (Storable.collection α) id).ask (·.get α id)

def getMany (α : Type) [Storable α] (ids : List Uuid) : StoreM (List (Stored α)) :=
  (Call.getMany (Storable.collection α) ids).ask (·.getMany α ids)

def find (p : α → Bool) : StoreM (List (Stored α)) :=
  (Call.find (Storable.collection α)).ask (·.find p)

def list (α : Type) [Storable α] (page : Window) : StoreM (Page (Stored α)) :=
  (Call.list (Storable.collection α) page).ask (·.list α page)

def insert (a : α) : StoreM (Stored α) :=
  (Call.insert (Storable.collection α) (Storable.id a)).attempt (fun now store => store.insert now a)

def update (a : α) (expected : Int) : StoreM (Stored α) :=
  (Call.update (Storable.collection α) (Storable.id a) expected).attempt
    (fun now store => store.update now a expected)

def delete (α : Type) [Storable α] (id : Uuid) (expected : Int) : StoreM Unit :=
  (Call.delete (Storable.collection α) id expected).attempt
    (fun _ store => (store.delete α id expected).map (fun store => ((), store)))

end StoreM

end Bookshop
