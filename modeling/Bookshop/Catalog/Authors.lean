/-
  Bookshop.Catalog.Authors — operations on authors, every write gated on a version.

  Deleting an author also takes it from the credits of every book, each book gated on its own version.
  A book that cannot be written is left as it is, and the deletion stands (`removeCredits`).
-/

import Bookshop.Author
import Bookshop.Catalog.Books

namespace Bookshop.Authors

def list (page : Window) : CatalogM (Page (Stored Author)) := CatalogM.call (StoreM.list Author page)

def require (id : Uuid) : CatalogM (Stored Author) := CatalogM.require Author id

/-- The authors of the identifiers in their order; those that do not exist are skipped. -/
def findAll (ids : List Uuid) : CatalogM (List (Stored Author)) :=
  match ids with
  | [] => return []
  | _ => CatalogM.call (StoreM.getMany Author ids)

def create (id : Uuid) (request : Author.Request) : CatalogM (Stored Author) := do
  let name ← CatalogM.decided request.checkedName
  CatalogM.call (StoreM.insert (Author.mk id name))

/-- The name an author has after an update: a blank name keeps the one there is. -/
def renamed (request : Author.Request) (current : Author) : String :=
  match request.checkedName with
  | .ok name => name
  | .error _ => current.name

def update (id : Uuid) (expected : Int) (request : Author.Request) : CatalogM (Stored Author) := do
  let current ← require id
  CatalogM.call (StoreM.update (Author.mk id (renamed request current.data)) expected)

def removeCredit (author : Uuid) (book : Stored Book) : CatalogM Unit := do
  let _ ← Books.update book.id book.version (book.data.uncredited author)

/-- Takes an author from the credits of books, leaving out those that cannot be written. -/
def removeCredits (author : Uuid) : List (Stored Book) → CatalogM Unit
  | [] => return
  | book :: rest => do
    tryCatch (removeCredit author book) (fun _ => return)
    removeCredits author rest

def delete (id : Uuid) (expected : Int) : CatalogM Unit := do
  CatalogM.call (StoreM.delete Author id expected)
  let books ← tryCatch (Books.byAuthor id) (fun _ => return [])
  removeCredits id books

def put (id : Uuid) (preconditions : Preconditions) (request : Author.Request) :
    CatalogM (Placed (Stored Author)) := do
  match ← CatalogM.decided preconditions.purpose with
  | .create => return .created (← create id request)
  | .replace =>
    let (_, expected) ← CatalogM.guarded Author id preconditions
    return .replaced (← update id expected request)

def patch (id : Uuid) (preconditions : Preconditions) (patch : Author.Patch) : CatalogM (Stored Author) := do
  let (current, expected) ← CatalogM.guarded Author id preconditions
  if patch.isEmpty then throw .emptyPatch
  update id expected (patch.merge current.data)

def deleteGuarded (id : Uuid) (preconditions : Preconditions) : CatalogM Unit := do
  let (_, expected) ← CatalogM.guarded Author id preconditions
  delete id expected

end Bookshop.Authors
