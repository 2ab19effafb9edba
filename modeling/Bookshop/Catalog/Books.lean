/-
  Bookshop.Catalog.Books — operations on books, every write gated on a version.

  `create`, `update` and `delete` are told the version; `put`, `patch` and `deleteGuarded` settle it
  from the headers of the request first.
-/

import Bookshop.Book
import Bookshop.Catalog.Operation

namespace Bookshop.Books

def list (page : Window) : CatalogM (Page (Stored Book)) := CatalogM.call (StoreM.list Book page)

def require (id : Uuid) : CatalogM (Stored Book) := CatalogM.require Book id

/-- The books that credit an author, at their current versions. -/
def byAuthor (author : Uuid) : CatalogM (List (Stored Book)) :=
  CatalogM.call (StoreM.find (fun book : Book => book.credits author))

def create (id : Uuid) (request : Book.Request) : CatalogM (Stored Book) := do
  let book ← CatalogM.decided (request.toBook id)
  CatalogM.call (StoreM.insert book)

def update (id : Uuid) (expected : Int) (request : Book.Request) : CatalogM (Stored Book) := do
  let current ← require id
  let book ← CatalogM.decided (request.toBook current.id)
  CatalogM.call (StoreM.update book expected)

def delete (id : Uuid) (expected : Int) : CatalogM Unit := CatalogM.call (StoreM.delete Book id expected)

def put (id : Uuid) (preconditions : Preconditions) (request : Book.Request) :
    CatalogM (Placed (Stored Book)) := do
  match ← CatalogM.decided preconditions.purpose with
  | .create => return .created (← create id request)
  | .replace =>
    let (_, expected) ← CatalogM.guarded Book id preconditions
    return .replaced (← update id expected request)

def patch (id : Uuid) (preconditions : Preconditions) (patch : Book.Patch) : CatalogM (Stored Book) := do
  let (current, expected) ← CatalogM.guarded Book id preconditions
  if patch.isEmpty then throw .emptyPatch
  update id expected (patch.merge current.data)

def deleteGuarded (id : Uuid) (preconditions : Preconditions) : CatalogM Unit := do
  let (_, expected) ← CatalogM.guarded Book id preconditions
  delete id expected

end Bookshop.Books
