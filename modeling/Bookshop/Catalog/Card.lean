/-
  Bookshop.Catalog.Card — books as readers see them, with their authors beside them if asked.

  The authors of all books of a page are fetched in one call, each once.
-/

import Bookshop.Catalog.Authors

namespace Bookshop

structure Embed where
  authors : Bool
  deriving DecidableEq, Repr

namespace Embed

def add (embed : Embed) (token : List Char) : Except Failure Embed :=
  let option := String.ofList (Text.lowerList (Text.trimList token))
  if option = "" then .ok embed
  else if option = "authors" then .ok { embed with authors := true }
  else .error (.unknownEmbed option)

/-- Reads options that stand in several texts, separated by commas. -/
def parse (values : List String) : Except Failure Embed :=
  (values.flatMap (fun value => Text.splitWhere (· == ',') value.toList)).foldlM add ⟨false⟩

end Embed

structure Card where
  book : Stored Book
  /-- The authors that exist, in the order of their credits; absent if there are none to show. -/
  authors : Option (List (Stored Author))
  deriving DecidableEq

namespace Card

/-- The authors of books, each once, in the order of their identifiers. -/
def authorIds (books : List (Stored Book)) : List Uuid :=
  (distinct (books.flatMap (·.data.authors))).mergeSort Uuid.le

/-- The authors among `found` that a book credits, in the order of its credits. -/
def credited (found : List (Stored Author)) (book : Book) : List (Stored Author) :=
  book.authors.filterMap (fun id => found.find? (·.id == id))

def resolve (books : List (Stored Book)) (embed : Embed) : CatalogM (List (Stored Author)) :=
  if embed.authors then Authors.findAll (authorIds books) else return []

def make (found : List (Stored Author)) (embed : Embed) (book : Stored Book) : Card :=
  match embed.authors, credited found book.data with
  | true, a :: rest => ⟨book, some (a :: rest)⟩
  | _, _ => ⟨book, none⟩

def list (page : Window) (embed : Embed) : CatalogM (Page Card) := do
  let books ← Books.list page
  let found ← resolve books.content embed
  return books.map (make found embed)

def require (id : Uuid) (embed : Embed) : CatalogM Card := do
  let book ← Books.require id
  let found ← resolve [book] embed
  return make found embed book

def toJson (card : Card) : Json.Value :=
  .record (card.book.toJson.members ++
    match card.authors with
    | some authors => [("_embedded", .record [("authors", .list (authors.map Stored.toJson))])]
    | none => [])

end Card

end Bookshop
