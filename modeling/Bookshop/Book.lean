/-
  Bookshop.Book — books, requests for one, and patches of one.

  A stored book is in normal form: a trimmed title, and no author or genre twice. `Request.toBook`
  brings a request into that form, and every write of a book goes through it.
-/

import Bookshop.Genre
import Bookshop.Price
import Bookshop.Storable

namespace Bookshop

/-- Each item once, where it first stands. -/
def distinct {α : Type} [DecidableEq α] : List α → List α
  | [] => []
  | a :: rest => a :: (distinct rest).filter (· ≠ a)

structure Book where
  id : Uuid
  title : String
  /-- The authors in the order of their credits. -/
  authors : List Uuid
  genres : List Genre
  price : Price
  deriving DecidableEq

namespace Book

structure Request where
  title : String
  authors : List Uuid
  genres : List Genre
  price : Price
  deriving DecidableEq

/-- A change of a book; absent fields and a blank title change nothing. -/
structure Patch where
  title : Option String
  authors : Option (List Uuid)
  genres : Option (List Genre)
  price : Option Price
  deriving DecidableEq

def credits (book : Book) (author : Uuid) : Bool := book.authors.contains author

/-! ## Requests and patches -/

/-- The book in normal form that a request asks for. -/
def Request.toBook (request : Request) (id : Uuid) : Except Failure Book :=
  if Text.isBlankText request.title then .error .blankTitle
  else .ok ⟨id, Text.trim request.title, distinct request.authors, distinct request.genres, request.price⟩

/-- The request for a book as it is, with one author taken from its credits. -/
def uncredited (book : Book) (author : Uuid) : Request :=
  ⟨book.title, book.authors.filter (· ≠ author), book.genres, book.price⟩

def Patch.newTitle? (patch : Patch) : Option String :=
  match patch.title with
  | some title => if Text.isBlankText title then none else some (Text.trim title)
  | none => none

def Patch.isEmpty (patch : Patch) : Bool :=
  patch.newTitle?.isNone && patch.authors.isNone && patch.genres.isNone && patch.price.isNone

/-- The request for what a book becomes under a patch. -/
def Patch.merge (patch : Patch) (current : Book) : Request :=
  ⟨patch.newTitle?.getD current.title, patch.authors.getD current.authors,
    patch.genres.getD current.genres, patch.price.getD current.price⟩

/-! ## As JSON -/

def decodeAuthors : Json.Decoder (List Uuid) := Json.Decode.list Uuid.decode

def decodeGenres : Json.Decoder (List Genre) := Json.Decode.list Genre.decode

structure Draft where
  id : Option Uuid := none
  title : Option String := none
  authors : Option (List Uuid) := none
  genres : Option (List Genre) := none
  price : Option Price := none

def layout : Json.Decode.Layout Draft Book where
  name := "Book"
  fields := [
    ⟨"id", none, fun v d => do return { d with id := some (← Uuid.decode v) }⟩,
    ⟨"title", none, fun v d => do return { d with title := some (← Json.Decode.text v) }⟩,
    ⟨"authors", none, fun v d => do return { d with authors := some (← decodeAuthors v) }⟩,
    ⟨"genres", none, fun v d => do return { d with genres := some (← decodeGenres v) }⟩,
    ⟨"price", none, fun v d => do return { d with price := some (← Price.decode v) }⟩]
  blank := {}
  build := fun missing d => do
    let id ← Json.Decode.required missing 0 "id" d.id
    let title ← Json.Decode.required missing 1 "title" d.title
    let authors ← Json.Decode.required missing 2 "authors" d.authors
    let genres ← Json.Decode.required missing 3 "genres" d.genres
    let price ← Json.Decode.required missing 4 "price" d.price
    return ⟨id, title, authors, genres, price⟩

def Request.layout : Json.Decode.Layout Draft Request where
  name := "BookRequest"
  fields := [
    ⟨"title", none, fun v d => do return { d with title := some (← Json.Decode.text v) }⟩,
    ⟨"authors", some "authorIds", fun v d => do return { d with authors := some (← decodeAuthors v) }⟩,
    ⟨"genres", none, fun v d => do return { d with genres := some (← decodeGenres v) }⟩,
    ⟨"price", none, fun v d => do return { d with price := some (← Price.decode v) }⟩]
  blank := {}
  build := fun missing d => do
    let title ← Json.Decode.required missing 0 "title" d.title
    let price ← Json.Decode.required missing 3 "price" d.price
    return ⟨title, d.authors.getD [], d.genres.getD [], price⟩

def Patch.layout : Json.Decode.Layout Patch Patch where
  name := "BookPatch"
  fields := [
    ⟨"title", none, fun v p => do return { p with title := ← Json.Decode.optional Json.Decode.text v }⟩,
    ⟨"authors", some "authorIds", fun v p => do return { p with authors := ← Json.Decode.optional decodeAuthors v }⟩,
    ⟨"genres", none, fun v p => do return { p with genres := ← Json.Decode.optional decodeGenres v }⟩,
    ⟨"price", none, fun v p => do return { p with price := ← Json.Decode.optional Price.decode v }⟩]
  blank := ⟨none, none, none, none⟩
  build := fun _ patch => .ok patch

def decode : Json.Decoder Book := layout.decode

def Request.decode : Json.Decoder Request := Request.layout.decode

def Patch.decode : Json.Decoder Patch := Patch.layout.decode

def authorsToJson (authors : List Uuid) : Json.Value := .list (authors.map Uuid.toJson)

def genresToJson (genres : List Genre) : Json.Value := .list (genres.map Genre.toJson)

def toJson (book : Book) : Json.Value :=
  .record [("id", book.id.toJson), ("title", .text book.title), ("authors", authorsToJson book.authors),
    ("genres", genresToJson book.genres), ("price", book.price.toJson)]

def Request.toJson (request : Request) : Json.Value :=
  .record [("title", .text request.title), ("authors", authorsToJson request.authors),
    ("genres", genresToJson request.genres), ("price", request.price.toJson)]

/-- A member of a record that is left out where its value is absent. -/
def member {α : Type} (name : String) (write : α → Json.Value) : Option α → List (String × Json.Value)
  | some a => [(name, write a)]
  | none => []

def Patch.toJson (patch : Patch) : Json.Value :=
  .record (member "title" .text patch.title ++ member "authors" authorsToJson patch.authors ++
    member "genres" genresToJson patch.genres ++ member "price" Price.toJson patch.price)

instance : Storable Book where
  collection := "books"
  id := Book.id
  naturalKey := fun _ => none
  encode := toJson
  decode := decode

end Book

end Bookshop
