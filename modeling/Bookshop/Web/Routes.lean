/-
  Bookshop.Web.Routes — from a request to a response.

  A path leads to a route, and a route and a method to an action; a path that leads nowhere answers 404
  and a method that a route does not know 405, both without a body. A failed action answers a problem
  document. HEAD is GET without the body.
-/

import Bookshop.Search.Results
import Bookshop.Settings
import Bookshop.Web.Message

namespace Bookshop.Web

inductive Route where
  | health
  | authors
  | author (id : String)
  | books
  | book (id : String)
  | search
  deriving DecidableEq, Repr

/-- The route of a path. An identifier is one segment that is not empty; its escapes are replaced. -/
def Route.ofSegments? : List String → Option Route
  | ["health"] => some .health
  | ["api", "authors"] => some .authors
  | ["api", "authors", id] => if id.isEmpty then none else some (.author (String.ofList (unescape id.toList)))
  | ["api", "books"] => some .books
  | ["api", "books", id] => if id.isEmpty then none else some (.book (String.ofList (unescape id.toList)))
  | ["api", "book-search"] => some .search
  | _ => none

/-! ## Parameters -/

def readId (raw : String) : Except Failure Uuid :=
  match Uuid.parse? (Text.trim raw) with
  | some id => .ok id
  | none => .error (.badIdentifier raw)

/-- A whole number; a parameter that is blank counts as absent. -/
def Target.number (target : Target) (name : String) : Except Failure (Option Int) :=
  match (target.first? name).map Text.trim with
  | none => .ok none
  | some value =>
    if value.isEmpty then .ok none
    else match Text.readSigned? value.toList with
      | some n => .ok (some n)
      | none => .error (.badParameter name value)

def Target.page (target : Target) (sizes : PageSizes) : Except Failure Window := do
  let number ← target.number "page[number]"
  let size ← target.number "page[size]"
  return Window.ofClient number size sizes

def Target.embed (target : Target) : Except Failure Embed := Embed.parse (target.all "embed")

def readBody {α : Type} (decode : Json.Decoder α) (body : String) : Except Failure α :=
  (Json.decodeText decode body).mapError .undecodable

/-! ## Actions -/

open CatalogM (decided)

def rowResponse {α : Type} [Storable α] (status : Nat) (row : Stored α) : Response :=
  { Response.ofJson status row.toJson with etag := some row.tag }

def putResponse {α : Type} [Storable α] (path : String) : Placed (Stored α) → Response
  | .created row => { rowResponse 201 row with location := some (path ++ row.id.toText) }
  | .replaced row => rowResponse 200 row

def listAuthors (settings : Settings) (target : Target) : CatalogM Response := do
  let page ← decided (target.page settings.pageSizes)
  return Response.ofJson 200 ((← Authors.list page).toJson Stored.toJson)

def getAuthor (raw : String) (preconditions : Preconditions) : CatalogM Response := do
  let id ← decided (readId raw)
  let author ← Authors.require id
  if preconditions.alreadyHas author.tag then return Response.notModified author.tag
  return rowResponse 200 author

def putAuthor (raw : String) (preconditions : Preconditions) (body : String) : CatalogM Response := do
  let id ← decided (readId raw)
  let request ← decided (readBody Author.Request.decode body)
  return putResponse "/api/authors/" (← Authors.put id preconditions request)

def patchAuthor (raw : String) (preconditions : Preconditions) (body : String) : CatalogM Response := do
  let id ← decided (readId raw)
  let patch ← decided (readBody Author.Patch.decode body)
  return rowResponse 200 (← Authors.patch id preconditions patch)

def deleteAuthor (raw : String) (preconditions : Preconditions) : CatalogM Response := do
  let id ← decided (readId raw)
  Authors.deleteGuarded id preconditions
  return { status := 204 }

def listBooks (settings : Settings) (target : Target) : CatalogM Response := do
  let page ← decided (target.page settings.pageSizes)
  let embed ← decided target.embed
  return Response.ofJson 200 ((← Card.list page embed).toJson Card.toJson)

def getBook (raw : String) (target : Target) (preconditions : Preconditions) : CatalogM Response := do
  let embed ← decided target.embed
  let id ← decided (readId raw)
  let card ← Card.require id embed
  if preconditions.alreadyHas card.book.tag then return Response.notModified card.book.tag
  return { Response.ofJson 200 card.toJson with etag := some card.book.tag }

def putBook (raw : String) (preconditions : Preconditions) (body : String) : CatalogM Response := do
  let id ← decided (readId raw)
  let request ← decided (readBody Book.Request.decode body)
  return putResponse "/api/books/" (← Books.put id preconditions request)

def patchBook (raw : String) (preconditions : Preconditions) (body : String) : CatalogM Response := do
  let id ← decided (readId raw)
  let patch ← decided (readBody Book.Patch.decode body)
  return rowResponse 200 (← Books.patch id preconditions patch)

def deleteBook (raw : String) (preconditions : Preconditions) : CatalogM Response := do
  let id ← decided (readId raw)
  Books.deleteGuarded id preconditions
  return { status := 204 }

def searchBooks (settings : Settings) (target : Target) : CatalogM Response := do
  let page ← decided (target.page settings.pageSizes)
  let found ← Search.search settings.profile {
    title := target.first? "filter[title]"
    author := target.first? "filter[author]"
    text := target.first? "filter[q]"
    genres := target.all "filter[genres]"
    sort := target.first? "sort"
    page }
  return Response.ofJson 200 (found.toJson Search.Found.toJson)

def healthResponse : Response :=
  { status := 200, contentType := some "application/json", body := Json.Value.toText (.record [("ok", .bool true)]) }

/-! ## Routing -/

/-- The action of a method on a route; none if the route does not know the method. -/
def Route.action? (settings : Settings) (route : Route) (target : Target) (request : Request) :
    Option (CatalogM Response) :=
  let preconditions := request.preconditions
  match route, request.method with
  | .health, "GET" => some (return healthResponse)
  | .authors, "GET" => some (listAuthors settings target)
  | .author id, "GET" => some (getAuthor id preconditions)
  | .author id, "PUT" => some (putAuthor id preconditions request.body)
  | .author id, "PATCH" => some (patchAuthor id preconditions request.body)
  | .author id, "DELETE" => some (deleteAuthor id preconditions)
  | .books, "GET" => some (listBooks settings target)
  | .book id, "GET" => some (getBook id target preconditions)
  | .book id, "PUT" => some (putBook id preconditions request.body)
  | .book id, "PATCH" => some (patchBook id preconditions request.body)
  | .book id, "DELETE" => some (deleteBook id preconditions)
  | .search, "GET" => some (searchBooks settings target)
  | _, _ => none

def respondTo (settings : Settings) (request : Request) : StateM Session Response := do
  let target := Target.parse request.uri
  match Route.ofSegments? target.segments with
  | none => return { status := 404 }
  | some route =>
    match route.action? settings target request with
    | none => return { status := 405 }
    | some action =>
      match ← action.run with
      | .ok response => return response
      | .error failure => return Response.ofFailure failure

def respond (settings : Settings) (request : Request) : StateM Session Response := do
  if request.method = "HEAD" then
    let response ← respondTo settings { request with method := "GET" }
    return { response with body := "" }
  else respondTo settings request

end Bookshop.Web
