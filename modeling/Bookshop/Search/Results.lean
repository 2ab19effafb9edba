/-
  Bookshop.Search.Results — searching the books of a store.

  `execute` reads all books and the names of their authors, keeps the books that satisfy every
  condition of the plan, scores and sorts them, and cuts out one page; so the page and the total count
  speak of the same books. `search` makes a plan and criteria of what a client asks, and executes them.
-/

import Bookshop.Catalog.Card
import Bookshop.Search.Cover
import Bookshop.Search.Order
import Bookshop.Search.Plan

namespace Bookshop.Search

/-! ## Plans on one book -/

/-- The query of an operand; none if there is no such operand or it holds genres. -/
def Plan.query? (plan : Plan) (operand : Nat) : Option Query :=
  match plan.operands[operand]? with
  | some (.text query) => some (Query.parse query plan.profile)
  | _ => none

def Plan.satisfies (plan : Plan) (book : Book) (index : BookIndex) : Condition → Bool
  | .matching field operand =>
    match plan.query? operand with
    | some query => query.matchesIn (index.field field)
    | none => false
  | .genreIn operand =>
    match plan.operands[operand]? with
    | some (.genres genres) => book.genres.any genres.contains
    | _ => false

def Plan.accepts (plan : Plan) (book : Book) (index : BookIndex) : Bool :=
  plan.conditions.all (plan.satisfies book index)

def Plan.score (plan : Plan) (index : BookIndex) : Float :=
  (plan.scoreTerms.filterMap (fun term =>
    (plan.query? term.operand).map (fun query => query.rank (index.field term.field)))).foldl (· + ·) 0.0

/-- The book as it is found, if it satisfies the plan. -/
def Plan.find? (plan : Plan) (names : List String) (book : Stored Book) : Option Found :=
  let index := BookIndex.build book.data names plan.profile
  if plan.accepts book.data index then some ⟨book, names, plan.score index⟩ else none

/-! ## Searching -/

def namesOf (authors : List (Stored Author)) (book : Book) : List String :=
  (Card.credited authors book).map (·.data.name)

def execute (plan : Plan) (criteria : List Criterion) (page : Window) : CatalogM (Page Found) := do
  let books ← CatalogM.call (StoreM.find (fun _ : Book => true))
  let authors ← CatalogM.call (StoreM.getMany Author (Card.authorIds books))
  let found := books.filterMap (fun book => plan.find? (namesOf authors book.data) book)
  return page.apply (sortBy criteria found)

structure Request where
  title : Option String
  author : Option String
  text : Option String
  /-- Genre codes; each text may hold several between commas. -/
  genres : List String
  sort : Option String
  page : Window
  deriving DecidableEq, Repr

def parseGenres (raw : List String) : Except Failure (List Genre) :=
  (raw.flatMap (fun value => Text.commaItems value.toList)).mapM (fun code => Genre.parse (String.ofList code))

def Found.toJson (found : Found) : Json.Value :=
  let id := found.book.data.id
  .record [("id", id.toJson), ("title", .text found.book.data.title), ("authors", Json.Value.ofTexts found.authors),
    ("score", .ofFloat found.score),
    ("_links", .record [("self", .record [("href", .text ("/api/books/" ++ id.toText))])])]

def search (profile : Profile) (request : Request) : CatalogM (Page Found) := do
  let genres ← CatalogM.decided (parseGenres request.genres)
  let plan := Plan.ofFilters profile ⟨request.title, request.author, request.text, genres⟩
  let criteria ← CatalogM.decided (Criterion.parseList plan.hasScore request.sort)
  execute plan criteria request.page

end Bookshop.Search
