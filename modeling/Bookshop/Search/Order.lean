/-
  Bookshop.Search.Order — in which order the books that were found are shown.

  A sort text is a list of properties between commas, each with a `-` in front for descending. The
  score is a property too; without score terms all scores are equal, and the property orders nothing.
  Missing values come after present ones. Books that tie in every property keep the order they had.
-/

import Bookshop.Book
import Bookshop.Text.Lowercase

namespace Bookshop.Search

structure Found where
  book : Stored Book
  /-- The names of its authors in the order of their credits. -/
  authors : List String
  score : Float
  deriving DecidableEq

inductive Direction where
  | ascending
  | descending
  deriving DecidableEq, Repr

inductive Property where
  | title
  /-- The first of the authors' names. -/
  | author
  /-- The first of the genres' codes. -/
  | genre
  | price
  | created
  | updated
  | rank
  /-- The score where there are no score terms. -/
  | constant
  deriving DecidableEq, Repr

structure Criterion where
  property : Property
  direction : Direction
  deriving DecidableEq, Repr

/-! ## Reading a sort text -/

namespace Property

def score (hasScore : Bool) : Property := if hasScore then .rank else .constant

def ofName? (hasScore : Bool) (name : List Char) : Option Property :=
  [("title", Property.title), ("author", .author), ("genre", .genre), ("price", .price), ("createdat", .created),
    ("updatedat", .updated), ("score", score hasScore)].lookup (String.ofList (name.map Char.toLower))

end Property

namespace Criterion

/-- Best scores first, and of equal scores the book that was written last. -/
def usual (hasScore : Bool) : List Criterion := [⟨.score hasScore, .descending⟩, ⟨.updated, .descending⟩]

def splitItem : List Char → Direction × List Char
  | '-' :: rest => (.descending, Text.trimList rest)
  | item => (.ascending, item)

def ofItem (hasScore : Bool) (item : List Char) : Except Failure Criterion :=
  let (direction, name) := splitItem item
  if name.isEmpty then .error (.sortWithoutProperty (String.ofList item))
  else match Property.ofName? hasScore name with
    | some property => .ok ⟨property, direction⟩
    | none => .error (.unknownSortProperty (String.ofList name))

/-- The criteria of a sort text; a blank text asks for the usual ones. -/
def parseList (hasScore : Bool) (raw : Option String) : Except Failure (List Criterion) :=
  match raw with
  | none => .ok (usual hasScore)
  | some text =>
    if Text.isBlankText text then .ok (usual hasScore)
    else (Text.commaItems text.toList).mapM (ofItem hasScore)

end Criterion

/-! ## Comparing -/

/-- The place of a float among all floats: negative ones first, and the negative zero before zero. -/
def floatRank (x : Float) : Int :=
  let bits := x.toBits.toNat
  if bits < 0x8000000000000000 then bits else 0x7FFFFFFFFFFFFFFF - (bits : Int)

def least? (texts : List String) : Option String :=
  match texts with
  | [] => none
  | first :: rest => some (rest.foldl (fun a b => if b < a then b else a) first)

def compareMissingLast (a b : Option String) : Ordering :=
  match a, b with
  | some a, some b => compare a b
  | some _, none => .lt
  | none, some _ => .gt
  | none, none => .eq

def Found.firstAuthor? (found : Found) : Option String := least? (found.authors.map Text.lowercase)

def Found.firstGenre? (found : Found) : Option String := least? (found.book.data.genres.map Genre.code)

def Property.compare (property : Property) (a b : Found) : Ordering :=
  match property with
  | .title => Ord.compare (Text.lowercase a.book.data.title) (Text.lowercase b.book.data.title)
  | .author => compareMissingLast a.firstAuthor? b.firstAuthor?
  | .genre => compareMissingLast a.firstGenre? b.firstGenre?
  | .price => Ord.compare (floatRank a.book.data.price.amount) (floatRank b.book.data.price.amount)
  | .created => Ord.compare a.book.metadata.created b.book.metadata.created
  | .updated => Ord.compare a.book.metadata.updated b.book.metadata.updated
  | .rank => Ord.compare (floatRank a.score) (floatRank b.score)
  | .constant => .eq

def Criterion.compare (criterion : Criterion) (a b : Found) : Ordering :=
  match criterion.direction with
  | .ascending => criterion.property.compare a b
  | .descending => (criterion.property.compare a b).swap

/-- The first criterion that tells two books apart decides. -/
def compareBy : List Criterion → Found → Found → Ordering
  | [], _, _ => .eq
  | criterion :: rest, a, b => (criterion.compare a b).then (compareBy rest a b)

/-- Books that tie keep the order they had. -/
def sortBy (criteria : List Criterion) (found : List Found) : List Found :=
  found.mergeSort (fun a b => compareBy criteria a b != .gt)

end Bookshop.Search
