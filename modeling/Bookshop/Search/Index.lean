/-
  Bookshop.Search.Index — where the terms of a book stand.

  An index is built by appending texts: the words of a text take the positions after those of the
  texts before it, and all carry the weight of their text. So at most one term stands at a position.
-/

import Bookshop.Book
import Bookshop.Search.Profile

namespace Bookshop.Search

/-- How much a text counts: titles most, then the names of authors, then genres. -/
inductive Weight where
  | a
  | b
  | c
  deriving DecidableEq, Repr

def Weight.value : Weight → Float
  | .a => 1.0
  | .b => 0.4
  | .c => 0.2

structure Posting where
  term : String
  position : Nat
  weight : Weight
  deriving DecidableEq, Repr

structure Index where
  postings : List Posting
  /-- The first position that no text has used. A stop word at the end of a text does not count. -/
  next : Nat
  deriving DecidableEq, Repr

namespace Index

def empty : Index := ⟨[], 0⟩

def append (index : Index) (text : String) (weight : Weight) (profile : Profile) : Index :=
  let added := (profile.lexemes text).map (fun l => Posting.mk l.term (index.next + l.position) weight)
  ⟨index.postings ++ added, added.foldl (fun next p => max next (p.position + 1)) index.next⟩

def ofText (text : String) (weight : Weight) (profile : Profile) : Index := empty.append text weight profile

def places (index : Index) (term : String) : List Posting := index.postings.filter (·.term == term)

def hasAt (index : Index) (term : String) (position : Nat) : Bool :=
  index.postings.any (fun p => p.term == term && p.position == position)

end Index

/-! ## The indexes of a book -/

inductive Field where
  | title
  | authors
  /-- Title, authors and genres together. -/
  | all
  deriving DecidableEq, Repr

structure BookIndex where
  title : Index
  authors : Index
  all : Index
  deriving DecidableEq, Repr

namespace BookIndex

def joined (texts : List String) : String := " ".intercalate texts

/-- The indexes of a book; the names are those of its authors in the order of their credits. -/
def build (book : Book) (names : List String) (profile : Profile) : BookIndex :=
  let authors := joined names
  let genres := joined (book.genres.map Genre.label)
  { title := Index.ofText book.title .a profile
    authors := Index.ofText authors .b profile
    all := ((Index.empty.append book.title .a profile).append authors .b profile).append genres .c profile }

def field (index : BookIndex) : Field → Index
  | .title => index.title
  | .authors => index.authors
  | .all => index.all

end BookIndex

end Bookshop.Search
