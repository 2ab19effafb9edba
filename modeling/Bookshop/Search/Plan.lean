/-
  Bookshop.Search.Plan — what a search asks, before anything is looked up.

  Filters become conditions and score terms that refer to operands by their index; what a client typed
  stands in the operands only. Blank filters are left out.
-/

import Bookshop.Search.Index

namespace Bookshop.Search

/-- A value that conditions and score terms refer to. -/
inductive Operand where
  | text (query : String)
  | genres (codes : List Genre)
  deriving DecidableEq, Repr

inductive Condition where
  /-- The field satisfies the query of the operand. -/
  | matching (field : Field) (operand : Nat)
  /-- The book has one of the genres of the operand. -/
  | genreIn (operand : Nat)
  deriving DecidableEq, Repr

structure ScoreTerm where
  field : Field
  operand : Nat
  deriving DecidableEq, Repr

structure Plan where
  profile : Profile
  conditions : List Condition
  /-- Summed to the score of a book. -/
  scoreTerms : List ScoreTerm
  operands : List Operand
  deriving DecidableEq, Repr

structure Filters where
  title : Option String
  author : Option String
  /-- Title, authors and genres together. -/
  text : Option String
  genres : List Genre
  deriving DecidableEq, Repr

/-- A text with its blanks collapsed, unless nothing is left. -/
def tidy (raw : Option String) : Option String := (raw.map Text.collapse).filter (· ≠ "")

namespace Plan

def empty (profile : Profile) : Plan := ⟨profile, [], [], []⟩

def hasScore (plan : Plan) : Bool := !plan.scoreTerms.isEmpty

def isUnfiltered (plan : Plan) : Bool := plan.conditions.isEmpty

def filterText (plan : Plan) (field : Field) (raw : Option String) : Plan :=
  match tidy raw with
  | none => plan
  | some query =>
    let operand := plan.operands.length
    { plan with
      conditions := plan.conditions ++ [.matching field operand]
      scoreTerms := plan.scoreTerms ++ [⟨field, operand⟩]
      operands := plan.operands ++ [.text query] }

def filterGenres (plan : Plan) (genres : List Genre) : Plan :=
  if genres.isEmpty then plan
  else
    { plan with
      conditions := plan.conditions ++ [.genreIn plan.operands.length]
      operands := plan.operands ++ [.genres (distinct genres)] }

def ofFilters (profile : Profile) (filters : Filters) : Plan :=
  ((((empty profile).filterText .title filters.title).filterText .authors filters.author).filterText
    .all filters.text).filterGenres filters.genres

end Plan

end Bookshop.Search
