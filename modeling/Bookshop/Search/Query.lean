/-
  Bookshop.Search.Query — queries in the style of web search.

  Words that stand side by side must all occur, words in quotes must stand next to each other in their
  order, a `-` in front says that a word or phrase must not occur, and `or` separates alternatives. A
  text is cut into pieces by a scanner with four modes (`Mode.step`), so scanning two texts one after
  the other is scanning the second from where the first left off. Pieces become clauses, and an
  alternative without clauses is dropped.
-/

import Bookshop.Search.Index

namespace Bookshop.Search

/-! ## Pieces -/

structure Piece where
  negated : Bool
  quoted : Bool
  text : List Char
  deriving DecidableEq, Repr

/-- Where the scanner stands. A word or phrase in progress has its characters so far, newest first. -/
inductive Mode where
  | between
  | afterDash
  | inWord (negated : Bool) (done : List Char)
  | inPhrase (negated : Bool) (done : List Char)
  deriving DecidableEq, Repr

/-- The piece that ends here, if one does, and the mode after one more character. A dash before a
blank is dropped; a quote ends a word and begins a phrase. -/
def Mode.step : Mode → Char → Option Piece × Mode
  | .between, c =>
    if Text.isBlank c then (none, .between)
    else if c = '-' then (none, .afterDash)
    else if c = '"' then (none, .inPhrase false [])
    else (none, .inWord false [c])
  | .afterDash, c =>
    if Text.isBlank c then (none, .between)
    else if c = '"' then (none, .inPhrase true [])
    else (none, .inWord true [c])
  | .inWord negated done, c =>
    if Text.isBlank c then (some ⟨negated, false, done.reverse⟩, .between)
    else if c = '"' then (some ⟨negated, false, done.reverse⟩, .inPhrase false [])
    else (none, .inWord negated (c :: done))
  | .inPhrase negated done, c =>
    if c = '"' then (some ⟨negated, true, done.reverse⟩, .between)
    else (none, .inPhrase negated (c :: done))

/-- The piece in progress at the end of the text; a phrase need not be closed. -/
def Mode.finish : Mode → List Piece
  | .between | .afterDash => []
  | .inWord negated done => [⟨negated, false, done.reverse⟩]
  | .inPhrase negated done => [⟨negated, true, done.reverse⟩]

def Mode.scan : Mode → List Char → List Piece
  | mode, [] => mode.finish
  | mode, c :: cs =>
    match mode.step c with
    | (some piece, next) => piece :: next.scan cs
    | (none, next) => next.scan cs

def pieces (text : List Char) : List Piece := Mode.between.scan text

/-- The bare word `or`, in any ASCII case. -/
def Piece.isOr (piece : Piece) : Bool :=
  !piece.negated && !piece.quoted && piece.text.map Char.toLower == ['o', 'r']

/-! ## Clauses -/

/-- Terms with their distances from the first of them, and whether they must not occur so. -/
structure Clause where
  negated : Bool
  terms : List (Nat × String)
  deriving DecidableEq, Repr

/-- The clause of a piece; none if it has no lexemes. -/
def Piece.clause? (piece : Piece) (profile : Profile) : Option Clause :=
  match profile.lexemes (String.ofList piece.text) with
  | [] => none
  | first :: rest =>
    some ⟨piece.negated, (first :: rest).map (fun l => (l.position - first.position, l.term))⟩

/-- Alternatives, each a list of clauses that must all hold. -/
structure Query where
  alternatives : List (List Clause)
  deriving DecidableEq, Repr

namespace Query

def ofPieces (ps : List Piece) (profile : Profile) : Query :=
  ⟨((Text.splitWhere Piece.isOr ps).map (·.filterMap (·.clause? profile))).filter (fun alt => !alt.isEmpty)⟩

def parse (text : String) (profile : Profile) : Query := ofPieces (pieces text.toList) profile

def isEmpty (q : Query) : Bool := q.alternatives.isEmpty

end Query

/-! ## Matching -/

/-- The positions that one occurrence of a clause covers, both ends included. -/
structure Hit where
  first : Nat
  last : Nat
  weight : Weight
  deriving DecidableEq, Repr

def Clause.span (clause : Clause) : Nat := ((clause.terms.getLast?).map (·.1)).getD 0

/-- The places where all terms of a clause stand at their distances. -/
def Clause.hits (clause : Clause) (index : Index) : List Hit :=
  match clause.terms with
  | [] => []
  | (_, head) :: rest =>
    ((index.places head).filter (fun p =>
      rest.all (fun t => index.hasAt t.2 (p.position + t.1)))).map
        (fun p => ⟨p.position, p.position + clause.span, p.weight⟩)

def Clause.occursIn (clause : Clause) (index : Index) : Bool := !(clause.hits index).isEmpty

def Clause.holds (clause : Clause) (index : Index) : Bool := clause.occursIn index != clause.negated

def Query.matchesIn (q : Query) (index : Index) : Bool :=
  q.alternatives.any (fun alt => alt.all (·.holds index))

end Bookshop.Search
