/-
  Bookshop.Genre — the fixed set of genres. A genre is stored by its code and searched by its label.
-/

import Bookshop.Failure
import Bookshop.Text.Blank

namespace Bookshop

inductive Genre where
  | fiction
  | nonFiction
  | mystery
  | scienceFiction
  | fantasy
  | biography
  | history
  | children
  | romance
  | selfHelp
  deriving DecidableEq, Repr

namespace Genre

def all : List Genre :=
  [.fiction, .nonFiction, .mystery, .scienceFiction, .fantasy, .biography, .history, .children, .romance,
   .selfHelp]

def code : Genre → String
  | .fiction => "FICTION"
  | .nonFiction => "NON_FICTION"
  | .mystery => "MYSTERY"
  | .scienceFiction => "SCIENCE_FICTION"
  | .fantasy => "FANTASY"
  | .biography => "BIOGRAPHY"
  | .history => "HISTORY"
  | .children => "CHILDREN"
  | .romance => "ROMANCE"
  | .selfHelp => "SELF_HELP"

/-- The name for readers, and the text under which a book of the genre is found. -/
def label : Genre → String
  | .fiction => "Fiction"
  | .nonFiction => "Non-fiction"
  | .mystery => "Mystery"
  | .scienceFiction => "Science Fiction"
  | .fantasy => "Fantasy"
  | .biography => "Biography"
  | .history => "History"
  | .children => "Children"
  | .romance => "Romance"
  | .selfHelp => "Self-help"

/-- Codes are read in any ASCII case and with blanks around them. -/
def parse (raw : String) : Except Failure Genre :=
  let code := Text.trim raw
  match all.find? (fun genre => genre.code == Text.upperAscii code) with
  | some genre => .ok genre
  | none => .error (.unknownGenre code)

def toJson (genre : Genre) : Json.Value := .text genre.code

def decode : Json.Decoder Genre := fun v => do
  let raw ← Json.Decode.text v
  (parse raw).mapError (fun failure => .refused failure.message)

end Genre

end Bookshop
