/-
  Bookshop.Search.Profile — how a text becomes lexemes: words in normal form with their positions.

  A word is a run of word characters, lower-cased. The plain profile keeps every word. The English
  profile drops stop words and takes plural endings off; a dropped word still uses up a position, so
  the distances between the words that stay are those of the text.
-/

import Bookshop.Text.WordChar
import Bookshop.Text.Lowercase

namespace Bookshop.Search

inductive Profile where
  | simple
  | english
  deriving DecidableEq, Repr

namespace Profile

def name : Profile → String
  | .simple => "simple"
  | .english => "english"

/-- Reads the name of a profile, in any ASCII case and with blanks around it; otherwise answers the
name that no profile has. -/
def parse (raw : String) : Except String Profile :=
  let name := Text.lowerAscii (Text.trim raw)
  if name = "simple" then .ok .simple
  else if name = "english" then .ok .english
  else .error name

end Profile

/-! ## Words -/

def words (text : List Char) : List (List Char) :=
  (Text.fieldsWhere (fun c => !Text.isWordChar c) text).map Text.lowerList

def englishStopWords : List String :=
  ["a", "an", "and", "are", "as", "at", "be", "but", "by", "for", "from", "has", "have", "in", "into", "is",
   "it", "its", "of", "on", "or", "that", "the", "their", "this", "to", "was", "were", "will", "with"]

def byteLength (cs : List Char) : Nat := cs.foldr (fun c n => c.utf8Size + n) 0

/-- Takes an English plural ending off. Lengths are counted in bytes. -/
def stem (word : List Char) : List Char :=
  let length := byteLength word
  let ends (ending : String) : Bool := ending.toList.isSuffixOf word
  let without (n : Nat) : List Char := word.take (word.length - n)
  if 4 < length && ends "ies" then without 3 ++ ['y']
  else if 4 < length && ends "sses" then without 2
  else if 3 < length && ends "s" && !ends "ss" && !ends "us" && !ends "is" then without 1
  else word

/-- The normal form of a word; `none` for a word that is dropped. -/
def Profile.normalize (profile : Profile) (word : List Char) : Option String :=
  match profile with
  | .simple => some (String.ofList word)
  | .english => if englishStopWords.contains (String.ofList word) then none else some (String.ofList (stem word))

/-! ## Lexemes -/

structure Lexeme where
  term : String
  position : Nat
  deriving DecidableEq, Repr

def Profile.lexemesFrom (profile : Profile) : Nat → List (List Char) → List Lexeme
  | _, [] => []
  | position, word :: rest =>
    match profile.normalize word with
    | some term => ⟨term, position⟩ :: profile.lexemesFrom (position + 1) rest
    | none => profile.lexemesFrom (position + 1) rest

def Profile.lexemes (profile : Profile) (text : String) : List Lexeme :=
  profile.lexemesFrom 0 (words text.toList)

end Bookshop.Search
