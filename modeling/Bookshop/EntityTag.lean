/-
  Bookshop.EntityTag — strong entity tags, and what a header that lists tags says about one.

  The tag of a row is the digest of its identifier and version, in quotes. Clients may send several
  tags separated by commas, with or without quotes and with a `W/` in front; a bare `*` stands for
  every tag. A tag of the form `"<id>:<version>"` tells the version it stands for.
-/

import Bookshop.Sha256
import Bookshop.Text.Blank
import Bookshop.Text.Numeral
import Bookshop.Uuid

namespace Bookshop

structure EntityTag where
  text : String
  deriving DecidableEq, Repr

namespace EntityTag

def enquote (cs : List Char) : List Char := '"' :: cs ++ ['"']

/-- What the digest of a tag is taken of. -/
def subject (id : Uuid) (version : Int) : String := id.toText ++ ":" ++ toString version

def generate (id : Uuid) (version : Int) : EntityTag :=
  ⟨String.ofList (enquote (Sha256.digest (subject id version).toUTF8.data.toList).hex)⟩

/-! ## Candidates of a header -/

def wildcard : List Char := ['*']

def withoutWeakMark : List Char → List Char
  | 'W' :: '/' :: rest => rest
  | cs => cs

/-- One item of a header as a tag in quotes; the wildcard stays as it is. -/
def candidate (item : List Char) : List Char :=
  if item = wildcard then item
  else
    let bare := withoutWeakMark item
    if bare.head? = some '"' then bare else enquote bare

def candidates (header : String) : List (List Char) :=
  (Text.commaItems header.toList).map candidate

def unquote (cs : List Char) : List Char :=
  if 2 ≤ cs.length ∧ cs.head? = some '"' ∧ cs.getLast? = some '"' then cs.tail.dropLast else cs

/-- The version in a candidate of the form `"<id>:<version>"`. -/
def versionIn? (id : Uuid) (cand : List Char) : Option Int := do
  let rest ← (id.write ++ [':']).isPrefixOf? (unquote cand)
  Text.readSigned? rest

/-! ## Headers -/

/-- Does a header name the tag, by itself or by the wildcard? -/
def isMatchedBy (tag : EntityTag) (header : Option String) : Bool :=
  match header with
  | none => false
  | some h => (candidates h).any (fun c => c == wildcard || c == tag.text.toList)

/-- Does a header list the tag itself? -/
def isListedBy (tag : EntityTag) (header : Option String) : Bool :=
  match header with
  | none => false
  | some h => (candidates h).any (· == tag.text.toList)

/-- The version that a header asserts for an identifier: that of the first candidate that has one. -/
def assertedVersion? (header : Option String) (id : Uuid) : Option Int :=
  match header with
  | none => none
  | some h => ((candidates h).filter (· != wildcard)).findSome? (versionIn? id)

end EntityTag

end Bookshop
