/-
  Bookshop.Preconditions — the conditional headers of a request, and what they decide.

  `If-None-Match: *` asks for a row that is not there yet. Any other write needs an `If-Match` that
  names the current tag of the row, and from that header comes the version on which the write is
  gated: the version written out in a tag, if one of the tags has it, or else the version of the row
  if its own tag is listed. The wildcard alone tells no version.
-/

import Bookshop.Failure
import Bookshop.Storable

namespace Bookshop

inductive Purpose where
  | create
  | replace
  deriving DecidableEq, Repr

structure Preconditions where
  ifMatch : Option String := none
  ifNoneMatch : Option String := none
  deriving DecidableEq, Repr

namespace Preconditions

def forNew : Preconditions := { ifNoneMatch := some "*" }

def naming {α : Type} [Storable α] (row : Stored α) : Preconditions := { ifMatch := some row.tag.text }

def requireIfMatch (p : Preconditions) : Except Failure String :=
  match p.ifMatch with
  | some header => if Text.isBlankText header then .error .ifMatchRequired else .ok header
  | none => .error .ifMatchRequired

def purpose (p : Preconditions) : Except Failure Purpose :=
  if p.ifNoneMatch.map Text.trim = some "*" then .ok .create
  else do
    let _ ← p.requireIfMatch
    return .replace

/-- The version on which a write of a row is gated. -/
def gateVersion {α : Type} [Storable α] (p : Preconditions) (row : Stored α) : Except Failure Int := do
  let header ← p.requireIfMatch
  if !row.tag.isMatchedBy (some header) then .error .ifMatchStale
  else match EntityTag.assertedVersion? (some header) row.id with
    | some version => .ok version
    | none => if row.tag.isListedBy (some header) then .ok row.version else .error .ifMatchWithoutVersion

/-- Does a reader already have the state with this tag? -/
def alreadyHas (p : Preconditions) (tag : EntityTag) : Bool := tag.isMatchedBy p.ifNoneMatch

end Preconditions

end Bookshop
