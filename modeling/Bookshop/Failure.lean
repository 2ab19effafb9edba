/-
  Bookshop.Failure — why a call of the store, or an operation of the catalog, answers no.

  A `StoreFault` is what the store says about rows; a `Failure` is what a client is told. Faults that
  belong to conditional requests become failures of their own (`Failure.ofFault`); the others stay
  internal. Every failure belongs to one kind, and the kind decides the status code.
-/

import Bookshop.Uuid
import Bookshop.Json.Decode
import Bookshop.Text.Capital

namespace Bookshop

/-! ## Faults of the store -/

inductive StoreFault where
  | versionConflict (collection : String) (id : Uuid) (expected actual : Int)
  | idTaken (collection : String) (id : Uuid)
  | keyTaken (collection : String) (key : String)
  | noSuchRow (collection : String) (id : Uuid)
  /-- A row that cannot be read back. -/
  | unreadable (detail : String)
  /-- The store did not do the call. -/
  | unavailable (detail : String)
  deriving DecidableEq, Repr

def StoreFault.message : StoreFault → String
  | .versionConflict collection id expected actual =>
    "concurrency conflict on " ++ collection ++ ":" ++ id.toText ++ " (expected version " ++
      toString expected ++ ", actual " ++ toString actual ++ ")"
  | .idTaken collection id => "duplicate id in " ++ collection ++ ": " ++ id.toText
  | .keyTaken collection key => "duplicate natural key in " ++ collection ++ ": " ++ key
  | .noSuchRow collection id => "row not found: " ++ collection ++ ":" ++ id.toText
  | .unreadable detail => "resource serialization error: " ++ detail
  | .unavailable detail => "resource storage error: " ++ detail

/-! ## Failures of an operation -/

inductive Failure where
  /-- There is no row of this noun with this identifier. -/
  | missing (noun : String) (id : Uuid)
  | idTaken (noun : String)
  | nameTaken (noun : String)
  | ifMatchRequired
  | ifMatchStale
  | ifMatchWithoutVersion
  | versionMismatch (expected actual : Int)
  | emptyPatch
  | blankName
  | blankTitle
  | badAmount
  | badCurrency
  | unknownGenre (code : String)
  | sortWithoutProperty (token : String)
  | unknownSortProperty (property : String)
  | unknownEmbed (option : String)
  | badIdentifier (text : String)
  | badParameter (name value : String)
  | undecodable (error : Json.DecodeError)
  | store (fault : StoreFault)

namespace Failure

inductive Kind where
  | missing
  | conflict
  | preconditionRequired
  | preconditionFailed
  | badRequest
  | internal
  deriving DecidableEq, Repr

def Kind.status : Kind → Nat
  | .missing => 404
  | .conflict => 409
  | .preconditionRequired => 412
  | .preconditionFailed => 412
  | .badRequest => 400
  | .internal => 500

def kind : Failure → Kind
  | .missing .. => .missing
  | .idTaken _ | .nameTaken _ => .conflict
  | .ifMatchRequired => .preconditionRequired
  | .ifMatchStale | .ifMatchWithoutVersion | .versionMismatch .. | .emptyPatch | .blankName => .preconditionFailed
  | .blankTitle | .badAmount | .badCurrency | .unknownGenre _ | .sortWithoutProperty _ | .unknownSortProperty _
  | .unknownEmbed _ | .badIdentifier _ | .badParameter .. | .undecodable _ => .badRequest
  | .store _ => .internal

def status (f : Failure) : Nat := f.kind.status

def message : Failure → String
  | .missing noun id => noun ++ " " ++ id.toText ++ " not found"
  | .idTaken noun => noun ++ " with the provided id already exists"
  | .nameTaken noun => noun ++ " with the provided name already exists"
  | .ifMatchRequired => "If-Match header is required when updating an existing resource."
  | .ifMatchStale => "If-Match header does not match the current entity tag"
  | .ifMatchWithoutVersion => "If-Match header must include an entity tag with version information"
  | .versionMismatch expected actual =>
    "Entity version mismatch. Expected " ++ toString expected ++ " but was " ++ toString actual
  | .emptyPatch => "Patch request must contain at least one updatable field"
  | .blankName => "Author name must not be blank"
  | .blankTitle => "Book title must not be blank"
  | .badAmount => "Price amount must be a non-negative number"
  | .badCurrency => "Currency must be a 3-letter ISO-4217 code"
  | .unknownGenre code => "Unsupported genre: " ++ code
  | .sortWithoutProperty token => "Sort token '" ++ token ++ "' must name a property"
  | .unknownSortProperty property => "Unsupported sort property: " ++ property
  | .unknownEmbed option => "Unsupported embed option: " ++ option
  | .badIdentifier text => "Invalid resource id: " ++ text
  | .badParameter name value => "Invalid value for " ++ name ++ ": " ++ value
  | .undecodable error => error.message
  | .store fault => "storage error: " ++ fault.message

/-- The noun for one row of a collection: the collection's name without its plural ending, with a
capital letter in front. -/
def nounOf (collection : String) : String :=
  let name := collection.toList
  Text.capitalize (String.ofList (if name.getLast? = some 's' then name.dropLast else name))

/-- What a client is told about a fault of the store. -/
def ofFault : StoreFault → Failure
  | .versionConflict _ _ expected actual => .versionMismatch expected actual
  | .idTaken collection _ => .idTaken (nounOf collection)
  | .keyTaken collection _ => .nameTaken (nounOf collection)
  | .noSuchRow collection id => .missing (nounOf collection) id
  | .unreadable detail => .store (.unreadable detail)
  | .unavailable detail => .store (.unavailable detail)

def cause? : Failure → Option StoreFault
  | .store fault => some fault
  | _ => none

end Failure

end Bookshop
