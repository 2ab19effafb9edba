/-
  Bookshop.Web.Message — requests, responses, and the headers that the catalog reads and writes.
-/

import Bookshop.Json.Writer
import Bookshop.Preconditions
import Bookshop.Web.Target

namespace Bookshop.Web

structure Request where
  method : String
  uri : String
  /-- Header lines in order; names are told apart without regard to ASCII case. -/
  headers : List (String × String)
  body : String
  deriving DecidableEq, Repr

structure Response where
  status : Nat
  contentType : Option String := none
  etag : Option EntityTag := none
  location : Option String := none
  /-- JSON text, or nothing. -/
  body : String := ""
  deriving DecidableEq, Repr

/-! ## Conditional headers -/

/-- A header value that can be read as text: ASCII without control characters, tabs aside. -/
def isHeaderText (value : String) : Bool :=
  value.toList.all (fun c => c == '\t' || (0x20 ≤ c.toNat && c.toNat ≤ 0x7E))

/-- The lines of a header as one list; lines that cannot be read are left out. -/
def Request.header? (request : Request) (name : String) : Option String :=
  match (request.headers.filter (fun h => Text.lowerAscii h.1 == name && isHeaderText h.2)).map (·.2) with
  | [] => none
  | values => some (", ".intercalate values)

def Request.preconditions (request : Request) : Preconditions :=
  ⟨request.header? "if-match", request.header? "if-none-match"⟩

/-! ## Responses -/

def catalogType : String := "application/vnd.vbookstore.catalog+json;version=1"

def problemType : String := "application/problem+json"

def Response.ofJson (status : Nat) (body : Json.Value) : Response :=
  { status, contentType := some catalogType, body := body.toText }

/-- The reader already has the state with this tag. -/
def Response.notModified (tag : EntityTag) : Response := { status := 304, etag := some tag }

def reason : Failure.Kind → String
  | .missing => "Not Found"
  | .conflict => "Conflict"
  | .preconditionRequired => "Precondition Failed"
  | .preconditionFailed => "Precondition Failed"
  | .badRequest => "Bad Request"
  | .internal => "Internal Server Error"

/-- A problem document. Its members stand in alphabetical order. -/
def Response.ofFailure (failure : Failure) : Response :=
  { status := failure.status
    contentType := some problemType
    body := Json.Value.toText (.record [("detail", .text failure.message), ("status", .ofNat failure.status),
      ("title", .text (reason failure.kind)), ("type", .text "about:blank")]) }

end Bookshop.Web
