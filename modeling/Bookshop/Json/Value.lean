/-
  Bookshop.Json.Value — JSON values, with the members of a record in the order they were written,
  repeated names included.

  A number keeps whether it was written as a whole number or with a fraction or exponent.
-/

import Bookshop.Decimal.Shortest
import Bookshop.Text.Quoted

namespace Bookshop.Json

inductive Number where
  | whole (n : Int)
  | real (x : Float)
  deriving DecidableEq

def Number.toFloat : Number → Float
  | .whole n => Float.ofInt n
  | .real x => x

inductive Value where
  | null
  | bool (b : Bool)
  | number (n : Number)
  | text (s : String)
  | list (items : List Value)
  | record (members : List (String × Value))

namespace Value

def ofNat (n : Nat) : Value := .number (.whole n)

def ofInt (n : Int) : Value := .number (.whole n)

/-- A float has a JSON form only if it is finite. -/
def ofFloat (x : Float) : Value := if x.isFinite then .number (.real x) else .null

def ofTexts (texts : List String) : Value := .list (texts.map .text)

def members : Value → List (String × Value)
  | .record members => members
  | _ => []

/-- What a message calls a value that was found in the wrong place. -/
def describe : Value → String
  | .null => "null"
  | .bool b => "boolean `" ++ (if b then "true" else "false") ++ "`"
  | .number (.whole n) => "integer `" ++ toString n ++ "`"
  | .number (.real x) => "floating point `" ++ String.ofList (Decimal.write x) ++ "`"
  | .text s => "string " ++ Text.quoted s
  | .list _ => "sequence"
  | .record _ => "map"

end Value

end Bookshop.Json
