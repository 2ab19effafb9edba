/-
  Bookshop.Web.Target — the target of a request: a path in segments, and query parameters.

  A path starts with `/`; a target without one has no segments, and so no route. Everything from `#`
  on is dropped. Parameters stand between `&`, a name before the first `=` and a
  value after it; in both, `+` is a space and `%` with two hexadecimal digits is a byte. A parameter
  may be given several times, and all of them are kept in order.
-/

import Bookshop.Text.Blank
import Bookshop.Text.Hex
import Bookshop.Text.Utf8

namespace Bookshop.Web

/-! ## Escapes -/

/-- Replaces every `%` and its two hexadecimal digits by their byte; other `%` stay. -/
def percentDecode : List UInt8 → List UInt8
  | 0x25 :: a :: b :: rest =>
    match Text.hexValue? (Char.ofNat a.toNat), Text.hexValue? (Char.ofNat b.toNat) with
    | some high, some low => UInt8.ofNat (16 * high + low) :: percentDecode rest
    | _, _ => 0x25 :: percentDecode (a :: b :: rest)
  | b :: rest => b :: percentDecode rest
  | [] => []

def unescape (cs : List Char) : List Char := Text.decodeUtf8 (percentDecode (Text.encodeUtf8 cs))

/-- A name or value of a form, where `+` stands for a space. -/
def unescapeForm (cs : List Char) : String :=
  String.ofList (unescape (cs.map (fun c => if c = '+' then ' ' else c)))

/-! ## Targets -/

structure Target where
  /-- The segments of the path, escapes and all. -/
  segments : List String
  params : List (String × String)
  deriving DecidableEq, Repr

def readParam (cs : List Char) : String × String :=
  (unescapeForm (cs.takeWhile (· != '=')), unescapeForm ((cs.dropWhile (· != '=')).drop 1))

def readParams (query : List Char) : List (String × String) :=
  (Text.fieldsWhere (· == '&') query).map readParam

/-- The texts after each `/` of a path that starts with one. -/
def pathSegments : List Char → List String
  | '/' :: path => (Text.splitWhere (· == '/') path).map String.ofList
  | _ => []

def Target.parse (uri : String) : Target :=
  let whole := uri.toList.takeWhile (· != '#')
  { segments := pathSegments (whole.takeWhile (· != '?'))
    params := readParams ((whole.dropWhile (· != '?')).drop 1) }

def Target.all (target : Target) (name : String) : List String :=
  (target.params.filter (·.1 == name)).map (·.2)

def Target.first? (target : Target) (name : String) : Option String := (target.all name).head?

end Bookshop.Web
