/-
  Bookshop.Json.Writer — the JSON text of a value, without blanks.

  In strings a quote, a backslash and control characters are escaped, nothing else. A float is written
  with the fewest digits that read back, and as null if it is not finite.
-/

import Bookshop.Json.Value
import Bookshop.Text.Hex

namespace Bookshop.Json

def writeChar (c : Char) : List Char :=
  if c = '"' then ['\\', '"']
  else if c = '\\' then ['\\', '\\']
  else if c = '\x08' then ['\\', 'b']
  else if c = '\x0c' then ['\\', 'f']
  else if c = '\n' then ['\\', 'n']
  else if c = '\r' then ['\\', 'r']
  else if c = '\t' then ['\\', 't']
  else if c.toNat < 0x20 then ['\\', 'u'] ++ Text.hexFixed 4 c.toNat
  else [c]

def writeText (s : String) : List Char := '"' :: s.toList.flatMap writeChar ++ ['"']

def Number.write : Number → List Char
  | .whole n => (toString n).toList
  | .real x => if x.isFinite then Decimal.write x else "null".toList

mutual

def Value.write : Value → List Char
  | .null => "null".toList
  | .bool b => (if b then "true" else "false").toList
  | .number n => n.write
  | .text s => writeText s
  | .list items => '[' :: writeItems items ++ [']']
  | .record members => '\x7b' :: writeMembers members ++ ['\x7d']

def writeItems : List Value → List Char
  | [] => []
  | [v] => v.write
  | v :: rest => v.write ++ ',' :: writeItems rest

def writeMembers : List (String × Value) → List Char
  | [] => []
  | [(name, v)] => writeText name ++ ':' :: v.write
  | (name, v) :: rest => writeText name ++ ':' :: v.write ++ ',' :: writeMembers rest

end

def Value.toText (v : Value) : String := String.ofList v.write

end Bookshop.Json
