/-
  Bookshop.Text.Numeral — whole numbers in decimal digits, as clients and settings write them.

  Digits may have leading zeros and one sign in front: `+` always, `-` where negative numbers are
  allowed. A number outside the range of 64 bits is refused like one with a wrong character.
-/

namespace Bookshop.Text

def digitValue (c : Char) : Nat := c.toNat - '0'.toNat

def ofDigits (cs : List Char) : Nat := cs.foldl (fun n c => 10 * n + digitValue c) 0

def readDigits? (cs : List Char) : Option Nat :=
  if !cs.isEmpty && cs.all Char.isDigit then some (ofDigits cs) else none

/-- A whole number from 0 to 2^64 - 1. -/
def readUnsigned? (cs : List Char) : Option Nat := do
  let n ← readDigits? (match cs with | '+' :: rest => rest | _ => cs)
  if n < UInt64.size then some n else none

/-- A whole number from -2^63 to 2^63 - 1. -/
def readSigned? (cs : List Char) : Option Int := do
  let n : Int ← match cs with
    | '+' :: rest => (readDigits? rest).map Int.ofNat
    | '-' :: rest => (readDigits? rest).map (fun n => -Int.ofNat n)
    | _ => (readDigits? cs).map Int.ofNat
  if -0x8000000000000000 ≤ n ∧ n < 0x8000000000000000 then some n else none

end Bookshop.Text
