/-
  Bookshop.Decimal.Scaled — the float that decimal digits are read as.

  The digits are taken in as one whole number as long as it fits in 64 bits; the digits after that are dropped, and
  those before the point count as places still. The number is made a float, and this is multiplied with the float of a
  power of ten, or divided by it. Up to 2^53 and 10^22 only that last step rounds, and gives the float nearest to what
  is written. Beyond, what is read may be a float next to it: 0.12000000000000001 is read as 0.12.
-/

import Bookshop.Text.Numeral

namespace Bookshop.Decimal

/-- Adds digits to a number of 64 bits, up to the first that would make it too large, and leaves the others. -/
def takeDigits (n : Nat) : List Char → Nat × List Char
  | [] => (n, [])
  | c :: rest =>
    let next := 10 * n + Text.digitValue c
    if next < UInt64.size then takeDigits next rest else (n, c :: rest)

def powerOfTen (places : Nat) : Float := Float.ofScientific 1 false places

/-- The largest power of ten that is a float. -/
def mostPlaces : Nat := 308

/-- The float for `n * 10^exponent`, where `n` has 64 bits; `none` if it is beyond the largest float. -/
def scaled? (n : Nat) (exponent : Int) : Option Float :=
  let x := Float.ofNat n
  let places := exponent.natAbs
  if 0 ≤ exponent then
    if places ≤ mostPlaces then
      let y := x * powerOfTen places
      if y.isFinite then some y else none
    else if n = 0 then some 0 else none
  else if places ≤ mostPlaces then some (x / powerOfTen places)
  else if places ≤ 2 * mostPlaces then some (x / powerOfTen mostPlaces / powerOfTen (places - mostPlaces))
  else
    -- two divisions by the largest power leave nothing of a number of 64 bits
    some 0

end Bookshop.Decimal
