/-
  Bookshop.Decimal.Shortest — the fewest decimal digits that still denote a given float.

  A finite positive float is `m * 2^q`. The reals that round to it form an interval around it, whose
  ends belong to it exactly when `m` is even. For 1, 2, … 17 digits the two neighbours of the float
  among the decimals with that many digits are tried against the interval, in exact arithmetic; the
  first number of digits with a hit wins, and of two hits the nearer.
-/

namespace Bookshop.Decimal

def digitCount (n : Nat) : Nat := (Nat.toDigits 10 n).length

/-- A positive finite float as `significand * 2^exponent`. -/
structure Binary where
  significand : Nat
  exponent : Int
  deriving DecidableEq, Repr

/-- The significand of a power of two, which is the least that a float has in full: 2^52. -/
def Binary.leastFull : Nat := 0x10000000000000

def Binary.ofFloat (x : Float) : Binary :=
  let bits := x.toBits.toNat
  let fraction : Nat := bits % leastFull
  let biased : Nat := bits / leastFull % 0x800
  if biased = 0 then ⟨fraction, -1074⟩ else ⟨leastFull + fraction, (biased : Int) - 1075⟩

/-- `n * 2^a * 10^b` and `1` brought over one denominator: numerator and denominator. -/
def scale (n : Nat) (two ten : Int) : Nat × Nat :=
  (n * Nat.pow 2 two.toNat * Nat.pow 10 ten.toNat, Nat.pow 2 (-two).toNat * Nat.pow 10 (-ten).toNat)

/-- The place of the first digit: `10^(place - 1) ≤ b < 10^place`. -/
def Binary.place (b : Binary) : Int :=
  let (n, d) := scale b.significand b.exponent 400
  (digitCount (n / d) : Int) - 400

def Binary.accepts (b : Binary) (digits : Nat) (k : Int) : Bool :=
  -- In quarters of the last place of `b`, the upper end is two above and the lower end two below,
  -- or one below where the floats under `b` lie twice as dense.
  let lower :=
    if b.significand = leastFull ∧ b.exponent > -1074 then 4 * b.significand - 1 else 4 * b.significand - 2
  let upper := 4 * b.significand + 2
  let (n, d) := scale digits (2 - b.exponent) k
  if b.significand % 2 = 0 then lower * d ≤ n && n ≤ upper * d else lower * d < n && n < upper * d

/-- Of the two decimals with last place `k` next to `b`, the one that denotes `b`, the nearer first. -/
def Binary.atPlace? (b : Binary) (k : Int) : Option Nat :=
  let (n, d) := scale b.significand b.exponent (-k)
  let below := n / d
  let nearerBelow := 2 * (n % d) ≤ d
  match b.accepts below k, b.accepts (below + 1) k with
  | true, true => some (if nearerBelow then below else below + 1)
  | true, false => some below
  | false, true => some (below + 1)
  | false, false => none

/-- Digits and the place of the point: the value is `0.digits * 10^place`. -/
structure Digits where
  digits : List Char
  place : Int
  deriving DecidableEq, Repr

def Digits.ofDecimal (n : Nat) (k : Int) : Digits :=
  ⟨((Nat.toDigits 10 n).reverse.dropWhile (· == '0')).reverse, digitCount n + k⟩

def Binary.shortest (b : Binary) : Digits :=
  let hit := (List.range 17).findSome? (fun (i : Nat) =>
    let k := b.place - 1 - (i : Int)
    (b.atPlace? k).map (fun n => (n, k)))
  match hit with
  | some (n, k) => .ofDecimal n k
  | none => .ofDecimal b.significand 0

/-! ## As text -/

def zeros (n : Nat) : List Char := List.replicate n '0'

/-- Where the point stands within sixteen places left or four zeros right, the number is written in
full, always with a point; otherwise with an exponent. -/
def Digits.write (d : Digits) : List Char :=
  let count := d.digits.length
  if 0 < d.place ∧ d.place ≤ 16 then
    if count ≤ d.place.toNat then d.digits ++ zeros (d.place.toNat - count) ++ ['.', '0']
    else d.digits.take d.place.toNat ++ '.' :: d.digits.drop d.place.toNat
  else if -5 < d.place ∧ d.place ≤ 0 then
    ['0', '.'] ++ zeros (-d.place).toNat ++ d.digits
  else
    let exponent := (toString (d.place - 1)).toList
    match d.digits with
    | [] => []
    | [c] => c :: 'e' :: exponent
    | c :: rest => c :: '.' :: rest ++ 'e' :: exponent

def write (x : Float) : List Char :=
  let sign := if x.toBits.toNat ≥ 0x8000000000000000 then ['-'] else []
  let b := Binary.ofFloat x
  sign ++ if b.significand = 0 then ['0', '.', '0'] else b.shortest.write

end Bookshop.Decimal
