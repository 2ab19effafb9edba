/-
  Bookshop.Json.Reader — from JSON text to a value.

  The text is cut into tokens (`scan`), and the tokens are read by a machine with a stack of the
  lists and records that are still open (`build?`). Nothing is accepted but JSON itself: no trailing
  text, no raw control characters in strings, no half of a surrogate pair, no number beyond the
  largest float, and at most `depthLimit` lists and records inside one another.
-/

import Bookshop.Decimal.Scaled
import Bookshop.Json.Value
import Bookshop.Text.Hex

namespace Bookshop.Json

inductive Token where
  | openList | closeList | openRecord | closeRecord | comma | colon
  | text (s : String)
  | scalar (v : Value)

/-! ## Strings -/

def hexQuad? (a b c d : Char) : Option Nat := do
  return (((← Text.hexValue? a) * 16 + (← Text.hexValue? b)) * 16 + (← Text.hexValue? c)) * 16 + (← Text.hexValue? d)

def unitChar? (n : Nat) : Option Char :=
  if 0xD800 ≤ n ∧ n ≤ 0xDFFF then none else some (Char.ofNat n)

def pairChar? (high low : Nat) : Option Char :=
  if 0xD800 ≤ high ∧ high ≤ 0xDBFF ∧ 0xDC00 ≤ low ∧ low ≤ 0xDFFF then
    some (Char.ofNat (0x10000 + (high - 0xD800) * 0x400 + (low - 0xDC00)))
  else none

def escapeChar? : Char → Option Char
  | '"' => some '"'
  | '\\' => some '\\'
  | '/' => some '/'
  | 'b' => some '\x08'
  | 'f' => some '\x0c'
  | 'n' => some '\n'
  | 'r' => some '\r'
  | 't' => some '\t'
  | _ => none

def readChar? : List Char → Option (Char × List Char)
  | '\\' :: 'u' :: a :: b :: c :: d :: rest => do
    let unit ← hexQuad? a b c d
    match unitChar? unit, rest with
    | some ch, _ => some (ch, rest)
    | none, '\\' :: 'u' :: e :: f :: g :: h :: rest => do
      let ch ← pairChar? unit (← hexQuad? e f g h)
      some (ch, rest)
    | none, _ => none
  | '\\' :: c :: rest => (escapeChar? c).map (fun ch => (ch, rest))
  | c :: rest => if c.toNat < 0x20 ∨ c = '\\' ∨ c = '"' then none else some (c, rest)
  | [] => none

theorem readChar?_shorter {cs rest : List Char} {c : Char} (h : readChar? cs = some (c, rest)) :
    rest.length < cs.length := by
  unfold readChar? at h
  split at h
  · simp only [Option.bind_eq_bind, Option.bind_eq_some_iff] at h
    obtain ⟨unit, -, h⟩ := h
    split at h
    · simp only [Option.some.injEq, Prod.mk.injEq] at h
      obtain ⟨-, rfl⟩ := h
      simp only [List.length_cons]; omega
    · simp only [Option.bind_eq_some_iff, Option.some.injEq, Prod.mk.injEq] at h
      obtain ⟨_, -, _, -, -, rfl⟩ := h
      simp only [List.length_cons]; omega
    · cases h
  · simp only [Option.map_eq_some_iff, Prod.mk.injEq] at h
    obtain ⟨_, -, -, rfl⟩ := h
    simp only [List.length_cons]; omega
  · split at h
    · cases h
    · simp only [Option.some.injEq, Prod.mk.injEq] at h
      obtain ⟨-, rfl⟩ := h
      simp
  · cases h

/-- The rest of a string whose characters so far are `done`, newest first, and the text after it. -/
def readText? (done : List Char) (cs : List Char) : Option (String × List Char) :=
  if cs.head? = some '"' then some (String.ofList done.reverse, cs.tail)
  else match h : readChar? cs with
    | some (c, rest) =>
      have : rest.length < cs.length := readChar?_shorter h
      readText? (c :: done) rest
    | none => none
  termination_by cs.length

theorem readText?_shorter {done cs rest : List Char} {s : String} (h : readText? done cs = some (s, rest)) :
    rest.length < cs.length := by
  fun_induction readText? done cs with
  | case1 done cs hq =>
    cases cs with
    | nil => simp at hq
    | cons c cs => simp at h; simp [h.2]
  | case2 done cs _ c rest' hc hlt ih => exact Nat.lt_trans (ih h) hlt
  | case3 => cases h

/-! ## Numbers -/

/-- A number as it is written: sign, digits before and after the point, and the exponent. -/
structure Numeral where
  negative : Bool
  whole : List Char
  fraction : List Char
  exponent : Option Int
  deriving DecidableEq, Repr

def isNumeralChar (c : Char) : Bool := c.isDigit || c == '-' || c == '+' || c == '.' || c == 'e' || c == 'E'

/-- The digits before the point: no leading zero unless it is the only digit. -/
def isWholePart : List Char → Bool
  | [] => false
  | '0' :: rest => rest.isEmpty
  | c :: rest => c.isDigit && rest.all Char.isDigit

def readExponent? : List Char → Option Int
  | '-' :: digits => (Text.readDigits? digits).map (fun n => -(n : Int))
  | '+' :: digits => (Text.readDigits? digits).map Int.ofNat
  | digits => (Text.readDigits? digits).map Int.ofNat

def splitSign : List Char → Bool × List Char
  | '-' :: rest => (true, rest)
  | cs => (false, cs)

def readFraction? : List Char → Option (List Char)
  | [] => some []
  | _ :: digits => (Text.readDigits? digits).map (fun _ => digits)

def readTail? : List Char → Option (Option Int)
  | [] => some none
  | _ :: rest => (readExponent? rest).map some

def readNumeral? (cs : List Char) : Option Numeral := do
  let (negative, cs) := splitSign cs
  let (mantissa, tail) := cs.span (fun c => c != 'e' && c != 'E')
  let (whole, point) := mantissa.span (· != '.')
  guard (isWholePart whole)
  return ⟨negative, whole, ← readFraction? point, ← readTail? tail⟩

def Numeral.toFloat? (n : Numeral) : Option Float :=
  let (whole, left) := Decimal.takeDigits 0 n.whole
  let (digits, dropped) := Decimal.takeDigits whole n.fraction
  let places : Int := n.fraction.length - dropped.length
  (Decimal.scaled? digits (n.exponent.getD 0 + left.length - places)).map (fun x => if n.negative then -x else x)

/-- A whole number is kept as such while it fits in 64 bits, a negative zero aside. -/
def Numeral.value? (n : Numeral) : Option Number :=
  let (whole, left) := Decimal.takeDigits 0 n.whole
  let fits : Bool := left.isEmpty && (!n.negative || 0 < whole && whole ≤ 0x8000000000000000)
  if n.fraction.isEmpty && n.exponent.isNone && fits then some (.whole (if n.negative then -whole else whole))
  else n.toFloat?.map .real

/-! ## Tokens -/

def isJsonBlank (c : Char) : Bool := c == ' ' || c == '\t' || c == '\n' || c == '\r'

def punctuation? : Char → Option Token
  | '[' => some .openList
  | ']' => some .closeList
  | '\x7b' => some .openRecord
  | '\x7d' => some .closeRecord
  | ',' => some .comma
  | ':' => some .colon
  | _ => none

def scan (cs : List Char) : Option (List Token) :=
  match cs with
  | [] => some []
  | 't' :: 'r' :: 'u' :: 'e' :: rest => (scan rest).map (.scalar (.bool true) :: ·)
  | 'f' :: 'a' :: 'l' :: 's' :: 'e' :: rest => (scan rest).map (.scalar (.bool false) :: ·)
  | 'n' :: 'u' :: 'l' :: 'l' :: rest => (scan rest).map (.scalar .null :: ·)
  | '"' :: cs =>
    match h : readText? [] cs with
    | some (s, rest) =>
      have : rest.length < cs.length := readText?_shorter h
      (scan rest).map (.text s :: ·)
    | none => none
  | c :: cs =>
    if isJsonBlank c then scan cs
    else match punctuation? c with
      | some token => (scan cs).map (token :: ·)
      | none =>
        match (readNumeral? (c :: cs.takeWhile isNumeralChar)).bind Numeral.value? with
        | some n => (scan (cs.dropWhile isNumeralChar)).map (.scalar (.number n) :: ·)
        | none => none
  termination_by cs.length
  decreasing_by
    all_goals simp only [List.length_cons]
    all_goals try omega
    · exact Nat.lt_succ_of_le (List.dropWhile_sublist _).length_le

/-! ## Values -/

/-- A list or record that is still open, with what it holds so far, newest first. -/
inductive Frame where
  | list (items : List Value)
  | record (members : List (String × Value)) (name : String)

/-- What may come next. The frames are those around the place the machine has reached. -/
inductive Place where
  | value (frames : List Frame)
  | firstItem (frames : List Frame)
  | firstName (frames : List Frame)
  | nextName (members : List (String × Value)) (frames : List Frame)
  | colon (members : List (String × Value)) (name : String) (frames : List Frame)
  | nextItem (items : List Value) (frames : List Frame)
  | nextMember (members : List (String × Value)) (frames : List Frame)
  | finished (v : Value)

/-- How many lists and records may be open at once. -/
def depthLimit : Nat := 127

/-- The place after a value is complete. -/
def Place.after (v : Value) : List Frame → Place
  | [] => .finished v
  | .list items :: frames => .nextItem (v :: items) frames
  | .record members name :: frames => .nextMember ((name, v) :: members) frames

/-- The place after the first token of a value. -/
def Place.enter? (frames : List Frame) : Token → Option Place
  | .scalar v => some (.after v frames)
  | .text s => some (.after (.text s) frames)
  | .openList => if frames.length < depthLimit then some (.firstItem frames) else none
  | .openRecord => if frames.length < depthLimit then some (.firstName frames) else none
  | _ => none

def Place.step? : Place → Token → Option Place
  | .value frames, token => Place.enter? frames token
  | .firstItem frames, .closeList => some (.after (.list []) frames)
  | .firstItem frames, token => Place.enter? (.list [] :: frames) token
  | .firstName frames, .closeRecord => some (.after (.record []) frames)
  | .firstName frames, .text s => some (.colon [] s frames)
  | .nextName members frames, .text s => some (.colon members s frames)
  | .colon members name frames, .colon => some (.value (.record members name :: frames))
  | .nextItem items frames, .comma => some (.value (.list items :: frames))
  | .nextItem items frames, .closeList => some (.after (.list items.reverse) frames)
  | .nextMember members frames, .comma => some (.nextName members frames)
  | .nextMember members frames, .closeRecord => some (.after (.record members.reverse) frames)
  | _, _ => none

def Place.run? : Place → List Token → Option Place
  | place, [] => some place
  | place, token :: tokens => (place.step? token).bind (·.run? tokens)

def build? (tokens : List Token) : Option Value :=
  match Place.run? (.value []) tokens with
  | some (.finished v) => some v
  | _ => none

def parse? (s : String) : Option Value := (scan s.toList).bind build?

end Bookshop.Json
