/-
  Bookshop.Text.Blank — blank characters, trimming, and splitting.

  A blank is a character with the Unicode property White_Space. Texts are worked on as lists of
  characters; the functions on `String` wrap them. `splitWhere p` cuts at every character that
  satisfies `p` and keeps empty pieces.
-/

import Bookshop.Text.Ranges

namespace Bookshop.Text

/-! ## Blanks -/

def blanks : Ranges where
  ranges :=
    [(0x9, 0xD), (0x20, 0x20), (0x85, 0x85), (0xA0, 0xA0), (0x1680, 0x1680), (0x2000, 0x200A),
     (0x2028, 0x2029), (0x202F, 0x202F), (0x205F, 0x205F), (0x3000, 0x3000)]
  ascending := by decide

def isBlank (c : Char) : Bool := blanks.has c.toNat

/-! ## Trimming -/

def trimStart (cs : List Char) : List Char := cs.dropWhile isBlank

def trimEnd (cs : List Char) : List Char := (cs.reverse.dropWhile isBlank).reverse

def trimList (cs : List Char) : List Char := trimEnd (trimStart cs)

def trim (s : String) : String := String.ofList (trimList s.toList)

def isBlankText (s : String) : Bool := s.toList.all isBlank

@[simp] theorem toList_trim (s : String) : (trim s).toList = trimList s.toList := by simp [trim]

theorem dropWhile_isBlank_eq_nil {cs : List Char} : cs.dropWhile isBlank = [] ↔ cs.all isBlank = true := by
  induction cs with
  | nil => simp
  | cons c cs ih => by_cases h : isBlank c = true <;> simp [h, ih]

theorem trimList_eq_nil_iff {cs : List Char} : trimList cs = [] ↔ cs.all isBlank = true := by
  simp only [trimList, trimEnd, trimStart, List.reverse_eq_nil_iff]
  rw [dropWhile_isBlank_eq_nil, List.all_reverse]
  induction cs with
  | nil => simp
  | cons c cs ih => by_cases h : isBlank c = true <;> simp [h, ih]

/-! ## Splitting -/

section

variable {α : Type}

/-- The pieces between the items that satisfy `p`, empty ones included. -/
def splitWhere (p : α → Bool) : List α → List (List α)
  | [] => [[]]
  | c :: cs =>
    if p c then [] :: splitWhere p cs
    else match splitWhere p cs with
      | [] => [[c]]
      | piece :: rest => (c :: piece) :: rest

/-- The pieces between the items that satisfy `p`, empty ones dropped. -/
def fieldsWhere (p : α → Bool) (cs : List α) : List (List α) :=
  (splitWhere p cs).filter (fun piece => !piece.isEmpty)

theorem splitWhere_ne_nil (p : α → Bool) (cs : List α) : splitWhere p cs ≠ [] := by
  cases cs with
  | nil => simp [splitWhere]
  | cons c cs =>
    simp only [splitWhere]
    split
    · simp
    · split <;> simp

end

def blankSeparated (cs : List Char) : List (List Char) := fieldsWhere isBlank cs

/-- One space between the runs of characters that are not blank, and none at the ends. -/
def collapse (s : String) : String :=
  String.ofList ([' '].intercalate (blankSeparated s.toList))

/-! ## Lists of items between commas -/

/-- The items of a comma-separated list: trimmed, empty ones dropped. -/
def commaItems (cs : List Char) : List (List Char) :=
  ((splitWhere (· == ',') cs).map trimList).filter (fun piece => !piece.isEmpty)

end Bookshop.Text
