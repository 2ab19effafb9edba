/-
  Bookshop.Text.Ranges — sets of characters given as ranges of code points in ascending order.

  Membership stops at the first range that starts above the code point, so a lookup of an early
  character reads only the start of a long table. A table comes with the proof that its ranges do
  ascend (`Ranges.ascending`), so that loses nothing (`Ranges.has_iff_exists`).
-/

namespace Bookshop.Text

/-! ## Lists of ranges -/

/-- Does every range start above the end of the one before it? -/
def isAscending : List (Nat × Nat) → Bool
  | [] => true
  | [r] => r.1 ≤ r.2
  | r :: s :: rest => r.1 ≤ r.2 && r.2 < s.1 && isAscending (s :: rest)

def isInAny : List (Nat × Nat) → Nat → Bool
  | [], _ => false
  | (lo, hi) :: rest, n => if n < lo then false else if n ≤ hi then true else isInAny rest n

section

variable {r : Nat × Nat} {rest : List (Nat × Nat)} (h : isAscending (r :: rest) = true)

include h

theorem le_of_isAscending : r.1 ≤ r.2 := by
  cases rest with
  | nil => simpa [isAscending] using h
  | cons s rest =>
    simp only [isAscending, Bool.and_eq_true, decide_eq_true_eq] at h
    exact h.1.1

theorem isAscending_tail : isAscending rest = true := by
  cases rest with
  | nil => rfl
  | cons s rest =>
    simp only [isAscending, Bool.and_eq_true] at h
    exact h.2

/-- All later ranges of an ascending list start above the end of the first. -/
theorem lt_of_isAscending : ∀ s ∈ rest, r.2 < s.1 := by
  induction rest generalizing r with
  | nil => intro s hs; cases hs
  | cons t rest ih =>
    have ht := isAscending_tail h
    simp only [isAscending, Bool.and_eq_true, decide_eq_true_eq] at h
    have hle := le_of_isAscending ht
    intro s hs
    rcases List.mem_cons.mp hs with rfl | hs
    · exact h.1.2
    · have := ih ht s hs
      omega

end

theorem isInAny_iff_exists {ranges : List (Nat × Nat)} (h : isAscending ranges = true) {n : Nat} :
    isInAny ranges n = true ↔ ∃ r ∈ ranges, r.1 ≤ n ∧ n ≤ r.2 := by
  induction ranges with
  | nil => simp [isInAny]
  | cons s rest ih =>
    have hs := le_of_isAscending h
    have hlt := lt_of_isAscending h
    simp only [List.mem_cons, exists_eq_or_imp, ← ih (isAscending_tail h), isInAny]
    split
    case isTrue hn =>
      -- the ranges after this one start even further above
      have hrest : isInAny rest n ≠ true := by
        rw [Ne, ih (isAscending_tail h)]
        rintro ⟨r, hr, hlo, -⟩
        have := hlt r hr
        omega
      simp only [Bool.false_eq_true, hrest, or_false, false_iff]
      omega
    case isFalse hn =>
      split
      case isTrue hle => exact iff_of_true rfl (.inl ⟨by omega, hle⟩)
      case isFalse hle =>
        rw [or_iff_right]
        omega

/-! ## Tables -/

/-- Ranges of code points, both ends included. -/
structure Ranges where
  ranges : List (Nat × Nat)
  ascending : isAscending ranges = true

namespace Ranges

def has (table : Ranges) (n : Nat) : Bool := isInAny table.ranges n

theorem has_iff_exists {table : Ranges} {n : Nat} :
    table.has n = true ↔ ∃ r ∈ table.ranges, r.1 ≤ n ∧ n ≤ r.2 := isInAny_iff_exists table.ascending

end Ranges

end Bookshop.Text
