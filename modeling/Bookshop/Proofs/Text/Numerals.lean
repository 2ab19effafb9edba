/-
  Bookshop.Proofs.Text.Numerals — whole numbers that are written in decimal digits read back (see
  `Bookshop.Text.Numeral`).
-/

import Bookshop.Text.Numeral
import Mathlib

namespace Bookshop.Text

theorem readDigits?_toDigits (n : Nat) : readDigits? (Nat.toDigits 10 n) = some n := by
  have hdigits : (Nat.toDigits 10 n).all Char.isDigit = true :=
    List.all_eq_true.mpr fun _ hc => Nat.isDigit_of_mem_toDigits (by decide) (by decide) hc
  have hvalue : ofDigits (Nat.toDigits 10 n) = n := by
    have hread : Nat.ofDigitChars 10 (Nat.toDigits 10 n) 0 = n := Nat.ofDigitChars_ten_toDigits
    rwa [Nat.ofDigitChars_eq_foldl] at hread
  have hne : (Nat.toDigits 10 n).isEmpty = false := by simp [Nat.toDigits_ne_nil]
  rw [readDigits?, hdigits, hne, hvalue]
  rfl

def inSignedRange? (n : Int) : Option Int := if -0x8000000000000000 ≤ n ∧ n < 0x8000000000000000 then some n else none

theorem readSigned?_toDigits {n : Nat} (hlow : -0x8000000000000000 ≤ (n : Int)) (hhigh : (n : Int) < 0x8000000000000000) :
    readSigned? (Nat.toDigits 10 n) = some (n : Int) := by
  have hplain : readSigned? (Nat.toDigits 10 n) =
      ((readDigits? (Nat.toDigits 10 n)).map Int.ofNat).bind inSignedRange? := by
    -- digits have no sign in front
    have hdigit : ∀ c ∈ Nat.toDigits 10 n, c.isDigit = true := fun _ hc =>
      Nat.isDigit_of_mem_toDigits (by decide) (by decide) hc
    unfold readSigned?
    generalize Nat.toDigits 10 n = cs at hdigit
    split
    · exact absurd (hdigit '+' List.mem_cons_self) (by decide)
    · exact absurd (hdigit '-' List.mem_cons_self) (by decide)
    · rfl
  rw [hplain, readDigits?_toDigits, Option.map_some, Option.bind_some, Int.ofNat_eq_natCast, inSignedRange?,
    if_pos ⟨hlow, hhigh⟩]

theorem readSigned?_minus {n : Nat} (hlow : -0x8000000000000000 ≤ -(n : Int)) (hhigh : -(n : Int) < 0x8000000000000000) :
    readSigned? ('-' :: Nat.toDigits 10 n) = some (-(n : Int)) := by
  have hsigned : readSigned? ('-' :: Nat.toDigits 10 n) =
      ((readDigits? (Nat.toDigits 10 n)).map fun n => -Int.ofNat n).bind inSignedRange? := rfl
  rw [hsigned, readDigits?_toDigits, Option.map_some, Option.bind_some, Int.ofNat_eq_natCast, inSignedRange?,
    if_pos ⟨hlow, hhigh⟩]

/-- Every number of 64 bits is read from the text that it is written as. -/
theorem readSigned?_toString {n : Int} (hlow : -0x8000000000000000 ≤ n) (hhigh : n < 0x8000000000000000) :
    readSigned? (toString n).toList = some n := by
  rw [Int.toString_eq_repr, Int.repr_eq_if]
  split
  · next hn =>
    have hnat : ((n.toNat : Nat) : Int) = n := Int.toNat_of_nonneg hn
    rw [← hnat] at hlow hhigh
    rw [Nat.repr_eq_ofList_toDigits, String.toList_ofList, readSigned?_toDigits hlow hhigh, hnat]
  · next hn =>
    have hnat : -(((-n).toNat : Nat) : Int) = n := by omega
    rw [← hnat] at hlow hhigh
    have hlist : ("-" ++ (-n).toNat.repr).toList = '-' :: Nat.toDigits 10 (-n).toNat := by
      simp only [String.toList_append, Nat.repr_eq_ofList_toDigits, String.toList_ofList]
      rfl
    rw [hlist, readSigned?_minus hlow hhigh, hnat]

theorem of_mem_toString {n : Int} {c : Char} (h : c ∈ (toString n).toList) : c = '-' ∨ c.isDigit = true := by
  have hdigits : ∀ m : Nat, c ∈ (Nat.repr m).toList → c.isDigit = true := fun m hm =>
    Nat.isDigit_of_mem_toDigits (by decide) (by decide) (Nat.toList_repr ▸ hm)
  rw [Int.toString_eq_repr, Int.repr_eq_if] at h
  split at h
  · exact .inr (hdigits _ h)
  · rw [String.toList_append] at h
    rcases List.mem_append.mp h with h | h
    · exact .inl (List.mem_singleton.mp h)
    · exact .inr (hdigits _ h)

end Bookshop.Text
