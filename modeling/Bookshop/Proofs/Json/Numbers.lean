/-
  Bookshop.Proofs.Json.Numbers — what the text of a number is read as.

  A number is written as a numeral (`Number.isNumeralChar_of_mem_write`), and what comes of it is decided by that numeral
  alone (`Number.reread?`). The numeral of a float has a point or an exponent (`Decimal.point_or_exponent_mem_write`), so a
  float is read as a float (`Number.exists_real_of_reread?`), but not always as the same one: its digits are the fewest
  that tell it from all others, and reading rounds more than once.

  - `reread?_drifts`: 0.12000000000000001 is read as 0.12.
-/

import Bookshop.Json.Reader
import Bookshop.Json.Writer
import Bookshop.Proofs.Text.Numerals

namespace Bookshop

namespace Decimal

/-! ## Digits -/

/-- The decimal zero denotes no other number. -/
theorem Binary.not_accepts_zero {b : Binary} (hb : b.significand ≠ 0) (k : Int) : b.accepts 0 k = false := by
  obtain ⟨d, hscale, hd⟩ : ∃ d, scale 0 (2 - b.exponent) k = (0, d) ∧ 0 < d := by
    refine ⟨_, by rw [scale, Nat.zero_mul, Nat.zero_mul], ?_⟩
    exact Nat.mul_pos (Nat.pow_pos (by decide)) (Nat.pow_pos (by decide))
  have hlower : ∀ lower, 0 < lower → ¬ lower * d ≤ 0 := fun lower hl hle =>
    Nat.ne_of_gt (Nat.mul_pos hl hd) (Nat.le_zero.mp hle)
  have hpos : 0 < if b.significand = leastFull ∧ b.exponent > -1074 then 4 * b.significand - 1 else 4 * b.significand - 2 := by
    split <;> omega
  simp only [accepts, hscale, hlower _ hpos, Nat.not_lt_zero, decide_false, Bool.false_and, ite_self]

theorem Binary.pos_of_atPlace? {b : Binary} (hb : b.significand ≠ 0) {k : Int} {n : Nat} (h : b.atPlace? k = some n) :
    0 < n := by
  obtain ⟨below, hbelow⟩ : ∃ below, (scale b.significand b.exponent (-k)).1 / (scale b.significand b.exponent (-k)).2 = below :=
    ⟨_, rfl⟩
  have hn : b.accepts below k = true ∧ n = below ∨ n = below + 1 := by
    simp only [atPlace?, hbelow] at h
    split at h
    · next hlow hhigh =>
      split at h
      · exact .inl ⟨hlow, (Option.some.inj h).symm⟩
      · exact .inr (Option.some.inj h).symm
    · next hlow _ => exact .inl ⟨hlow, (Option.some.inj h).symm⟩
    · exact .inr (Option.some.inj h).symm
    · cases h
  rcases hn with ⟨haccepts, rfl⟩ | rfl
  · refine Nat.pos_of_ne_zero ?_
    rintro rfl
    rw [not_accepts_zero hb] at haccepts
    cases haccepts
  · exact Nat.succ_pos _

theorem Binary.exists_shortest {b : Binary} (hb : b.significand ≠ 0) : ∃ n k, 0 < n ∧ b.shortest = .ofDecimal n k := by
  rw [shortest]
  split
  · next n k hit =>
    obtain ⟨i, -, hi⟩ := List.exists_of_findSome?_eq_some hit
    obtain ⟨m, hm, heq⟩ := Option.map_eq_some_iff.mp hi
    obtain ⟨rfl, rfl⟩ := Prod.mk.inj heq
    exact ⟨_, _, pos_of_atPlace? hb hm, rfl⟩
  · exact ⟨_, _, Nat.pos_of_ne_zero hb, rfl⟩

theorem isDigit_of_mem_ofDecimal {n : Nat} {k : Int} {c : Char} (h : c ∈ (Digits.ofDecimal n k).digits) :
    c.isDigit = true := by
  have hdrop := (List.dropWhile_sublist _).subset (List.mem_reverse.mp h)
  exact Nat.isDigit_of_mem_toDigits (by decide) (by decide) (List.mem_reverse.mp hdrop)

/-- Zeros at the end are left out, but not all digits of a number above zero are zeros. -/
theorem digits_ofDecimal_ne_nil {n : Nat} (hn : 0 < n) (k : Int) : (Digits.ofDecimal n k).digits ≠ [] := by
  intro hnil
  have hdrop : (Nat.toDigits 10 n).reverse.dropWhile (· == '0') = [] := List.reverse_eq_nil_iff.mp hnil
  have hzeros : ∀ c ∈ Nat.toDigits 10 n, c = '0' := by
    intro c hc
    simpa using List.dropWhile_eq_nil_iff.mp hdrop c (List.mem_reverse.mpr hc)
  have hvalue : Text.ofDigits (Nat.toDigits 10 n) = 0 := by
    rw [List.eq_replicate_of_mem hzeros, Text.ofDigits]
    induction (Nat.toDigits 10 n).length with
    | zero => rfl
    | succ count ih => exact ih
  have hread := Text.readDigits?_toDigits n
  rw [Text.readDigits?, hvalue] at hread
  split at hread
  · exact Nat.ne_of_lt hn (Option.some.inj hread)
  · cases hread

end Decimal

/-! ## Numerals -/

namespace Json

theorem isNumeralChar_of_isDigit {c : Char} (h : c.isDigit = true) : isNumeralChar c = true := by
  simp [isNumeralChar, h]

theorem isNumeralChar_of_mem_toString {n : Int} {c : Char} (h : c ∈ (toString n).toList) : isNumeralChar c = true := by
  rcases Text.of_mem_toString h with rfl | hdigit
  · rfl
  · exact isNumeralChar_of_isDigit hdigit

theorem isNumeralChar_of_mem_digits {d : Decimal.Digits} (hd : ∀ c ∈ d.digits, c.isDigit = true) :
    ∀ c ∈ d.write, isNumeralChar c = true := by
  have hdigits : ∀ c ∈ d.digits, isNumeralChar c = true := fun c hc => isNumeralChar_of_isDigit (hd c hc)
  have hzeros (n : Nat) : ∀ c ∈ Decimal.zeros n, isNumeralChar c = true := by
    intro c hc
    rw [List.eq_of_mem_replicate hc]
    rfl
  have hexponent : ∀ c ∈ (toString (d.place - 1)).toList, isNumeralChar c = true :=
    fun c hc => isNumeralChar_of_mem_toString hc
  have hpoint : isNumeralChar '.' = true := rfl
  have hletter : isNumeralChar 'e' = true := rfl
  have hzero : isNumeralChar '0' = true := rfl
  unfold Decimal.Digits.write
  dsimp only
  split_ifs with hfull hshort hsmall
  · simp only [List.forall_mem_append, List.forall_mem_cons]
    exact ⟨⟨hdigits, hzeros _⟩, hpoint, hzero, List.forall_mem_nil _⟩
  · simp only [List.forall_mem_append, List.forall_mem_cons]
    exact ⟨fun c hc => hdigits c (List.mem_of_mem_take hc), hpoint, fun c hc => hdigits c (List.mem_of_mem_drop hc)⟩
  · simp only [List.forall_mem_append, List.forall_mem_cons]
    exact ⟨⟨⟨hzero, hpoint, List.forall_mem_nil _⟩, hzeros _⟩, hdigits⟩
  · split
    · exact List.forall_mem_nil _
    · next c hc =>
      rw [hc] at hdigits
      simp only [List.forall_mem_cons]
      exact ⟨hdigits c List.mem_cons_self, hletter, hexponent⟩
    · next c rest _ hc =>
      rw [hc] at hdigits
      obtain ⟨hfirst, hrest⟩ := List.forall_mem_cons.mp hdigits
      simp only [List.forall_mem_append, List.forall_mem_cons]
      exact ⟨⟨hfirst, hpoint, hrest⟩, hletter, hexponent⟩

end Json

namespace Decimal

theorem isNumeralChar_of_mem_write {x : Float} : ∀ c ∈ write x, Json.isNumeralChar c = true := by
  rw [write]
  refine List.forall_mem_append.mpr ⟨?_, ?_⟩
  · split
    · simp [Json.isNumeralChar]
    · exact List.forall_mem_nil _
  · split
    · simp [Json.isNumeralChar]
    · next hs =>
      obtain ⟨n, k, -, hshortest⟩ := Binary.exists_shortest hs
      rw [hshortest]
      exact Json.isNumeralChar_of_mem_digits fun c => isDigit_of_mem_ofDecimal

theorem Digits.point_or_exponent_mem_write {d : Digits} (hd : d.digits ≠ []) : '.' ∈ d.write ∨ 'e' ∈ d.write := by
  unfold write
  dsimp only
  split_ifs
  · simp
  · simp
  · simp
  · split
    · next hnil => exact absurd hnil hd
    · simp
    · simp

theorem point_or_exponent_mem_write (x : Float) : '.' ∈ write x ∨ 'e' ∈ write x := by
  rw [write]
  refine Or.imp (List.mem_append_right _) (List.mem_append_right _) ?_
  split
  · simp
  · next hs =>
    obtain ⟨n, k, hn, hshortest⟩ := Binary.exists_shortest hs
    rw [hshortest]
    exact Digits.point_or_exponent_mem_write (digits_ofDecimal_ne_nil hn k)

end Decimal

namespace Json

theorem mem_splitSign {cs : List Char} {c : Char} (hc : c ≠ '-') (h : c ∈ cs) : c ∈ (splitSign cs).2 := by
  unfold splitSign
  split
  · exact (List.mem_cons.mp h).resolve_left hc
  · exact h

theorem readFraction?_ne_nil {c : Char} {cs digits : List Char} (h : readFraction? (c :: cs) = some digits) :
    digits ≠ [] := by
  obtain ⟨n, hn, rfl⟩ := Option.map_eq_some_iff.mp h
  rintro rfl
  cases hn

theorem real_of_readNumeral? {cs : List Char} (hcs : '.' ∈ cs ∨ 'e' ∈ cs) {n : Numeral} (h : readNumeral? cs = some n) :
    (n.fraction.isEmpty && n.exponent.isNone) = false := by
  have hus : '.' ∈ (splitSign cs).2 ∨ 'e' ∈ (splitSign cs).2 :=
    hcs.imp (mem_splitSign (by decide)) (mem_splitSign (by decide))
  simp only [readNumeral?, List.span_eq_takeWhile_dropWhile, Option.bind_eq_bind, Option.bind_eq_some_iff,
    Option.pure_def, Option.some.injEq] at h
  obtain ⟨-, -, fraction, hfraction, exponent, hexponent, rfl⟩ := h
  generalize (splitSign cs).2 = us at hus hfraction hexponent
  cases htail : us.dropWhile (fun c => c != 'e' && c != 'E') with
  | cons letter rest =>
    rw [htail] at hexponent
    obtain ⟨e, -, rfl⟩ := Option.map_eq_some_iff.mp hexponent
    exact Bool.and_false _
  | nil =>
    -- without an exponent there is a point, with digits after it
    have hall := List.dropWhile_eq_nil_iff.mp htail
    have hpoint : '.' ∈ us := hus.resolve_right fun he => absurd (hall 'e' he) (by decide)
    have hmantissa : us.takeWhile (fun c => c != 'e' && c != 'E') = us := by
      rw [List.takeWhile_eq_self_iff]
      exact hall
    rw [hmantissa] at hfraction
    cases hrest : us.dropWhile (· != '.') with
    | nil => exact absurd (List.dropWhile_eq_nil_iff.mp hrest '.' hpoint) (by decide)
    | cons point digits =>
      rw [hrest] at hfraction
      have hne := readFraction?_ne_nil hfraction
      simp [hne]

namespace Number

/-- The other floats have no numeral. -/
def isFinite : Number → Bool
  | whole _ => true
  | real x => x.isFinite

/-- What the numeral of a number is read as. -/
def reread? (n : Number) : Option Number := (readNumeral? n.write).bind Numeral.value?

variable {n : Number} {x : Float}

theorem isNumeralChar_of_mem_write (h : n.isFinite = true) : ∀ c ∈ n.write, isNumeralChar c = true := by
  cases n with
  | whole n => exact fun c => isNumeralChar_of_mem_toString
  | real x =>
    rw [write, if_pos (show x.isFinite = true from h)]
    exact Decimal.isNumeralChar_of_mem_write

theorem write_ne_nil (h : n.isFinite = true) : n.write ≠ [] := by
  cases n with
  | whole n =>
    rw [write, Int.toString_eq_repr, Int.repr_eq_if]
    split <;> simp
  | real x =>
    rw [write, if_pos (show x.isFinite = true from h)]
    rcases Decimal.point_or_exponent_mem_write x with hm | hm
    · exact List.ne_nil_of_mem hm
    · exact List.ne_nil_of_mem hm

theorem exists_real_of_reread? (hx : x.isFinite = true) (h : (real x).reread? = some n) : ∃ y, n = real y := by
  obtain ⟨numeral, hread, hvalue⟩ := Option.bind_eq_some_iff.mp h
  rw [write, if_pos hx] at hread
  have hreal := real_of_readNumeral? (Decimal.point_or_exponent_mem_write x) hread
  simp only [Numeral.value?, hreal, Bool.false_and, Bool.false_eq_true, if_false] at hvalue
  obtain ⟨y, -, rfl⟩ := Option.map_eq_some_iff.mp hvalue
  exact ⟨y, rfl⟩

/-- The numeral has seventeen digits, and the number of its digits is more than a float tells from its neighbours. -/
theorem reread?_drifts : (real 0.12000000000000001).reread? = some (real 0.12) := by decide +kernel

end Number

end Json

end Bookshop
