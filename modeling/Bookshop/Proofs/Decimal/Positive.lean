/-
  Bookshop.Proofs.Decimal.Positive — sums of positive floats are positive.

  A finite float above zero is a significand times a power of two, and the exponents of floats end at -1074. Rounding
  shifts a significand to the right until it has 53 bits, and further only to reach that least exponent. So it keeps
  the first bit of a number, unless that bit stands below the least exponent (`fits_shift`), and a number above zero
  is not rounded to zero (`isPositive_roundWithAccuracy`). A number too large to be a float becomes infinity, which is
  positive as well.

  - `add_pos`: the sum of two positive floats is positive. It has no smaller exponent than both, so no bit is lost
    below.
  - `ofNat_pos`: the float nearest to a natural number above zero is positive.
-/

import Mathlib

namespace Bookshop.Decimal

open Float.Model UnpackedFloat

/-- Infinity, or a finite number above zero. -/
inductive IsPositive : UnpackedFloat → Prop
  | infinity : IsPositive (.infinity .positive)
  | finite (m : Nat) (e : Int) (hm : 0 < m) : IsPositive (.finite .positive m e hm)

theorem zero_lt_iff {x : Float} : 0.0 < x ↔ IsPositive x.toModel.unpack := by
  have hlt : 0.0 < x ↔ (UnpackedFloat.zero .positive).lt x.toModel.unpack = true := by
    show decide ((0.0 : Float).toModel < x.toModel) = true ↔ _
    rw [decide_eq_true_eq]
    rfl
  rw [hlt]
  generalize x.toModel.unpack = u
  constructor
  · intro h
    rcases u with (_ | _) | _ | _ | ⟨_ | _, m, e, hm⟩
    case infinity.positive => exact .infinity
    case finite.positive => exact .finite m e hm
    all_goals cases h
  · intro h
    cases h <;> rfl

/-! ## Significands and exponents -/

/-- A significand above zero that a float can have, at an exponent that is not below the least one. -/
structure Fits (m : Nat) (e : Int) : Prop where
  pos : 0 < m
  lt : m < 2 ^ 53
  least : -1074 ≤ e

theorem targetExponent_eq (m : Nat) (e : Int) :
    Format.binary64.targetExponent (totalExponent m e) = max ((m.log2 : Int) + e - 52) (-1074) := by
  show max ((m.log2 : Int) + 1 + e - 53) (-1074) = _
  omega

theorem mantissa_shiftRight (em : ExtendedMantissa) (k : Nat) : (em >>> k).mantissa = em.mantissa / 2 ^ k := by
  induction k with
  | zero => exact (Nat.div_one _).symm
  | succ k ih =>
    show (em >>> k).mantissa / 2 = _
    rw [ih, Nat.div_div_eq_div_mul, Nat.pow_succ]

theorem mantissa_ofMantissaAndAccuracy (m : Nat) (a : Accuracy) :
    (ExtendedMantissa.ofMantissaAndAccuracy m a).mantissa = m := by
  rcases a with _ | _ | _ | _ <;> rfl

theorem le_roundedMantissa (em : ExtendedMantissa) : em.mantissa ≤ em.roundedMantissa := by
  obtain ⟨m, r, s⟩ := em
  cases r <;> cases s <;>
    simp [ExtendedMantissa.roundedMantissa, ExtendedMantissa.accuracy, Accuracy.roundToNearestEven]

/-- A shift keeps the first bit, unless it stands below the least exponent. -/
theorem fits_shift {m : Nat} {e : Int} (hm : 0 < m) (he : -1074 ≤ e + m.log2) (a : Accuracy) :
    Fits (shiftToTargetExponent .binary64 m e a).1.mantissa (shiftToTargetExponent .binary64 m e a).2 := by
  obtain ⟨k, hk⟩ : ∃ k, (Format.binary64.targetExponent (totalExponent m e) - e).toNat = k := ⟨_, rfl⟩
  have hshift : shiftToTargetExponent .binary64 m e a =
      (ExtendedMantissa.ofMantissaAndAccuracy m a >>> k, e + k) := by
    rw [shiftToTargetExponent, shiftToExponent, hk]
  rw [hshift, mantissa_shiftRight, mantissa_ofMantissaAndAccuracy]
  rw [targetExponent_eq] at hk
  have hfew : 2 ^ k ≤ 2 ^ m.log2 := Nat.pow_le_pow_right (by omega) (by omega)
  have hmany : 2 ^ (m.log2 + 1) ≤ 2 ^ (53 + k) := Nat.pow_le_pow_right (by omega) (by omega)
  constructor
  · exact Nat.div_pos (Nat.le_trans hfew (Nat.log2_self_le (Nat.ne_of_gt hm))) (Nat.two_pow_pos k)
  · rw [Nat.div_lt_iff_lt_mul (Nat.two_pow_pos k), ← Nat.pow_add]
    exact Nat.lt_of_lt_of_le Nat.lt_log2_self hmany
  · show -1074 ≤ e + (k : Int)
    omega

theorem least_exponent {x : Float.Model} {s : Sign} {m : Nat} {e : Int} {hm : 0 < m}
    (h : x.unpack = .finite s m e hm) : -1074 ≤ e := by
  have hbias : Format.binary64.exponentBias = 1023 := rfl
  simp only [Float.Model.unpack, UnpackedFloat.unpack, hbias] at h
  split at h
  · split at h <;> cases h
  · split at h
    · split at h <;> cases h
      omega
    · rename_i hne
      cases h
      have hpos : (@unpackExponent Format.binary64 x.toBits.toBitVec).toNat ≠ 0 :=
        fun h => hne (BitVec.eq_of_toNat_eq h)
      omega

/-! ## Bits -/

/-- Bits without a sign are positive unless they are those of zero or of no number. -/
theorem isPositive_components {exponent : BitVec 11} {mantissa : BitVec 52}
    (hzero : exponent = 0#11 → mantissa ≠ 0#52) (hnan : exponent = -1#11 → mantissa = 0#52) :
    IsPositive (UnpackedFloat.unpack .binary64 (packComponents .binary64 .positive exponent mantissa)) := by
  simp only [UnpackedFloat.unpack, unpackExponent_packComponents, unpackMantissa_packComponents,
    unpackSign_packComponents, Sign.ofBitVec_toBitVec]
  by_cases hones : exponent = -1#11
  · rw [if_pos hones, if_pos (hnan hones)]
    exact .infinity
  · rw [if_neg hones]
    by_cases hzeros : exponent = 0#11
    · rw [if_pos hzeros, dif_neg (hzero hzeros)]
      exact .finite ..
    · rw [if_neg hzeros]
      exact .finite ..

theorem isPositive_pack_infinity : IsPositive (Float.Model.pack (.infinity .positive)).unpack := .infinity

theorem isPositive_pack {m : Nat} {e : Int} {hm : 0 < m} (h : Fits m e) :
    IsPositive (Float.Model.pack (.finite .positive m e hm)).unpack := by
  obtain ⟨-, hlt, hleast⟩ := h
  have hbias : Format.binary64.exponentBias = 1023 := rfl
  have hbits : Format.binary64.mantissaBits = 53 := rfl
  show IsPositive (UnpackedFloat.unpack .binary64 (UnpackedFloat.pack .binary64 (.finite .positive m e hm)))
  simp only [UnpackedFloat.pack, hbias, hbits]
  split
  case isTrue => exact isPositive_pack_infinity
  case isFalse =>
    split
    case isTrue =>
      -- a full significand, whose exponent has neither no bits nor all of them
      refine isPositive_components (fun h => ?_) (fun h => ?_)
      all_goals
        exfalso
        bv_omega
    case isFalse hlog =>
      have hshort : m < 2 ^ 52 := by
        have hle := (Nat.log2_lt (Nat.ne_of_gt hm)).mpr hlt
        exact (Nat.log2_lt (Nat.ne_of_gt hm)).mp (by omega)
      refine isPositive_components (fun _ h => ?_) (fun h => nomatch h)
      bv_omega

/-! ## Rounding -/

theorem isPositive_roundWithAccuracy {m : Nat} {e : Int} (hm : 0 < m) (he : -1074 ≤ e + m.log2) (a : Accuracy) :
    IsPositive (Float.Model.pack (roundWithAccuracy .binary64 .positive m e a)).unpack := by
  -- rounded up, a significand may have a bit too many, so it is shifted twice
  have hfirst := fits_shift hm he a
  have hpos : 0 < (shiftToTargetExponent .binary64 m e a).1.roundedMantissa :=
    Nat.lt_of_lt_of_le hfirst.pos (le_roundedMantissa _)
  have hsecond := fits_shift hpos (le_add_of_le_of_nonneg hfirst.least (Int.natCast_nonneg _)) .exact
  simp only [roundWithAccuracy]
  rw [dif_neg (Nat.ne_of_gt hsecond.pos)]
  exact isPositive_pack hsecond

theorem isPositive_normalize {n e : Int} {s : Sign} (hn : 0 < n) (he : -1074 ≤ e) :
    IsPositive (Float.Model.pack (UnpackedFloat.normalize .binary64 n e s)).unpack := by
  rw [UnpackedFloat.normalize, Int.compare_eq_gt.mpr hn]
  simp only [UnpackedFloat.round, decreaseExponent, targetExponent_eq]
  have hm : 0 < n.toNat := by omega
  refine isPositive_roundWithAccuracy (Nat.shiftLeft_pos_iff.mpr hm) ?_ .exact
  omega

/-! ## Sums and natural numbers -/

theorem add_pos {x y : Float} (hx : 0.0 < x) (hy : 0.0 < y) : 0.0 < x + y := by
  rw [zero_lt_iff] at hx hy ⊢
  show IsPositive (Float.Model.pack (UnpackedFloat.add .binary64 x.toModel.unpack y.toModel.unpack)).unpack
  have hxe := @least_exponent x.toModel .positive
  have hye := @least_exponent y.toModel .positive
  generalize x.toModel.unpack = u at hx hxe
  generalize y.toModel.unpack = v at hy hye
  cases hx with
  | infinity => cases hy <;> exact isPositive_pack_infinity
  | finite m e hm =>
    cases hy with
    | infinity => exact isPositive_pack_infinity
    | finite m' e' hm' =>
      have he := hxe rfl
      have he' := hye rfl
      have hshift : 0 < m <<< (e - min e e').toNat := Nat.shiftLeft_pos_iff.mpr hm
      refine isPositive_normalize ?_ (Int.le_min.mpr ⟨he, he'⟩)
      exact Int.add_pos_of_pos_of_nonneg (Int.natCast_pos.mpr hshift) (Int.natCast_nonneg _)

theorem mul_one_pos {x : Float} (hx : 0.0 < x) : 0.0 < x * 1.0 := by
  have hone : (1.0 : Float).toModel.unpack = .finite .positive (2 ^ 52) (-52) (by decide) := rfl
  rw [zero_lt_iff] at hx ⊢
  show IsPositive (Float.Model.pack (UnpackedFloat.mul .binary64 x.toModel.unpack (1.0 : Float).toModel.unpack)).unpack
  rw [hone]
  have hxe := @least_exponent x.toModel .positive
  generalize x.toModel.unpack = u at hx hxe
  cases hx with
  | infinity => exact isPositive_pack_infinity
  | finite m e hm =>
    have he := hxe rfl
    have hlog : 52 ≤ (m * 2 ^ 52).log2 := by
      rw [Nat.le_log2 (by omega)]
      omega
    exact isPositive_roundWithAccuracy (by omega) (by omega) .exact

/-- Numbers of 53 bits are converted as words and multiplied by the power 10^0, larger ones are rounded from their
digits. -/
theorem ofNat_pos {n : Nat} (hn : 0 < n) : 0.0 < Float.ofNat n := by
  show 0.0 < Float.ofScientific n false 0
  by_cases hsmall : n < 2 ^ 53
  · have hof : Float.ofScientific n false 0 = n.toUInt64.toFloat * 1.0 := by
      rw [Float.ofScientific, dif_pos ⟨hsmall, by omega⟩]
      rfl
    have hword : n.toUInt64.toNat = n := by
      rw [Nat.toUInt64, UInt64.toNat_ofNat']
      omega
    rw [hof]
    apply mul_one_pos
    rw [zero_lt_iff]
    show IsPositive (Float.Model.pack (UnpackedFloat.normalize .binary64 (n.toUInt64.toNat : Int) 0 .positive)).unpack
    exact isPositive_normalize (by omega) (by omega)
  · have hof : Float.ofScientific n false 0 = .ofModel (Float.Model.ofScientific n 0) := by
      rw [Float.ofScientific, dif_neg (by omega)]
      rfl
    have hm : 0 < n <<< Format.binary64.mantissaBits * 10 ^ (0 : Int).toNat :=
      Nat.mul_pos (Nat.shiftLeft_pos_iff.mpr hn) (by decide)
    have he : -1074 ≤ -(Format.binary64.mantissaBits : Int) + 0 := by decide
    rw [hof, zero_lt_iff]
    show IsPositive (Float.Model.pack (UnpackedFloat.ofScientific .binary64 n 0)).unpack
    rw [UnpackedFloat.ofScientific, dif_neg (by omega), if_neg (by decide), if_neg (by simp),
      if_pos (by decide)]
    simp only [UnpackedFloat.mul]
    exact isPositive_roundWithAccuracy hm (by omega) .exact

end Bookshop.Decimal
