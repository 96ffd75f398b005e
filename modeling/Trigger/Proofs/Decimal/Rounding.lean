import Trigger.Proofs.Decimal.Bits

/-!
# Rounding

A mantissa is rounded by dropping the digits behind the place that its number of digits asks for.
What is left is at most one greater than the digits kept, and one digit longer only where it is a
power of two. Nothing is lost where the digits dropped are zero.
-/

namespace Trigger.Decimal

open Float.Model
open Float.Model.UnpackedFloat

variable {s : Sign} {m : Nat} {e : Int}

/-- The exponent that a mantissa is shifted to. -/
theorem targetExponent_eq (m : Nat) (e : Int) :
    Format.binary64.targetExponent (totalExponent m e) = max (m.log2 + e - 52) (-1074) := by
  have htarget : Format.binary64.targetExponent (totalExponent m e) =
      max ((m.log2 : Int) + 1 + e - 53) (-1074) := rfl
  omega

/-! ## Dropping digits -/

/-- The digits that are left of a mantissa. -/
theorem mantissa_shiftRight (em : ExtendedMantissa) (k : Nat) :
    (em >>> k).mantissa = em.mantissa / 2 ^ k := by
  induction k with
  | zero => exact (Nat.div_one _).symm
  | succ k ih =>
    have hstep : (em >>> (k + 1)).mantissa = (em >>> k).mantissa / 2 := rfl
    rw [hstep, ih, Nat.div_div_eq_div_mul, Nat.pow_succ]

/-- Zeros that are dropped leave nothing behind. -/
theorem shiftRight_exact (m k : Nat) :
    (ExtendedMantissa.mk (m * 2 ^ k) false false >>> k) = ⟨m, false, false⟩ := by
  induction k generalizing m with
  | zero =>
    rw [Nat.pow_zero, Nat.mul_one]
    rfl
  | succ k ih =>
    have hstep : (ExtendedMantissa.mk (m * 2 ^ (k + 1)) false false >>> (k + 1)) =
        (ExtendedMantissa.mk (m * 2 ^ (k + 1)) false false >>> k).shiftRightOne := rfl
    rw [hstep, Nat.pow_succ', ← Nat.mul_assoc, ih]
    simp [ExtendedMantissa.shiftRightOne]

/-- A rounded mantissa is the one it was or the next. -/
theorem roundedMantissa_bounds (em : ExtendedMantissa) :
    em.mantissa ≤ em.roundedMantissa ∧ em.roundedMantissa ≤ em.mantissa + 1 := by
  obtain ⟨m, roundBit, stickyBit⟩ := em
  have hparity : m % 2 < 2 := Nat.mod_lt _ (by decide)
  cases roundBit <;> cases stickyBit <;>
    simp only [ExtendedMantissa.roundedMantissa, ExtendedMantissa.accuracy,
      Accuracy.roundToNearestEven] <;> omega

/-- The mantissa of a shift is that of the number it starts from. -/
theorem mantissa_ofMantissaAndAccuracy (m : Nat) (a : Accuracy) :
    (ExtendedMantissa.ofMantissaAndAccuracy m a).mantissa = m := by
  cases a with
  | exact => rfl
  | inexact o => cases o <;> rfl

/-! ## The rounded number -/

/-- A mantissa that is not too long stays as it is. -/
theorem shiftToTargetExponent_of_lt (hm : m < 2 ^ 53) (he : -1074 ≤ e) :
    shiftToTargetExponent Format.binary64 m e .exact = (⟨m, false, false⟩, e) := by
  have hlog : m.log2 ≤ 52 := by
    by_cases hzero : m = 0
    · simp [hzero]
    · have hlt := (Nat.log2_lt hzero).mpr hm
      omega
  have hnone : (Format.binary64.targetExponent (totalExponent m e) - e).toNat = 0 := by
    rw [targetExponent_eq]
    omega
  simp only [shiftToTargetExponent, shiftToExponent, hnone]
  rw [Int.ofNat_zero, Int.add_zero]
  rfl

/-- A mantissa that has become one digit longer loses a zero. -/
theorem shiftToTargetExponent_pow (he : -1074 ≤ e) :
    shiftToTargetExponent Format.binary64 (2 ^ 53) e .exact = (⟨2 ^ 52, false, false⟩, e + 1) := by
  have hone : (Format.binary64.targetExponent (totalExponent (2 ^ 53) e) - e).toNat = 1 := by
    rw [targetExponent_eq, Nat.log2_two_pow]
    omega
  simp only [shiftToTargetExponent, shiftToExponent, hone]
  rfl

/-- The digits that are kept are not more than 53. -/
theorem div_two_pow_lt {k : Nat} (hk : m.log2 ≤ 52 + k) : m / 2 ^ k < 2 ^ 53 := by
  rw [Nat.div_lt_iff_lt_mul (Nat.two_pow_pos k), ← Nat.pow_add]
  exact Nat.lt_of_lt_of_le Nat.lt_log2_self (Nat.pow_le_pow_right (by decide) (by omega))

/-- What a number is rounded to: the mantissa without the digits behind the place, or the next one,
with a digit less if it has become too long. -/
theorem roundWithAccuracy_eq (s : Sign) (m : Nat) (e : Int) (a : Accuracy) {k r : Nat}
    (hk : k = (max (m.log2 + e - 52) (-1074) - e).toNat)
    (hr : r = (ExtendedMantissa.ofMantissaAndAccuracy m a >>> k).roundedMantissa) :
    (m / 2 ^ k ≤ r ∧ r ≤ m / 2 ^ k + 1 ∧ r ≤ 2 ^ 53) ∧
      roundWithAccuracy Format.binary64 s m e a =
        if h : r = 0 then .zero s
        else if r < 2 ^ 53 then .finite s r (e + k) (Nat.pos_of_ne_zero h)
        else .finite s (2 ^ 52) (e + k + 1) (by decide) := by
  have hbounds := roundedMantissa_bounds (ExtendedMantissa.ofMantissaAndAccuracy m a >>> k)
  rw [mantissa_shiftRight, mantissa_ofMantissaAndAccuracy, ← hr] at hbounds
  have hlt : m / 2 ^ k < 2 ^ 53 := div_two_pow_lt (by omega)
  refine ⟨⟨hbounds.1, hbounds.2, by omega⟩, ?_⟩
  have hleast : -1074 ≤ e + k := by omega
  have hfirst : shiftToTargetExponent Format.binary64 m e a =
      (ExtendedMantissa.ofMantissaAndAccuracy m a >>> k, e + k) := by
    rw [shiftToTargetExponent, targetExponent_eq, shiftToExponent, ← hk]
  rw [roundWithAccuracy, hfirst]
  dsimp only
  rw [← hr]
  by_cases hshort : r < 2 ^ 53
  · rw [shiftToTargetExponent_of_lt hshort hleast]
    simp only [hshort, if_true]
  · obtain rfl : r = 2 ^ 53 := by omega
    rw [shiftToTargetExponent_pow hleast]
    rfl

/-- A number with zeros behind the place is rounded without loss. -/
theorem roundWithAccuracy_exact (s : Sign) {k : Nat} (h : 2 ^ 52 ≤ m) (hm : m < 2 ^ 53)
    (he : -1074 ≤ e + k) :
    roundWithAccuracy Format.binary64 s (m * 2 ^ k) e .exact =
      .finite s m (e + k) (Nat.lt_of_lt_of_le (by decide) h) := by
  have hpositive : 0 < m := Nat.lt_of_lt_of_le (by decide) h
  have hlog : (m * 2 ^ k).log2 = 52 + k := by
    rw [Nat.log2_eq_iff (Nat.ne_of_gt (Nat.mul_pos hpositive (Nat.two_pow_pos k))), Nat.pow_add,
      Nat.add_right_comm, Nat.pow_add]
    exact ⟨Nat.mul_le_mul_right _ h, Nat.mul_lt_mul_of_pos_right hm (Nat.two_pow_pos k)⟩
  have hk : k = (max (((m * 2 ^ k).log2 : Int) + e - 52) (-1074) - e).toNat := by omega
  have hr : m = (ExtendedMantissa.ofMantissaAndAccuracy (m * 2 ^ k) .exact >>> k).roundedMantissa := by
    rw [ExtendedMantissa.ofMantissaAndAccuracy, shiftRight_exact]
    rfl
  rw [(roundWithAccuracy_eq s _ e .exact hk hr).2, dif_neg (Nat.ne_of_gt hpositive), if_pos hm]

/-- A number that is not too small is rounded to a canonical one with the exponent of its place or
the next. -/
theorem roundWithAccuracy_canonical (s : Sign) (a : Accuracy) (he : -1074 ≤ e)
    (hfull : 52 ≤ m.log2 ∨ e = -1074) (hpositive : 0 < m ∨ a = .inexact .gt) :
    ∃ r e' hr, roundWithAccuracy Format.binary64 s m e a = .finite s r e' hr ∧ Canonical r e' ∧
      max (m.log2 + e - 52) (-1074) ≤ e' ∧ e' ≤ max (m.log2 + e - 52) (-1074) + 1 := by
  obtain ⟨k, hk⟩ : ∃ k, k = (max ((m.log2 : Int) + e - 52) (-1074) - e).toNat := ⟨_, rfl⟩
  obtain ⟨r, hr⟩ : ∃ r, r = (ExtendedMantissa.ofMantissaAndAccuracy m a >>> k).roundedMantissa :=
    ⟨_, rfl⟩
  obtain ⟨⟨hle, -, hpow⟩, hround⟩ := roundWithAccuracy_eq s m e a hk hr
  have hplace : e + k = max ((m.log2 : Int) + e - 52) (-1074) := by omega
  have hkept : 2 ^ 52 ≤ r ∨ e + k = -1074 := by
    by_cases hleast : e + k = -1074
    · exact .inr hleast
    · refine .inl (Nat.le_trans ?_ hle)
      have hne : m ≠ 0 := by
        rintro rfl
        rw [Nat.log2_zero] at hk hfull
        omega
      rw [Nat.le_div_iff_mul_le (Nat.two_pow_pos k), ← Nat.pow_add]
      exact (Nat.le_log2 hne).mp (by omega)
  have hne : 0 < r := by
    rcases hkept with hkept | hleast
    · exact Nat.lt_of_lt_of_le (by decide) hkept
    · obtain rfl : k = 0 := by omega
      rcases hpositive with hpositive | rfl
      · rw [Nat.pow_zero, Nat.div_one] at hle
        exact Nat.lt_of_lt_of_le hpositive hle
      · exact hr ▸ Nat.succ_pos m
  rw [dif_neg (Nat.ne_of_gt hne)] at hround
  by_cases hshort : r < 2 ^ 53
  · rw [if_pos hshort] at hround
    exact ⟨r, e + k, hne, hround, ⟨hne, hshort, by omega, hkept⟩, by omega, by omega⟩
  · rw [if_neg hshort] at hround
    exact ⟨2 ^ 52, e + k + 1, by decide, hround,
      ⟨by decide, by decide, by omega, .inl (by decide)⟩, by omega, by omega⟩

end Trigger.Decimal
