import Trigger.Proofs.Decimal.Rounding
import Trigger.Value.Member

/-!
# The positions that numbers stand for

A number is a position in a list if it is an integer that is not negative. Up to `2 ^ 53` every
integer is a number. A number whose exponent is above zero lies beyond the end of a list that has
no more items than that, and one whose exponent is below -52 lies between zero and one or is
negative: they are outside such lists, whatever their mantissas are, and so are the infinities and
what is not a number.

A product is outside if the exponent that it is rounded to is above zero, and a quotient if it is
small but more than half of the least number, so that it is not rounded to zero.
-/

namespace Trigger.Decimal

open Float.Model
open Float.Model.UnpackedFloat
open Trigger.Value (atNumber atPosition)

variable {α : Type} {items : List α} {x : Float} {s : Sign} {m : Nat} {e : Int}

/-! ## Signs -/

/-- Parts that are packed without loss. -/
def IsPacked : UnpackedFloat → Prop
  | .finite _ m e _ => Canonical m e ∧ e ≤ 971
  | _ => True

/-- Such parts are packed without loss. -/
theorem unpack_pack_of_isPacked {u : UnpackedFloat} (h : IsPacked u) : (pack u).unpack = u := by
  cases u with
  | notANumber => rfl
  | infinity s => cases s <;> rfl
  | zero s => cases s <;> rfl
  | finite s m e hm => exact unpack_pack h.1 h.2

/-- The parts of a number are packed without loss. -/
theorem isPacked_unpack (x : Float) : IsPacked x.toModel.unpack := by
  cases h : x.toModel.unpack with
  | finite s m e hm => exact (magnitude_of_unpack h).2.2
  | _ => trivial

/-- The sign does not matter for packing. -/
theorem IsPacked.neg {u : UnpackedFloat} (h : IsPacked u) : IsPacked u.neg := by
  cases u <;> exact h

/-- The sign can also be left out. -/
theorem IsPacked.abs {u : UnpackedFloat} (h : IsPacked u) : IsPacked u.abs := by
  cases u <;> exact h

/-- The parts of the opposite of a number. -/
theorem unpack_neg (x : Float) : (-x).toModel.unpack = x.toModel.unpack.neg :=
  unpack_pack_of_isPacked (isPacked_unpack x).neg

/-- The parts of the absolute value of a number. -/
theorem unpack_abs (x : Float) : x.abs.toModel.unpack = x.toModel.unpack.abs :=
  unpack_pack_of_isPacked (isPacked_unpack x).abs

/-! ## Positions -/

/-- A position that is not negative. -/
theorem atPosition_natCast (items : List α) (n : Nat) : atPosition items n = items[n]? :=
  if_pos (Int.natCast_nonneg n)

/-- An infinity is no position, nor is what is not a number. -/
theorem atNumber_of_not_finite (h : x.isFinite = false) : atNumber items x = none := by
  rw [atNumber, h, Bool.false_and, if_neg Bool.false_ne_true]

/-- A finite number other than zero without its fraction. -/
theorem truncate_of_finite {hm : 0 < m} (h : x.toModel.unpack = .finite s m e hm) :
    truncate x = s.apply (m * 2 ^ e.toNat / 2 ^ (-e).toNat : Nat) := by
  obtain ⟨⟨rfl, rfl⟩, hsign, -⟩ := magnitude_of_unpack h
  cases s with
  | negative => exact if_pos (hsign.mpr rfl)
  | positive => exact if_neg fun hnegative => nomatch hsign.mp hnegative

/-- The position that a finite number other than zero stands for. -/
theorem atNumber_of_finite {hm : 0 < m} (h : x.toModel.unpack = .finite s m e hm) :
    atNumber items x =
      if m % 2 ^ (-e).toNat = 0 then
        atPosition items (s.apply (m * 2 ^ e.toNat / 2 ^ (-e).toNat : Nat))
      else none := by
  have hfinite : x.isFinite = true := by
    change x.toModel.unpack.isFinite = true
    rw [h]
    rfl
  rw [← truncate_of_finite h]
  obtain ⟨⟨rfl, rfl⟩, -⟩ := magnitude_of_unpack h
  simp only [atNumber, hfinite, Bool.true_and, isIntegral, beq_iff_eq, Nat.pow_eq]

/-- A negative number other than zero is no position. -/
theorem atNumber_of_negative {hm : 0 < m} (h : x.toModel.unpack = .finite .negative m e hm) :
    atNumber items x = none := by
  rw [atNumber_of_finite h]
  split
  · rename_i hintegral
    have hle : 2 ^ (-e).toNat ≤ m * 2 ^ e.toNat :=
      Nat.le_trans (Nat.le_of_dvd hm (Nat.dvd_of_mod_eq_zero hintegral))
        (Nat.le_mul_of_pos_right m (Nat.two_pow_pos _))
    have hpositive := Nat.div_pos hle (Nat.two_pow_pos _)
    exact if_neg (show ¬0 ≤ -((m * 2 ^ e.toNat / 2 ^ (-e).toNat : Nat) : Int) by omega)
  · rfl

/-- Numbers outside every list that is not too long. -/
def IsOutside : UnpackedFloat → Prop
  | .zero _ => False
  | .finite _ _ e _ => 1 ≤ e ∨ e ≤ -53
  | _ => True

/-- The opposite of a number outside is outside. -/
theorem IsOutside.neg {u : UnpackedFloat} (h : IsOutside u) : IsOutside u.neg := by
  cases u <;> exact h

/-- A number outside is no position. -/
theorem atNumber_of_isOutside (h : IsOutside x.toModel.unpack) (hlength : items.length ≤ 2 ^ 53) :
    atNumber items x = none := by
  cases hx : x.toModel.unpack with
  | zero s => exact (hx ▸ h : IsOutside (.zero s)).elim
  | notANumber | infinity =>
    refine atNumber_of_not_finite ?_
    change x.toModel.unpack.isFinite = false
    rw [hx]
    rfl
  | finite s m e hm =>
    cases s with
    | negative => exact atNumber_of_negative hx
    | positive =>
      have hcanonical := (magnitude_of_unpack hx).2.2.1
      rw [atNumber_of_finite hx]
      rcases (hx ▸ h : IsOutside (.finite .positive m e hm)) with hlarge | hsmall
      · have hnone : (-e).toNat = 0 := by omega
        have hfull : 2 ^ 52 ≤ m := hcanonical.full.resolve_right (by omega)
        have hpower : 2 ^ 1 ≤ 2 ^ e.toNat := Nat.pow_le_pow_right (by decide) (by omega)
        have hbeyond : 2 ^ 53 ≤ m * 2 ^ e.toNat := Nat.mul_le_mul hfull hpower
        rw [hnone, Nat.pow_zero, Nat.mod_one, if_pos rfl, Nat.div_one]
        exact (atPosition_natCast items _).trans (List.getElem?_eq_none (by omega))
      · have hlt : m < 2 ^ (-e).toNat :=
          Nat.lt_of_lt_of_le hcanonical.lt (Nat.pow_le_pow_right (by decide) (by omega))
        rw [Nat.mod_eq_of_lt hlt, if_neg (by omega)]

/-- A number that is rounded to a great exponent is outside. -/
theorem isOutside_round {a : Accuracy} {k : Nat} (hm : 2 ^ k ≤ m) (hk : 52 ≤ k) (he : -1074 ≤ e)
    (hlarge : 53 ≤ k + e) :
    IsOutside (pack (roundWithAccuracy Format.binary64 s m e a)).unpack := by
  have hpositive : 0 < m := Nat.lt_of_lt_of_le (Nat.two_pow_pos k) hm
  have hlog : k ≤ m.log2 := (Nat.le_log2 (Nat.ne_of_gt hpositive)).mpr hm
  obtain ⟨r, e', hr, hround, hcanonical, hplace, -⟩ :=
    roundWithAccuracy_canonical s a he (.inl (by omega)) (.inl hpositive)
  rw [hround]
  by_cases hfinite : e' ≤ 971
  · rw [unpack_pack hcanonical hfinite]
    exact .inl (by omega)
  · rw [unpack_pack_of_lt (by omega)]
    trivial

/-! ## Quotients -/

/-- A quotient has at most as many digits as the numbers of digits differ by, and one more. -/
theorem div_lt_two_pow {a b k p : Nat} (hb : 0 < b) (h : a.log2 + 1 + k ≤ p + b.log2) :
    a * 2 ^ k / b < 2 ^ p := by
  rw [Nat.div_lt_iff_lt_mul hb]
  calc a * 2 ^ k < 2 ^ (a.log2 + 1) * 2 ^ k :=
        Nat.mul_lt_mul_of_pos_right Nat.lt_log2_self (Nat.two_pow_pos k)
    _ = 2 ^ (a.log2 + 1 + k) := (Nat.pow_add ..).symm
    _ ≤ 2 ^ (p + b.log2) := Nat.pow_le_pow_right (by decide) h
    _ = 2 ^ p * 2 ^ b.log2 := Nat.pow_add ..
    _ ≤ 2 ^ p * b := Nat.mul_le_mul_left _ (Nat.log2_self_le (Nat.ne_of_gt hb))

/-- A quotient has at least as many digits as the numbers of digits differ by. -/
theorem two_pow_le_div {a b k p : Nat} (ha : 0 < a) (hb : 0 < b)
    (h : p + (b.log2 + 1) ≤ a.log2 + k) : 2 ^ p ≤ a * 2 ^ k / b := by
  rw [Nat.le_div_iff_mul_le hb]
  calc 2 ^ p * b ≤ 2 ^ p * 2 ^ (b.log2 + 1) :=
        Nat.mul_le_mul_left _ (Nat.le_of_lt Nat.lt_log2_self)
    _ = 2 ^ (p + (b.log2 + 1)) := (Nat.pow_add ..).symm
    _ ≤ 2 ^ (a.log2 + k) := Nat.pow_le_pow_right (by decide) h
    _ = 2 ^ a.log2 * 2 ^ k := Nat.pow_add ..
    _ ≤ a * 2 ^ k := Nat.mul_le_mul_right _ (Nat.log2_self_le (Nat.ne_of_gt ha))

/-- What is left of a quotient that is less than one but more than a half. -/
theorem accuracyOfFraction_of_half_lt {a b : Nat} (hlt : a < b) (hhalf : b < 2 * a) :
    accuracyOfFraction (a % b) b = .inexact .gt := by
  rw [Nat.mod_eq_of_lt hlt, accuracyOfFraction, if_neg (by omega), Nat.compare_eq_gt.mpr hhalf]

variable {m₁ m₂ : Nat} {e₁ e₂ : Int}

/-- A quotient is rounded at the place that its number of digits asks for. -/
theorem div_eq_roundWithAccuracy (h₁ : 0 < m₁) (h₂ : 0 < m₂) {t : Int} {k : Nat}
    (ht : t = max ((m₁.log2 : Int) + e₁ - (m₂.log2 + e₂) - 53) (-1074)) (hk : e₁ - e₂ - t = k) :
    UnpackedFloat.div Format.binary64 (.finite .positive m₁ e₁ h₁) (.finite .positive m₂ e₂ h₂) =
      roundWithAccuracy Format.binary64 .positive (m₁ * 2 ^ k / m₂) t
        (accuracyOfFraction (m₁ * 2 ^ k % m₂) m₂) := by
  have hexponent : Format.binary64.targetExponent (totalExponent m₁ e₁ - totalExponent m₂ e₂) =
      max ((m₁.log2 : Int) + 1 + e₁ - (m₂.log2 + 1 + e₂) - 53) (-1074) := rfl
  have htarget : min (e₁ - e₂) (Format.binary64.targetExponent
      (totalExponent m₁ e₁ - totalExponent m₂ e₂)) = t := by omega
  have hplace : (e₁ - e₂ - t).toNat = k := by omega
  rw [UnpackedFloat.div, divCore, htarget, hplace]
  dsimp only
  rw [Nat.shiftLeft_eq]
  rfl

/-- A quotient is outside that is less than a half, and more than half of the least number. -/
theorem isOutside_div {j : Nat} (h₁ : 0 < m₁) (h₂ : 0 < m₂)
    (hsmall : m₁.log2 + e₁ + 2 ≤ m₂.log2 + e₂)
    (hplace : max (m₁.log2 + e₁ - (m₂.log2 + e₂) - 53) (-1074) ≤ e₁ - e₂)
    (hj : j = e₁ - e₂ + 1075) (hleast : m₂ < m₁ * 2 ^ j) :
    IsOutside (pack (UnpackedFloat.div Format.binary64 (.finite .positive m₁ e₁ h₁)
      (.finite .positive m₂ e₂ h₂))).unpack := by
  obtain ⟨t, ht⟩ : ∃ t, t = max ((m₁.log2 : Int) + e₁ - (m₂.log2 + e₂) - 53) (-1074) := ⟨_, rfl⟩
  obtain ⟨k, hk⟩ : ∃ k : Nat, e₁ - e₂ - t = k := ⟨(e₁ - e₂ - t).toNat, by omega⟩
  have hquotient : m₁ * 2 ^ k / m₂ < 2 ^ 54 := div_lt_two_pow h₂ (by omega)
  have hfull : 2 ^ 52 ≤ m₁ * 2 ^ k / m₂ ∨ t = -1074 := by
    by_cases hend : t = -1074
    · exact .inr hend
    · exact .inl (two_pow_le_div h₁ h₂ (by omega))
  -- Only at the least exponent can the quotient be zero, and there it is more than a half.
  have hpositive : 0 < m₁ * 2 ^ k / m₂ ∨
      accuracyOfFraction (m₁ * 2 ^ k % m₂) m₂ = .inexact .gt := by
    by_cases hzero : m₁ * 2 ^ k / m₂ = 0
    · right
      have hend : t = -1074 := hfull.resolve_left (by omega)
      obtain rfl : j = k + 1 := by omega
      rw [Nat.pow_succ', Nat.mul_left_comm] at hleast
      exact accuracyOfFraction_of_half_lt ((Nat.div_eq_zero_iff_lt h₂).mp hzero) hleast
    · exact .inl (Nat.pos_of_ne_zero hzero)
  have hshort : (m₁ * 2 ^ k / m₂).log2 ≤ 53 := by
    by_cases hzero : m₁ * 2 ^ k / m₂ = 0
    · rw [hzero, Nat.log2_zero]
      exact Nat.zero_le 53
    · exact Nat.le_of_lt_succ ((Nat.log2_lt hzero).mpr hquotient)
  have hlong : 52 ≤ (m₁ * 2 ^ k / m₂).log2 ∨ t = -1074 :=
    hfull.imp_left fun h => (Nat.le_log2 (by omega)).mpr h
  obtain ⟨r, e', hr, hround, hcanonical, -, hexponent⟩ :=
    roundWithAccuracy_canonical .positive _ (by omega) hlong hpositive
  rw [div_eq_roundWithAccuracy h₁ h₂ ht hk, hround, unpack_pack hcanonical (by omega)]
  exact .inr (by omega)

/-! ## Integers and powers of ten -/

/-- A natural number of up to 53 binary digits is a number. -/
theorem unpack_toFloat {n : Nat} (hn : 0 < n) (hlt : n < 2 ^ 53) :
    n.toUInt64.toFloat.toModel.unpack =
        .finite .positive (n * 2 ^ (52 - n.log2)) (n.log2 - 52)
          (Nat.mul_pos hn (Nat.two_pow_pos _)) ∧
      2 ^ 52 ≤ n * 2 ^ (52 - n.log2) ∧ n * 2 ^ (52 - n.log2) < 2 ^ 53 := by
  have hlog : n.log2 < 53 := (Nat.log2_lt (Nat.ne_of_gt hn)).mpr hlt
  have hword : n.toUInt64.toNat = n := by
    rw [Nat.toUInt64_eq, UInt64.toNat_ofNat', Nat.mod_eq_of_lt (by omega)]
  have hfull : 2 ^ 52 ≤ n * 2 ^ (52 - n.log2) := by
    calc 2 ^ 52 = 2 ^ n.log2 * 2 ^ (52 - n.log2) := by
          rw [← Nat.pow_add, Nat.add_sub_cancel' (by omega)]
      _ ≤ n * 2 ^ (52 - n.log2) := Nat.mul_le_mul_right _ (Nat.log2_self_le (Nat.ne_of_gt hn))
  have hshort : n * 2 ^ (52 - n.log2) < 2 ^ 53 := by
    calc n * 2 ^ (52 - n.log2) < 2 ^ (n.log2 + 1) * 2 ^ (52 - n.log2) :=
          Nat.mul_lt_mul_of_pos_right Nat.lt_log2_self (Nat.two_pow_pos _)
      _ = 2 ^ 53 := by
          rw [← Nat.pow_add]
          congr 1
          omega
  have hround : UnpackedFloat.round Format.binary64 .positive n 0 =
      .finite .positive (n * 2 ^ (52 - n.log2)) (n.log2 - 52)
        (Nat.mul_pos hn (Nat.two_pow_pos _)) := by
    have hshift : (0 - max ((n.log2 : Int) + 0 - 52) (-1074)).toNat = 52 - n.log2 := by omega
    have hexact := roundWithAccuracy_exact (e := 0 - ((52 - n.log2 : Nat) : Int)) .positive
      (k := 0) hfull hshort (by omega)
    rw [Nat.pow_zero, Nat.mul_one] at hexact
    rw [UnpackedFloat.round, targetExponent_eq, decreaseExponent, hshift]
    dsimp only
    rw [Nat.shiftLeft_eq, hexact]
    congr 1
    omega
  refine ⟨?_, hfull, hshort⟩
  change (pack (UnpackedFloat.ofInt Format.binary64 n.toUInt64.toNat)).unpack = _
  rw [hword, UnpackedFloat.ofInt, UnpackedFloat.normalize, Int.compare_eq_gt.mpr (by omega)]
  dsimp only
  rw [Int.toNat_natCast, hround]
  exact unpack_pack ⟨Nat.mul_pos hn (Nat.two_pow_pos _), hshort, by omega, .inl hfull⟩ (by omega)

/-- A number whose bits have neither a sign nor the least or the greatest exponent. -/
theorem unpack_of_toBits {k : Nat} (h : x.toBits.toNat / 2 ^ 52 = k + 1) (hk : k + 1 < 2047) :
    ∃ m hm, x.toModel.unpack = .finite .positive m (k - 1074) hm ∧ 2 ^ 52 ≤ m := by
  obtain ⟨fraction, hfraction⟩ : ∃ n, n = x.toBits.toNat % 2 ^ 52 := ⟨_, rfl⟩
  have hsign : Sign.positive = if 2 ^ 63 ≤ x.toBits.toNat then .negative else .positive :=
    (if_neg (by omega)).symm
  have hbiased : k + 1 = x.toBits.toNat / 2 ^ 52 % 2 ^ 11 := by omega
  have hunpack := unpack_eq x.toModel.toBits .positive (k + 1) fraction hsign hbiased hfraction
  rw [if_neg (by omega), if_neg (by omega)] at hunpack
  refine ⟨2 ^ 52 + fraction, by omega, hunpack.trans ?_, by omega⟩
  congr 1
  omega

/-- The exponents of the powers of ten that are numbers. -/
theorem toBits_powerOfTen : ∀ p : Fin 23,
    Float.exactlyRepresentablePowersOfTen[p].toBits.toNat / 2 ^ 52 = 1023 + (10 ^ p.val).log2 ∧
      (10 ^ p.val).log2 < 100 := by
  decide +kernel

/-- The parts of a power of ten that is a number. -/
theorem unpack_powerOfTen {p : Nat} (hp : p < Float.exactlyRepresentablePowersOfTen.size) :
    ∃ m hm, Float.exactlyRepresentablePowersOfTen[p].toModel.unpack =
      .finite .positive m ((10 ^ p).log2 - 52) hm ∧ 2 ^ 52 ≤ m := by
  obtain ⟨hbits, hlog⟩ := toBits_powerOfTen ⟨p, hp⟩
  dsimp only [Fin.getElem_fin] at hbits hlog
  obtain ⟨m, hm, h, hfull⟩ := unpack_of_toBits (k := 1022 + (10 ^ p).log2)
    (hbits.trans (by omega)) (by omega)
  refine ⟨m, hm, h.trans ?_, hfull⟩
  congr 1
  omega

end Trigger.Decimal
