import Trigger.Proofs.Decimal.Positions
import Trigger.Decimal.Numeral

/-!
# Numerals as positions

The numeral of an integer is read as the position that the integer is, or as a number outside if the
integer has more than 53 binary digits. A decimal with a power of ten is read as a number outside if
it has more of them as well, or if the power is below -4, there is one digit, and the decimal is more
than half of the least number above zero.
-/

namespace Trigger.Decimal

open Float.Model
open Float.Model.UnpackedFloat
open Trigger.Value (atNumber atPosition)

variable {α : Type} {items : List α} {d n p : Nat}

/-- A decimal whose exponent is not negative, where it is neither zero nor too great. -/
theorem ofDecimal_natCast (hd : 0 < d) (p : Nat) :
    ofDecimal d p = infinity ∨ ofDecimal d p = Float.ofScientific d false p := by
  have hsize : ¬(d.log2 : Int) * 30103 / 100000 + p < -400 := by omega
  have hsign : decide ((p : Int) < 0) = false := by simp
  rw [ofDecimal, if_neg (Nat.ne_of_gt hd)]
  by_cases hgreat : 400 < (d.log2 : Int) * 30103 / 100000 + p
  · exact .inl (if_pos hgreat)
  · right
    rw [if_neg hgreat, if_neg hsize, hsign, Int.natAbs_natCast]

/-- A decimal of at least 54 binary digits is outside. -/
theorem isOutside_ofDecimal (hd : 0 < d) (hlarge : 53 ≤ d.log2 + (10 ^ p).log2) :
    IsOutside (ofDecimal d p).toModel.unpack := by
  have hpower : 2 ^ (10 ^ p).log2 ≤ 10 ^ p :=
    Nat.log2_self_le (Nat.ne_of_gt (Nat.pow_pos (by decide)))
  rcases ofDecimal_natCast hd p with h | h <;> rw [h]
  · trivial
  rw [Float.ofScientific]
  by_cases hfast : d < 2 ^ 53 ∧ p ≤ 22
  · obtain ⟨hunpack₁, hfull₁, -⟩ := unpack_toFloat hd hfast.1
    have hp : p < Float.exactlyRepresentablePowersOfTen.size := Nat.lt_succ_of_le hfast.2
    obtain ⟨m, hm, hunpack₂, hfull₂⟩ := unpack_powerOfTen hp
    rw [dif_pos hfast]
    change IsOutside (pack (UnpackedFloat.mul Format.binary64 _
      Float.exactlyRepresentablePowersOfTen[p].toModel.unpack)).unpack
    rw [hunpack₁, hunpack₂]
    have hbits : 2 ^ (52 + 52) ≤ d * 2 ^ (52 - d.log2) * m :=
      Nat.pow_add 2 52 52 ▸ Nat.mul_le_mul hfull₁ hfull₂
    exact isOutside_round hbits (by decide) (by omega) (by omega)
  · have hbits : 2 ^ (d.log2 + 53 + (10 ^ p).log2) ≤ d <<< 53 * 10 ^ p := by
      rw [Nat.pow_add, Nat.pow_add, Nat.shiftLeft_eq]
      exact Nat.mul_le_mul
        (Nat.mul_le_mul_right _ (Nat.log2_self_le (Nat.ne_of_gt hd))) hpower
    rw [dif_neg hfast]
    change IsOutside (pack (UnpackedFloat.ofScientific Format.binary64 d p)).unpack
    rw [UnpackedFloat.ofScientific, dif_neg (Nat.ne_of_gt hd)]
    by_cases hgreat : (p : Int) > 2 ^ Format.binary64.exponentBits
    · rw [if_pos hgreat]
      trivial
    · rw [if_neg hgreat, if_neg (by omega), if_pos (Int.natCast_nonneg p)]
      have hexponent : 53 ≤ ((d.log2 + 53 + (10 ^ p).log2 : Nat) : Int) + (-53 + 0) := by omega
      exact isOutside_round hbits (by omega) (by decide) hexponent

/-- A natural number of at least 54 binary digits is read as a number outside. -/
theorem isOutside_ofDecimal_of_le (hn : 2 ^ 53 ≤ n) : IsOutside (ofDecimal n 0).toModel.unpack := by
  have hpositive : 0 < n := Nat.lt_of_lt_of_le (Nat.two_pow_pos 53) hn
  have hlog : 53 ≤ n.log2 := (Nat.le_log2 (Nat.ne_of_gt hpositive)).mpr hn
  exact isOutside_ofDecimal (p := 0) hpositive (by omega)

/-- A natural number of up to 53 binary digits is read without loss. -/
theorem unpack_ofDecimal (hn : 0 < n) (hlt : n < 2 ^ 53) :
    (ofDecimal n 0).toModel.unpack =
      .finite .positive (n * 2 ^ (52 - n.log2)) (n.log2 - 52)
        (Nat.mul_pos hn (Nat.two_pow_pos _)) := by
  have hlog : n.log2 < 53 := (Nat.log2_lt (Nat.ne_of_gt hn)).mpr hlt
  have hsize : ¬400 < (n.log2 : Int) * 30103 / 100000 + 0 := by omega
  obtain ⟨hunpack, hfull, hshort⟩ := unpack_toFloat hn hlt
  have hone : Float.exactlyRepresentablePowersOfTen[0].toModel.unpack =
      .finite .positive (2 ^ 52) (-52) (by decide) := rfl
  have hexact := roundWithAccuracy_exact (e := n.log2 - 52 + -52) .positive (k := 52) hfull hshort
    (by omega)
  rw [ofDecimal, if_neg (Nat.ne_of_gt hn), if_neg hsize, if_neg (by omega), Float.ofScientific,
    dif_pos ⟨hlt, by decide⟩]
  change (pack (UnpackedFloat.mul Format.binary64 _
    Float.exactlyRepresentablePowersOfTen[0].toModel.unpack)).unpack = _
  rw [hunpack, hone]
  change (pack (roundWithAccuracy Format.binary64 .positive _ _ .exact)).unpack = _
  rw [hexact, unpack_pack ⟨Nat.mul_pos hn (Nat.two_pow_pos _), hshort, by omega, .inl hfull⟩
    (by omega)]
  congr 1
  omega

/-- A power of ten from the fifth on has at least 17 binary digits. -/
theorem log2_ten_pow (hp : 5 ≤ p) : 16 ≤ (10 ^ p).log2 :=
  (Nat.le_log2 (Nat.ne_of_gt (Nat.pow_pos (by decide)))).mpr
    (Nat.le_trans (by decide : 2 ^ 16 ≤ 10 ^ 5) (Nat.pow_le_pow_right (by decide) hp))

/-- A quotient of a digit and a power of ten, both of which are numbers, is outside. -/
theorem isOutside_div_powerOfTen (hd : 0 < d) (hdigit : d < 10) (hp : 5 ≤ p)
    (hfew : p < Float.exactlyRepresentablePowersOfTen.size) :
    IsOutside (pack (UnpackedFloat.div Format.binary64 d.toUInt64.toFloat.toModel.unpack
      Float.exactlyRepresentablePowersOfTen[p].toModel.unpack)).unpack := by
  have hlog : d.log2 < 4 := (Nat.log2_lt (Nat.ne_of_gt hd)).mpr (by omega)
  have hpower : 16 ≤ (10 ^ p).log2 := log2_ten_pow hp
  have hsize : p < 23 := hfew
  obtain ⟨hunpack₁, hfull₁, hshort₁⟩ := unpack_toFloat hd (by omega)
  obtain ⟨m, hm, hunpack₂, hfull₂⟩ := unpack_powerOfTen hfew
  have hshort₂ := (magnitude_of_unpack hunpack₂).2.2.1.lt
  have hlog₁ : (d * 2 ^ (52 - d.log2)).log2 = 52 :=
    (Nat.log2_eq_iff (Nat.ne_of_gt (Nat.mul_pos hd (Nat.two_pow_pos _)))).mpr ⟨hfull₁, hshort₁⟩
  have hlog₂ : m.log2 = 52 := (Nat.log2_eq_iff (Nat.ne_of_gt hm)).mpr ⟨hfull₂, hshort₂⟩
  have hupper : (10 ^ p).log2 < 4 * p + 1 := by
    refine (Nat.log2_lt (Nat.ne_of_gt (Nat.pow_pos (by decide)))).mpr ?_
    calc 10 ^ p ≤ 16 ^ p := Nat.pow_le_pow_left (by decide) p
      _ = 2 ^ (4 * p) := (Nat.pow_mul 2 4 p).symm
      _ < 2 ^ (4 * p + 1) := Nat.pow_lt_pow_right (by decide) (Nat.lt_succ_self _)
  rw [hunpack₁, hunpack₂]
  obtain ⟨k, hk⟩ : ∃ k : Nat, (k + 1 : Nat) = (d.log2 : Int) - 52 - ((10 ^ p).log2 - 52) + 1075 :=
    ⟨(d.log2 - (10 ^ p).log2 + 1074 : Int).toNat, by omega⟩
  refine isOutside_div _ hm (by omega) (by omega) hk ?_
  calc m < 2 ^ (52 + 1) := hshort₂
    _ = 2 ^ 52 * 2 ^ 1 := Nat.pow_add 2 52 1
    _ ≤ d * 2 ^ (52 - d.log2) * 2 ^ (k + 1) :=
      Nat.mul_le_mul hfull₁ (Nat.pow_le_pow_right (by decide) (Nat.le_add_left 1 k))

/-- A digit with a negative power of ten is divided by that power. -/
theorem ofScientific_negOfNat (hd : 0 < d) (hp : 0 < p) (hlarge : p ≤ 2048) :
    UnpackedFloat.ofScientific Format.binary64 d (Int.negOfNat p) =
      UnpackedFloat.div Format.binary64 (.finite .positive d 0 hd)
        (.finite .positive (10 ^ p) 0 (Nat.pow_pos (by decide))) := by
  have hexponent : Int.negOfNat p = -(p : Int) := Int.negOfNat_eq
  have hwidth : (2 : Int) ^ Format.binary64.exponentBits = 2048 := rfl
  rw [UnpackedFloat.ofScientific, dif_neg (Nat.ne_of_gt hd), hwidth, hexponent,
    if_neg (by omega), if_neg (by omega), if_neg (by omega)]
  simp only [Int.neg_neg, Int.toNat_natCast]

/-- A digit with a power of ten below -4 is outside, if it is more than half of the least number. -/
theorem isOutside_ofDecimal_neg (hd : 0 < d) (hdigit : d < 10) (hp : 5 ≤ p)
    (hleast : 10 ^ p < d * 2 ^ 1075) : IsOutside (ofDecimal d (-p)).toModel.unpack := by
  have hlog : d.log2 < 4 := (Nat.log2_lt (Nat.ne_of_gt hd)).mpr (by omega)
  have hpower : 16 ≤ (10 ^ p).log2 := log2_ten_pow hp
  have hjoin (k : Nat) : 2 ^ 4 * 2 ^ k = 2 ^ (4 + k) := (Nat.pow_add 2 4 k).symm
  have hbound : 3 * p < 4 + 1075 := by
    refine (Nat.pow_lt_pow_iff_right (by decide : 1 < 2)).mp ?_
    calc 2 ^ (3 * p) = 8 ^ p := Nat.pow_mul 2 3 p
      _ ≤ 10 ^ p := Nat.pow_le_pow_left (by decide) p
      _ < d * 2 ^ 1075 := hleast
      _ ≤ 2 ^ 4 * 2 ^ 1075 := Nat.mul_le_mul_right _ (by omega)
      _ = 2 ^ (4 + 1075) := hjoin 1075
  have hsize : ¬400 < (d.log2 : Int) * 30103 / 100000 + -p := by omega
  have hsign : decide (-(p : Int) < 0) = true := decide_eq_true (by omega)
  rw [ofDecimal, if_neg (Nat.ne_of_gt hd), if_neg hsize, if_neg (by omega), hsign, Int.natAbs_neg,
    Int.natAbs_natCast, Float.ofScientific]
  by_cases hfast : d < 2 ^ 53 ∧ p ≤ 22
  · have hfew : p < Float.exactlyRepresentablePowersOfTen.size := Nat.lt_succ_of_le hfast.2
    rw [dif_pos hfast]
    exact isOutside_div_powerOfTen hd hdigit hp hfew
  · rw [dif_neg hfast]
    change IsOutside (pack (UnpackedFloat.ofScientific Format.binary64 d (Int.negOfNat p))).unpack
    rw [ofScientific_negOfNat hd (by omega) (by omega)]
    exact isOutside_div hd _ (by omega) (by omega) (by decide) hleast

/-! ## Positions -/

/-- The numeral of a natural number stands for the number, as a position. -/
theorem atNumber_ofDecimal (n : Nat) (hlength : items.length ≤ 2 ^ 53) :
    atNumber items (ofDecimal n 0) = items[n]? := by
  by_cases hzero : n = 0
  · subst hzero
    have hposition : ((0.0 : Float).isFinite && isIntegral 0.0) = true ∧ truncate 0.0 = 0 := by
      decide +kernel
    have hread : ofDecimal 0 0 = 0.0 := by rw [ofDecimal, if_pos rfl]
    rw [hread, atNumber, if_pos hposition.1, hposition.2]
    exact atPosition_natCast items 0
  have hn : 0 < n := Nat.pos_of_ne_zero hzero
  by_cases hlt : n < 2 ^ 53
  · have hlog : n.log2 < 53 := (Nat.log2_lt hzero).mpr hlt
    have hplace : (-((n.log2 : Int) - 52)).toNat = 52 - n.log2 := by omega
    have hnone : ((n.log2 : Int) - 52).toNat = 0 := by omega
    rw [atNumber_of_finite (unpack_ofDecimal hn hlt), hplace, hnone, Nat.mul_mod_left, if_pos rfl,
      Nat.pow_zero, Nat.mul_one, Nat.mul_div_cancel n (Nat.two_pow_pos _)]
    exact atPosition_natCast items n
  · have houtside := isOutside_ofDecimal_of_le (Nat.le_of_not_lt hlt)
    rw [atNumber_of_isOutside houtside hlength]
    exact (List.getElem?_eq_none (by omega)).symm

/-- The opposite of a natural number other than zero is no position. -/
theorem atNumber_neg_ofDecimal (hn : 0 < n) (hlength : items.length ≤ 2 ^ 53) :
    atNumber items (-ofDecimal n 0) = none := by
  by_cases hlt : n < 2 ^ 53
  · have hneg := unpack_neg (ofDecimal n 0)
    rw [unpack_ofDecimal hn hlt] at hneg
    exact atNumber_of_negative hneg
  · have houtside := isOutside_ofDecimal_of_le (Nat.le_of_not_lt hlt)
    exact atNumber_of_isOutside (unpack_neg _ ▸ houtside.neg) hlength

/-- A number that is not below `10 ^ 21` is outside. -/
theorem isOutside_of_not_lt {x : Float} (h : ¬x.abs < 1e21) : IsOutside x.toModel.unpack := by
  obtain ⟨m₂, hm₂, hbound, -⟩ := unpack_of_toBits (x := 1e21) (k := 1091) (by decide +kernel)
    (by decide)
  have habs : ¬(x.toModel.unpack.abs.compare (1e21 : Float).toModel.unpack == some .lt) = true := by
    rw [← unpack_abs]
    exact fun hlt => h (decide_eq_true (p := x.abs.toModel < (1e21 : Float).toModel) hlt)
  rw [hbound] at habs
  cases hx : x.toModel.unpack with
  | notANumber => trivial
  | infinity s => trivial
  | zero s => exact absurd (hx ▸ rfl) habs
  | finite s m e hm =>
    refine .inl (Int.not_lt.mp fun hsmall => habs ?_)
    have hcompare : compare e (17 : Int) = .lt := Int.compare_eq_lt.mpr (by omega)
    rw [hx]
    change (some ((compare e (17 : Int)).then _) == some Ordering.lt) = true
    rw [hcompare]
    rfl

end Trigger.Decimal
