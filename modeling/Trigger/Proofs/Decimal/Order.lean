import Trigger.Proofs.Decimal.Positions

/-!
# The order of numbers

Every number but the one that is not a number has a rank: its place between the two infinities, and,
among finite numbers of one sign, its exponent before its mantissa. To compare two numbers is to
compare their ranks, so that the order of numbers is that of their ranks. What has no rank is
neither less nor greater than anything, and equal to nothing.
-/

namespace Trigger.Decimal

open Float.Model
open Float.Model.UnpackedFloat

variable {x y z : Float}

/-! ## Ranks -/

/-- The rank of a number among all numbers, of which the negative ones are counted backwards. -/
def rank : UnpackedFloat → Option (ℤ ×ₗ ℤ ×ₗ ℤ)
  | .notANumber => none
  | .infinity .negative => some (toLex (-2, toLex (0, 0)))
  | .finite .negative m e _ => some (toLex (-1, toLex (-e, -m)))
  | .zero _ => some (toLex (0, toLex (0, 0)))
  | .finite .positive m e _ => some (toLex (1, toLex (e, m)))
  | .infinity .positive => some (toLex (2, toLex (0, 0)))

/-- Opposites compare the other way round. -/
theorem compare_neg (a b : ℤ) : compare (-a) (-b) = (compare a b).swap := by
  rw [Int.compare_swap, Int.compare_eq_ite_lt, Int.compare_eq_ite_lt]
  simp only [Int.neg_lt_neg_iff]

/-- Natural numbers compare as they do among the integers. -/
theorem compare_natCast (m n : ℕ) : compare (m : ℤ) n = compare m n := by
  rw [Int.compare_eq_ite_lt, Nat.compare_eq_ite_lt]
  simp only [Int.ofNat_lt]

/-- Numbers compare as their ranks do. -/
theorem compare_eq_rank (u v : UnpackedFloat) :
    u.compare v = (rank u).bind fun k => (rank v).map (compare k) := by
  -- Only two finite numbers of one sign differ by more than their kinds.
  rcases u with s | _ | s | ⟨s, m, e, hm⟩ <;> rcases v with t | _ | t | ⟨t, n, f, hn⟩ <;>
    (try cases s) <;> (try cases t) <;> try rfl
  case finite.finite.negative.negative =>
    change some ((compare e f).then (compare m n)).swap =
      some ((compare (-e) (-f)).then (compare (-(m : ℤ)) (-n)))
    rw [compare_neg, compare_neg, compare_natCast, Ordering.swap_then]
  case finite.finite.positive.positive =>
    change some ((compare e f).then (compare m n)) =
      some ((compare e f).then (compare (m : ℤ) n))
    rw [compare_natCast]

/-- Two numbers compare in a way if they have ranks that do. -/
theorem compare_eq_some_iff {o : Ordering} :
    x.toModel.unpack.compare y.toModel.unpack = some o ↔
      ∃ k l, rank x.toModel.unpack = some k ∧ rank y.toModel.unpack = some l ∧ compare k l = o := by
  simp only [compare_eq_rank, Option.bind_eq_some_iff, Option.map_eq_some_iff, exists_and_left]

/-! ## The relations -/

/-- A number is less than another one if its rank is. -/
protected theorem lt_iff : x < y ↔
    ∃ k l, rank x.toModel.unpack = some k ∧ rank y.toModel.unpack = some l ∧ k < l := by
  have hmodel : x < y ↔ x.toModel.unpack.compare y.toModel.unpack = some .lt := by
    change decide (x.toModel < y.toModel) = true ↔ _
    rw [decide_eq_true_eq]
    exact beq_iff_eq
  simp only [hmodel, compare_eq_some_iff, compare_lt_iff_lt]

/-- A number is not greater than another one if its rank is not. -/
protected theorem le_iff : x ≤ y ↔
    ∃ k l, rank x.toModel.unpack = some k ∧ rank y.toModel.unpack = some l ∧ k ≤ l := by
  have hmodel : x ≤ y ↔
      (x.toModel.unpack.compare y.toModel.unpack).any (·.isLE) = true := by
    change decide (x.toModel ≤ y.toModel) = true ↔ _
    exact decide_eq_true_iff
  rw [hmodel, Option.any_eq_true]
  simp only [compare_eq_some_iff]
  constructor
  · rintro ⟨o, ⟨k, l, hk, hl, rfl⟩, hle⟩
    exact ⟨k, l, hk, hl, compare_le_iff_le.mp (Ordering.isLE_iff_ne_gt.mp hle)⟩
  · rintro ⟨k, l, hk, hl, hle⟩
    exact ⟨compare k l, ⟨k, l, hk, hl, rfl⟩,
      Ordering.isLE_iff_ne_gt.mpr (compare_le_iff_le.mpr hle)⟩

/-- A number is equal to another one if its rank is. -/
protected theorem beq_iff : (x == y) = true ↔
    ∃ k, rank x.toModel.unpack = some k ∧ rank y.toModel.unpack = some k := by
  have hmodel : (x == y) = true ↔ x.toModel.unpack.compare y.toModel.unpack = some .eq := by
    change (_ == some Ordering.eq) = true ↔ _
    exact beq_iff_eq
  simp only [hmodel, compare_eq_some_iff, compare_eq_iff_eq]
  constructor
  · rintro ⟨k, l, hk, hl, rfl⟩
    exact ⟨k, hk, hl⟩
  · rintro ⟨k, hk, hl⟩
    exact ⟨k, k, hk, hl, rfl⟩

/-- It does not matter which of two equal numbers comes first. -/
theorem compare_eq_eq_comm (u v : UnpackedFloat) :
    (u.compare v == some .eq) = (v.compare u == some .eq) := by
  rw [compare_eq_rank, compare_eq_rank]
  cases rank u with
  | none => cases rank v <;> rfl
  | some k =>
    cases rank v with
    | none => rfl
    | some l =>
      change (some (compare k l) == some .eq) = (some (compare l k) == some .eq)
      rw [Bool.eq_iff_iff, beq_iff_eq, beq_iff_eq, Option.some_inj, Option.some_inj,
        compare_eq_iff_eq, compare_eq_iff_eq, eq_comm]

/-- Numbers are compared for equality in either order. -/
protected theorem beq_comm (x y : Float) : (x == y) = (y == x) :=
  compare_eq_eq_comm x.toModel.unpack y.toModel.unpack

/-- A number is not less than itself. -/
protected theorem lt_irrefl (x : Float) : ¬x < x := by
  intro h
  obtain ⟨k, l, hk, hl, hlt⟩ := Decimal.lt_iff.mp h
  exact hlt.ne (Option.some.inj (hk.symm.trans hl))

/-- A number is not greater than another one if it is less. -/
protected theorem le_of_lt (h : x < y) : x ≤ y := by
  obtain ⟨k, l, hk, hl, hlt⟩ := Decimal.lt_iff.mp h
  exact Decimal.le_iff.mpr ⟨k, l, hk, hl, hlt.le⟩

/-- A number is not less than another one if it is equal to it. -/
protected theorem ge_of_beq (h : (x == y) = true) : y ≤ x := by
  obtain ⟨k, hx, hy⟩ := Decimal.beq_iff.mp h
  exact Decimal.le_iff.mpr ⟨k, k, hy, hx, le_rfl⟩

/-- What is not greater than a number is not greater than one that is not less. -/
protected theorem le_trans (h : x ≤ y) (h' : y ≤ z) : x ≤ z := by
  obtain ⟨k, l, hx, hy, hle⟩ := Decimal.le_iff.mp h
  obtain ⟨l', m, hy', hz, hle'⟩ := Decimal.le_iff.mp h'
  obtain rfl := Option.some.inj (hy.symm.trans hy')
  exact Decimal.le_iff.mpr ⟨k, m, hx, hz, hle.trans hle'⟩

/-- What is less than a number is less than one that is not less. -/
protected theorem lt_of_lt_of_le (h : x < y) (h' : y ≤ z) : x < z := by
  obtain ⟨k, l, hx, hy, hlt⟩ := Decimal.lt_iff.mp h
  obtain ⟨l', m, hy', hz, hle⟩ := Decimal.le_iff.mp h'
  obtain rfl := Option.some.inj (hy.symm.trans hy')
  exact Decimal.lt_iff.mpr ⟨k, m, hx, hz, hlt.trans_le hle⟩

/-- A number has a rank unless it is not a number. -/
theorem exists_rank (hx : x.isNaN = false) : ∃ k, rank x.toModel.unpack = some k := by
  change x.toModel.unpack.isNaN = false at hx
  cases hunpack : x.toModel.unpack with
  | notANumber =>
    rw [hunpack] at hx
    exact nomatch hx
  | infinity s | zero s | finite s m e hm => cases s <;> exact ⟨_, rfl⟩

/-- A number is not greater than another one that is not less. -/
protected theorem le_of_not_lt (hx : x.isNaN = false) (hy : y.isNaN = false) (h : ¬y < x) :
    x ≤ y := by
  obtain ⟨k, hk⟩ := exists_rank hx
  obtain ⟨l, hl⟩ := exists_rank hy
  exact Decimal.le_iff.mpr ⟨k, l, hk, hl, le_of_not_gt fun hlt =>
    h (Decimal.lt_iff.mpr ⟨l, k, hl, hk, hlt⟩)⟩

end Trigger.Decimal
