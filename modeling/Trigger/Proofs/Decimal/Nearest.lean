import Trigger.Decimal.Rounded
import Trigger.Proofs.Decimal.Ratio
import Trigger.Proofs.Decimal.Readback

/-!
# The numbers nearest to integers

An integer is made a floating-point number by rounding it to 53 binary digits, a half to the even
neighbour. What it is rounded to is an integer again, so that the order of the numbers is an order of
integers: that of the nearest ones. The nearest integers are in the order of the integers that they
are nearest to, but two integers can share one. Up to 53 binary digits every integer is its own
nearest one, and where the nearest one has more than 1024 the number is infinite.
-/

namespace Trigger.Decimal

open Float.Model
open Float.Model.UnpackedFloat

/-- The natural number with 53 binary digits, apart from zeros behind them, that is nearest to a
natural number. -/
def nearestNat (n : ℕ) : ℕ := divideToNearest n (2 ^ (n.log2 - 52)) * 2 ^ (n.log2 - 52)

/-- The integer with 53 binary digits, apart from zeros behind them, that is nearest to an
integer. -/
def nearest (i : ℤ) : ℤ := i.sign * nearestNat i.natAbs

variable {d k m n : ℕ} {a b i : ℤ}

/-! ## Quotients that are rounded -/

/-- A common factor does not change a rounded quotient. -/
theorem divideToNearest_mul_right (hk : 0 < k) (n d : ℕ) :
    divideToNearest (n * k) (d * k) = divideToNearest n d := by
  have hcompare : compare (2 * (n % d * k)) (d * k) = compare (2 * (n % d)) d := by
    rw [← Nat.mul_assoc, Nat.compare_eq_ite_lt, Nat.compare_eq_ite_lt]
    simp only [Nat.mul_lt_mul_right hk]
  unfold divideToNearest
  rw [Nat.mul_mod_mul_right, hcompare, Nat.mul_div_mul_right n d hk]

/-- A quotient without a remainder is not rounded. -/
theorem divideToNearest_mul_left (hd : 0 < d) (q : ℕ) : divideToNearest (q * d) d = q := by
  have hcompare : compare (2 * (q * d % d)) d = .lt := by
    rw [Nat.mul_mod_left]
    exact Nat.compare_eq_lt.mpr hd
  unfold divideToNearest
  rw [hcompare, Nat.mul_div_cancel q hd]

/-- The digits that are left of a mantissa, whether the rest is at least a half, and whether it is
neither a half nor nothing. -/
theorem shiftRight_eq (m k : ℕ) : ExtendedMantissa.mk m false false >>> k =
    ⟨m / 2 ^ k, decide (2 ^ k ≤ 2 * (m % 2 ^ k)), decide (2 * (m % 2 ^ k) % 2 ^ k ≠ 0)⟩ := by
  induction k with
  | zero =>
    rw [Nat.pow_zero, Nat.mod_one, Nat.div_one]
    rfl
  | succ k ih =>
    have hpower := Nat.two_pow_pos k
    have hrest : m % 2 ^ k < 2 ^ k := Nat.mod_lt m hpower
    have hrest' : m % 2 ^ (k + 1) = m % 2 ^ k + 2 ^ k * (m / 2 ^ k % 2) := Nat.mod_pow_succ
    have htwice : 2 * (m % 2 ^ (k + 1)) % 2 ^ (k + 1) = 2 * (m % 2 ^ k) := by
      rw [hrest', Nat.mul_add, ← Nat.mul_assoc, ← Nat.pow_succ', Nat.add_mul_mod_self_left,
        Nat.mod_eq_of_lt (by omega)]
    change (ExtendedMantissa.mk m false false >>> k).shiftRightOne = _
    rw [ih, ExtendedMantissa.shiftRightOne, htwice, Nat.div_div_eq_div_mul, ← Nat.pow_succ]
    congr 1
    · rcases Nat.mod_two_eq_zero_or_one (m / 2 ^ k) with hlast | hlast <;>
        simp [hrest', hlast] <;> omega
    · by_cases hnone : m % 2 ^ k = 0
      · simp [hnone]
      · by_cases hhalf : 2 ^ k ≤ 2 * (m % 2 ^ k)
        · simp [hnone, hhalf]
        · simp [hnone, Nat.mod_eq_of_lt (Nat.lt_of_not_le hhalf)]

/-- A mantissa is rounded like the quotient that is left of it. -/
theorem roundedMantissa_shiftRight (m k : ℕ) :
    (ExtendedMantissa.mk m false false >>> k).roundedMantissa = divideToNearest m (2 ^ k) := by
  have hpower := Nat.two_pow_pos k
  have hrest : m % 2 ^ k < 2 ^ k := Nat.mod_lt m hpower
  have hparity := Nat.mod_two_eq_zero_or_one (m / 2 ^ k)
  rw [shiftRight_eq, divideToNearest]
  rcases Nat.lt_trichotomy (2 * (m % 2 ^ k)) (2 ^ k) with hlt | heq | hgt
  · rw [Nat.compare_eq_lt.mpr hlt, decide_eq_false (Nat.not_le.mpr hlt)]
    cases decide (2 * (m % 2 ^ k) % 2 ^ k ≠ 0) <;> rfl
  · rw [Nat.compare_eq_eq.mpr heq, heq, Nat.mod_self, decide_eq_true (Nat.le_refl _)]
    change m / 2 ^ k + m / 2 ^ k % 2 = _
    dsimp only
    split <;> omega
  · have hmore : 2 * (m % 2 ^ k) % 2 ^ k ≠ 0 := by
      rw [Nat.mod_eq_sub_mod hgt.le, Nat.mod_eq_of_lt (by omega)]
      omega
    rw [Nat.compare_eq_gt.mpr hgt, decide_eq_true hgt.le, decide_eq_true hmore]
    rfl

/-! ## Mantissas and exponents -/

/-- The first digits of a natural number are those of the nearest one, with zeros behind them if
there are fewer. -/
theorem leading_eq (n : ℕ) :
    leading n = divideToNearest n (2 ^ (n.log2 - 52)) * 2 ^ (52 - n.log2) := by
  rw [leading, roundedMantissa_shiftRight]
  rcases Nat.le_total 52 n.log2 with hlong | hshort
  · have hplaces : 2 ^ (n.log2 + 1) = 2 ^ (n.log2 - 52) * 2 ^ 53 := by
      rw [← Nat.pow_add]
      congr 1
      omega
    rw [hplaces, divideToNearest_mul_right (Nat.two_pow_pos 53), Nat.sub_eq_zero_of_le hlong,
      Nat.pow_zero, Nat.mul_one]
  · have hzeros : n * 2 ^ 53 = n * 2 ^ (52 - n.log2) * 2 ^ (n.log2 + 1) := by
      rw [Nat.mul_assoc, ← Nat.pow_add]
      congr 2
      omega
    have hwhole := divideToNearest_mul_left Nat.one_pos n
    rw [Nat.mul_one] at hwhole
    rw [hzeros, divideToNearest_mul_left (Nat.two_pow_pos _), Nat.sub_eq_zero_of_le hshort,
      Nat.pow_zero, hwhole]

/-- The value of the mantissa and the exponent of a natural number is the nearest one. -/
theorem nearestNat_mul (hn : 0 < n) :
    nearestNat n * 2 ^ 52 = (parts n).1 * 2 ^ ((parts n).2 + 52).toNat := by
  obtain ⟨⟨-, hle⟩, -⟩ := leading_spec hn
  have hvalue : nearestNat n * 2 ^ 52 = leading n * 2 ^ n.log2 := by
    rw [leading_eq, nearestNat, Nat.mul_assoc, Nat.mul_assoc, ← Nat.pow_add, ← Nat.pow_add]
    congr 2
    omega
  rw [hvalue, parts]
  split
  · have hplace : ((n.log2 : ℤ) - 52 + 52).toNat = n.log2 := by omega
    rw [hplace]
  · have hplace : ((n.log2 : ℤ) - 51 + 52).toNat = n.log2 + 1 := by omega
    have hpower : leading n = 2 ^ 53 := by omega
    rw [hplace, hpower, ← Nat.pow_add, ← Nat.pow_add]
    congr 1
    omega

/-- A number with a greater exponent is greater than every one with a smaller exponent. -/
theorem mul_two_pow_lt {m₁ m₂ : ℕ} {e₁ e₂ : ℤ} (hlt : m₁ < 2 ^ 53) (hfull : 2 ^ 52 ≤ m₂)
    (hleast : -52 ≤ e₁) (h : e₁ < e₂) : m₁ * 2 ^ (e₁ + 52).toNat < m₂ * 2 ^ (e₂ + 52).toNat := by
  calc m₁ * 2 ^ (e₁ + 52).toNat < 2 ^ 53 * 2 ^ (e₁ + 52).toNat :=
        Nat.mul_lt_mul_of_pos_right hlt (Nat.two_pow_pos _)
    _ = 2 ^ 52 * 2 ^ ((e₁ + 52).toNat + 1) := by ring
    _ ≤ 2 ^ 52 * 2 ^ (e₂ + 52).toNat :=
        Nat.mul_le_mul_left _ (Nat.pow_le_pow_right (by decide) (by omega))
    _ ≤ m₂ * 2 ^ (e₂ + 52).toNat := Nat.mul_le_mul_right _ hfull

/-- The mantissas and exponents of natural numbers are in the order of the nearest ones. -/
theorem parts_lt_iff (hd : 0 < d) (hn : 0 < n) :
    (parts d).2 < (parts n).2 ∨ (parts d).2 = (parts n).2 ∧ (parts d).1 < (parts n).1 ↔
      nearestNat d < nearestNat n := by
  obtain ⟨hcd, hed⟩ := canonical_parts hd
  obtain ⟨hcn, hen⟩ := canonical_parts hn
  have hfd : 2 ^ 52 ≤ (parts d).1 := hcd.full.resolve_right (by omega)
  have hfn : 2 ^ 52 ≤ (parts n).1 := hcn.full.resolve_right (by omega)
  have hscale : nearestNat d < nearestNat n ↔ nearestNat d * 2 ^ 52 < nearestNat n * 2 ^ 52 :=
    (Nat.mul_lt_mul_right (Nat.two_pow_pos 52)).symm
  rw [hscale, nearestNat_mul hd, nearestNat_mul hn]
  rcases lt_trichotomy (parts d).2 (parts n).2 with hlt | heq | hgt
  · exact iff_of_true (.inl hlt) (mul_two_pow_lt hcd.lt hfn hed hlt)
  · rw [heq, Nat.mul_lt_mul_right (Nat.two_pow_pos _)]
    simp
  · exact iff_of_false (by omega) (mul_two_pow_lt hcn.lt hfd hen hgt).not_gt

/-- The number nearest to a positive one is positive. -/
theorem nearestNat_pos (hn : 0 < n) : 0 < nearestNat n := by
  have hvalue := nearestNat_mul hn
  have hpositive := Nat.mul_pos (canonical_parts hn).1.pos
    (Nat.two_pow_pos ((parts n).2 + 52).toNat)
  omega

/-- Natural numbers do not change their order when they are made the nearest ones. -/
theorem nearestNat_mono (h : d ≤ n) : nearestNat d ≤ nearestNat n := by
  rcases Nat.eq_zero_or_pos d with rfl | hd
  · exact Nat.zero_le _
  have hparts := parts_mono hd h
  have hlt := parts_lt_iff (Nat.lt_of_lt_of_le hd h) hd
  omega

/-- The exponent of a natural number is not too great if the nearest one has 1024 digits at most. -/
theorem parts_le_iff (hn : 0 < n) : (parts n).2 ≤ 971 ↔ nearestNat n < 2 ^ 1024 := by
  obtain ⟨hcanonical, hleast⟩ := canonical_parts hn
  have hfull : 2 ^ 52 ≤ (parts n).1 := hcanonical.full.resolve_right (by omega)
  have hscale (k : ℕ) : nearestNat n < k ↔ nearestNat n * 2 ^ 52 < k * 2 ^ 52 :=
    (Nat.mul_lt_mul_right (Nat.two_pow_pos 52)).symm
  have hplace : ((972 : ℤ) + 52).toNat = 1024 := rfl
  rw [hscale, nearestNat_mul hn, Nat.mul_comm (2 ^ 1024), ← hplace]
  rcases lt_or_ge (parts n).2 972 with hlt | hge
  · exact iff_of_true (by omega) (mul_two_pow_lt hcanonical.lt (Nat.le_refl _) hleast hlt)
  · refine iff_of_false (by omega) (Nat.not_lt.mpr (Nat.mul_le_mul hfull ?_))
    exact Nat.pow_le_pow_right (by decide) (by omega)

/-- A natural number of up to 53 digits is its own nearest one, and so is the next. -/
theorem nearestNat_of_le (h : n ≤ 2 ^ 53) : nearestNat n = n := by
  rcases Nat.lt_or_eq_of_le h with hlt | rfl
  · have hshort : n.log2 - 52 = 0 := by
      rcases Nat.eq_zero_or_pos n with rfl | hn
      · simp
      · have hlog := (Nat.log2_lt (Nat.ne_of_gt hn)).mpr hlt
        omega
    have hwhole := divideToNearest_mul_left Nat.one_pos n
    rw [Nat.mul_one] at hwhole
    rw [nearestNat, hshort, Nat.pow_zero, hwhole, Nat.mul_one]
  · rw [nearestNat, Nat.log2_two_pow]
    exact congrArg (· * 2 ^ 1) (divideToNearest_mul_left (Nat.two_pow_pos 1) (2 ^ 52))

/-! ## Integers -/

/-- An integer is made a finite number. -/
def HasNumber (i : ℤ) : Prop := nearestNat i.natAbs < 2 ^ 1024

/-- The place of an integer among all numbers. -/
def place (i : ℤ) : ℤ ×ₗ ℤ ×ₗ ℤ :=
  toLex (i.sign, toLex (i.sign * (parts i.natAbs).2, i.sign * (parts i.natAbs).1))

/-- An integer of up to 53 digits is its own nearest one. -/
theorem nearest_of_natAbs_le (h : i.natAbs ≤ 2 ^ 53) : nearest i = i := by
  rw [nearest, nearestNat_of_le h]
  exact Int.sign_mul_natAbs i

/-- An integer of up to 53 digits is made a finite number. -/
theorem hasNumber_of_natAbs_le (h : i.natAbs ≤ 2 ^ 53) : HasNumber i := by
  rw [HasNumber, nearestNat_of_le h]
  exact h.trans_lt (pow_lt_pow_right₀ one_lt_two (by decide))

/-- Integers do not change their order when they are made the nearest ones. -/
theorem nearest_mono (h : a ≤ b) : nearest a ≤ nearest b := by
  have hmono := nearestNat_mono (d := a.natAbs) (n := b.natAbs)
  have hmono' := nearestNat_mono (d := b.natAbs) (n := a.natAbs)
  unfold nearest
  rcases lt_trichotomy a 0 with ha | ha | ha <;> rcases lt_trichotomy b 0 with hb | hb | hb <;>
    simp only [Int.sign_eq_neg_one_of_neg, Int.sign_eq_one_of_pos, Int.sign_zero, ha, hb] <;> omega

/-- Integers have their places in the order of the nearest ones. -/
theorem place_lt_iff : place a < place b ↔ nearest a < nearest b := by
  have hnearest (i : ℤ) (h : i ≠ 0) : 0 < nearestNat i.natAbs :=
    nearestNat_pos (Int.natAbs_pos.mpr h)
  have ha' := hnearest a
  have hb' := hnearest b
  simp only [place, nearest, Prod.Lex.toLex_lt_toLex]
  -- The parts decide between two integers of one sign, and the signs between all others.
  rcases lt_trichotomy a 0 with ha | ha | ha <;> rcases lt_trichotomy b 0 with hb | hb | hb <;>
    simp only [Int.sign_eq_neg_one_of_neg, Int.sign_eq_one_of_pos, Int.sign_zero, lt_irrefl,
      false_or, true_and, ha, hb]
  case inl.inl =>
    have hparts := parts_lt_iff (Int.natAbs_pos.mpr hb.ne) (Int.natAbs_pos.mpr ha.ne)
    omega
  case inr.inr.inr.inr =>
    have hparts := parts_lt_iff (Int.natAbs_pos.mpr ha.ne') (Int.natAbs_pos.mpr hb.ne')
    omega
  all_goals omega

/-! ## The numbers of integers -/

/-- An integer is made the finite number with its place, or an infinite one. -/
theorem rank_ofInt (i : ℤ) :
    (HasNumber i ∧ (Float.ofInt i).toModel.unpack.isFinite = true ∧
        rank (Float.ofInt i).toModel.unpack = some (place i)) ∨
      ¬HasNumber i ∧ (Float.ofInt i).toModel.unpack.isFinite = false := by
  cases i with
  | ofNat n =>
    change (_ ∧ (Float.ofNat n).toModel.unpack.isFinite = true ∧
      rank (Float.ofNat n).toModel.unpack = _) ∨ _ ∧ (Float.ofNat n).toModel.unpack.isFinite = false
    rcases Nat.eq_zero_or_pos n with rfl | hn
    · exact .inl ⟨hasNumber_of_natAbs_le (Nat.zero_le _), rfl, rfl⟩
    have hsign : (Int.ofNat n).sign = 1 := Int.sign_eq_one_of_pos (Int.natCast_pos.mpr hn)
    rcases unpack_ofNat_cases hn with ⟨hgreat, hunpack⟩ | ⟨hsmall, hunpack⟩ <;> rw [hunpack]
    · exact .inr ⟨fun h => (parts_le_iff hn).mpr h |>.not_gt hgreat, rfl⟩
    · refine .inl ⟨(parts_le_iff hn).mp hsmall, rfl, ?_⟩
      rw [place, hsign, one_mul, one_mul]
      rfl
  | negSucc n =>
    have hn := Nat.succ_pos n
    change (_ ∧ (-Float.ofNat n.succ).toModel.unpack.isFinite = true ∧
      rank (-Float.ofNat n.succ).toModel.unpack = _) ∨
        _ ∧ (-Float.ofNat n.succ).toModel.unpack.isFinite = false
    rw [unpack_neg]
    rcases unpack_ofNat_cases hn with ⟨hgreat, hunpack⟩ | ⟨hsmall, hunpack⟩ <;> rw [hunpack]
    · exact .inr ⟨fun h => (parts_le_iff hn).mpr h |>.not_gt hgreat, rfl⟩
    · refine .inl ⟨(parts_le_iff hn).mp hsmall, rfl, ?_⟩
      rw [place, Int.sign_negSucc, neg_one_mul, neg_one_mul]
      rfl

/-- A number that is made of an integer, and its place. -/
structure IsNumberOf (x : Float) (i : ℤ) : Prop where
  isNaN : x.isNaN = false
  rank : rank x.toModel.unpack = some (place i)

/-- An integer that is made a finite number. -/
theorem ofInt?_of_hasNumber (h : HasNumber i) : ∃ x, ofInt? i = some x ∧ IsNumberOf x i := by
  obtain ⟨-, hfinite, hrank⟩ := (rank_ofInt i).resolve_right fun hnot => hnot.1 h
  have hfinite : (Float.ofInt i).isFinite = true := hfinite
  refine ⟨Float.ofInt i, if_pos hfinite, ?_, hrank⟩
  rw [isFinite_eq, Bool.and_eq_true, Bool.not_eq_true'] at hfinite
  exact hfinite.1

/-- Another integer is no number. -/
theorem ofInt?_eq_none (h : ¬HasNumber i) : ofInt? i = none := by
  obtain ⟨-, hfinite⟩ := (rank_ofInt i).resolve_left fun hnumber => h hnumber.1
  have hfinite : (Float.ofInt i).isFinite = false := hfinite
  exact if_neg (Bool.eq_false_iff.mp hfinite)

variable {x y : Float}

/-- Numbers of integers are in the order of the nearest integers. -/
theorem IsNumberOf.lt_iff (hx : IsNumberOf x a) (hy : IsNumberOf y b) :
    x < y ↔ nearest a < nearest b := by
  rw [Decimal.lt_iff, hx.rank, hy.rank, ← place_lt_iff]
  simp

/-- Numbers of integers are in the order of the nearest integers, where they may be equal. -/
theorem IsNumberOf.le_iff (hx : IsNumberOf x a) (hy : IsNumberOf y b) :
    x ≤ y ↔ nearest a ≤ nearest b := by
  rw [Decimal.le_iff, hx.rank, hy.rank, ← not_lt, ← place_lt_iff]
  simp

end Trigger.Decimal
