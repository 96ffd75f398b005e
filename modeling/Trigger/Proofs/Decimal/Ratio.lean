import Trigger.Proofs.Decimal.Numerals
import Trigger.Proofs.Decimal.Order

/-!
# Ratios of natural numbers

Rounding is monotone: of two mantissas from which the same number of digits is dropped, the greater
one is not rounded to less. Hence natural numbers do not change their order when they are made
numbers, the quotient of one and a greater one is rounded to one at most, and one minus the quotient
is not negative. Where both are too great, the quotient is not a number, nor is the difference.
-/

namespace Trigger.Decimal

open Float.Model
open Float.Model.UnpackedFloat

variable {x : Float} {s : Sign} {m m₁ m₂ : Nat} {e e₁ e₂ : Int}

/-! ## Monotone rounding -/

/-- A mantissa in quarters: its digits, the digit behind them, and whether there are more. -/
def quarters (em : ExtendedMantissa) : Nat :=
  4 * em.mantissa + 2 * em.roundBit.toNat + em.stickyBit.toNat

/-- The last digit becomes the one behind, and the digits behind it become one. -/
theorem quarters_shiftRightOne (em : ExtendedMantissa) :
    quarters em.shiftRightOne = 2 * em.mantissa + (em.roundBit || em.stickyBit).toNat := by
  have hmod := Nat.div_add_mod em.mantissa 2
  rcases Nat.mod_two_eq_zero_or_one em.mantissa with hlast | hlast <;>
    simp [quarters, ExtendedMantissa.shiftRightOne, hlast] <;> omega

/-- Digits are dropped in order. -/
theorem quarters_shiftRight {a b : ExtendedMantissa} (h : quarters a ≤ quarters b) (k : Nat) :
    quarters (a >>> k) ≤ quarters (b >>> k) := by
  induction k with
  | zero => exact h
  | succ k ih =>
    change quarters (a >>> k).shiftRightOne ≤ quarters (b >>> k).shiftRightOne
    rw [quarters_shiftRightOne, quarters_shiftRightOne]
    generalize a >>> k = a at ih
    generalize b >>> k = b at ih
    obtain ⟨m, r, t⟩ := a
    obtain ⟨n, r', t'⟩ := b
    cases r <;> cases t <;> cases r' <;> cases t' <;> simp [quarters] at ih ⊢ <;> omega

/-- Mantissas are rounded in order. -/
theorem roundedMantissa_mono {a b : ExtendedMantissa} (h : quarters a ≤ quarters b) :
    a.roundedMantissa ≤ b.roundedMantissa := by
  by_cases hlt : a.mantissa < b.mantissa
  · have ha := (roundedMantissa_bounds a).2
    have hb := (roundedMantissa_bounds b).1
    omega
  obtain ⟨m, r, t⟩ := a
  obtain ⟨n, r', t'⟩ := b
  obtain rfl : m = n := by
    have hbit := Bool.toNat_le r'
    have hbit' := Bool.toNat_le t'
    simp only [quarters] at h hlt
    omega
  have hparity : m % 2 ≤ 1 := Nat.le_of_lt_succ (Nat.mod_lt m (by decide))
  cases r <;> cases t <;> cases r' <;> cases t' <;>
    simp_all [quarters, ExtendedMantissa.roundedMantissa, ExtendedMantissa.accuracy,
      Accuracy.roundToNearestEven]

/-! ## Natural numbers -/

variable {d n : Nat}

/-- The first 53 digits of a natural number, rounded. -/
def leading (n : Nat) : Nat :=
  (ExtendedMantissa.mk (n * 2 ^ 53) false false >>> (n.log2 + 1)).roundedMantissa

/-- The mantissa and the exponent of a natural number. If its first digits have become one digit
longer by rounding, then the last one is zero and left out. -/
def parts (n : Nat) : Nat × Int :=
  if leading n < 2 ^ 53 then (leading n, n.log2 - 52) else (2 ^ 52, n.log2 - 51)

/-- As many zeros as are put behind a number it has more digits. -/
theorem log2_mul_two_pow (hn : 0 < n) (k : Nat) : (n * 2 ^ k).log2 = n.log2 + k := by
  rw [Nat.log2_eq_iff (Nat.ne_of_gt (Nat.mul_pos hn (Nat.two_pow_pos k))), Nat.pow_add,
    Nat.add_right_comm, Nat.pow_add]
  exact ⟨Nat.mul_le_mul_right _ (Nat.log2_self_le (Nat.ne_of_gt hn)),
    Nat.mul_lt_mul_of_pos_right Nat.lt_log2_self (Nat.two_pow_pos k)⟩

/-- A greater number has no fewer digits. -/
theorem log2_mono (hd : 0 < d) (h : d ≤ n) : d.log2 ≤ n.log2 :=
  (Nat.le_log2 (by omega)).mpr (Nat.le_trans (Nat.log2_self_le (Nat.ne_of_gt hd)) h)

/-- A natural number is rounded at the place that its number of digits asks for. -/
theorem leading_spec (hn : 0 < n) :
    (2 ^ 52 ≤ leading n ∧ leading n ≤ 2 ^ 53) ∧
      roundWithAccuracy Format.binary64 .positive (n * 2 ^ 53) (-53) .exact =
        if h : leading n = 0 then .zero .positive
        else if leading n < 2 ^ 53 then
          .finite .positive (leading n) (n.log2 - 52) (Nat.pos_of_ne_zero h)
        else .finite .positive (2 ^ 52) (n.log2 - 51) (by decide) := by
  have hlog : (n * 2 ^ 53).log2 = n.log2 + 53 := log2_mul_two_pow hn 53
  obtain ⟨⟨hle, -, hpow⟩, hround⟩ := roundWithAccuracy_eq .positive (n * 2 ^ 53) (-53) .exact
    (k := n.log2 + 1) (r := leading n) (by omega) rfl
  have hfull : 2 ^ 52 ≤ n * 2 ^ 53 / 2 ^ (n.log2 + 1) := by
    rw [Nat.le_div_iff_mul_le (Nat.two_pow_pos _), ← Nat.pow_add, ← Nat.le_log2, hlog]
    · omega
    · exact Nat.ne_of_gt (Nat.mul_pos hn (Nat.two_pow_pos 53))
  have hplace : (-53 : Int) + (n.log2 + 1 : Nat) = n.log2 - 52 := by omega
  have hnext : (n.log2 : Int) - 52 + 1 = n.log2 - 51 := by omega
  rw [hround, hplace, hnext]
  exact ⟨⟨Nat.le_trans hfull hle, hpow⟩, rfl⟩

/-- The mantissa of a natural number has 53 digits. -/
theorem canonical_parts (hn : 0 < n) :
    Canonical (parts n).1 (parts n).2 ∧ -52 ≤ (parts n).2 := by
  obtain ⟨⟨hfull, hle⟩, -⟩ := leading_spec hn
  unfold parts
  split <;> dsimp only
  · exact ⟨⟨by omega, by omega, by omega, .inl hfull⟩, by omega⟩
  · exact ⟨⟨by decide, by decide, by omega, .inl (by decide)⟩, by omega⟩

/-- Natural numbers keep their order. -/
theorem parts_mono (hd : 0 < d) (h : d ≤ n) :
    (parts d).2 < (parts n).2 ∨ (parts d).2 = (parts n).2 ∧ (parts d).1 ≤ (parts n).1 := by
  obtain ⟨⟨hd₁, hd₂⟩, -⟩ := leading_spec hd
  obtain ⟨⟨hn₁, hn₂⟩, -⟩ := leading_spec (Nat.lt_of_lt_of_le hd h)
  have hlog := log2_mono hd h
  have hmono : d.log2 = n.log2 → leading d ≤ leading n := by
    intro hsame
    unfold leading
    rw [hsame]
    refine roundedMantissa_mono (quarters_shiftRight ?_ _)
    simp only [quarters]
    omega
  unfold parts
  split <;> split <;> dsimp only <;> omega

/-- A natural number with 53 binary digits at most is the number with its mantissa and its
exponent. -/
theorem unpack_ofNat_of_lt (hn : 0 < n) (hlt : n < 2 ^ 53) :
    (Float.ofNat n).toModel.unpack =
      (pack (.finite .positive (parts n).1 (parts n).2 (canonical_parts hn).1.pos)).unpack := by
  have hne := Nat.ne_of_gt hn
  have hlog : n.log2 < 53 := (Nat.log2_lt hne).mpr hlt
  have hread : Float.ofNat n = ofDecimal n 0 := by
    rw [ofDecimal, if_neg hne, if_neg (by omega), if_neg (by omega)]
    rfl
  have hzeros : n * 2 ^ 53 = n * 2 ^ (52 - n.log2) * 2 ^ (n.log2 + 1) := by
    rw [Nat.mul_assoc, ← Nat.pow_add]
    congr 2
    omega
  have hleading : leading n = n * 2 ^ (52 - n.log2) := by
    rw [leading, hzeros, shiftRight_exact]
    rfl
  obtain ⟨-, hfull, hshort⟩ := unpack_toFloat hn hlt
  have hparts : parts n = (n * 2 ^ (52 - n.log2), (n.log2 : Int) - 52) := by
    rw [parts, hleading, if_pos hshort]
  have hcanonical : Canonical (n * 2 ^ (52 - n.log2)) (n.log2 - 52) :=
    ⟨by omega, hshort, by omega, .inl hfull⟩
  rw [hread, unpack_ofDecimal hn hlt]
  simp only [hparts]
  rw [unpack_pack hcanonical (by omega)]

/-- A natural number with more binary digits is rounded to its mantissa and its exponent. -/
theorem unpack_ofNat_of_ge (hn : 0 < n) (hge : 2 ^ 53 ≤ n) :
    (Float.ofNat n).toModel.unpack =
      (pack (.finite .positive (parts n).1 (parts n).2 (canonical_parts hn).1.pos)).unpack := by
  obtain ⟨⟨hfull, hle⟩, hround⟩ := leading_spec hn
  have hread : Float.ofNat n = Float.ofModel (Float.Model.ofScientific n 0) :=
    dif_neg fun h => Nat.not_lt.mpr hge h.1
  have hwidth : (2 : Int) ^ Format.binary64.exponentBits = 2048 := rfl
  rw [hread]
  change (pack (UnpackedFloat.ofScientific Format.binary64 n 0)).unpack = _
  rw [UnpackedFloat.ofScientific, dif_neg (Nat.ne_of_gt hn), hwidth, if_neg (by decide),
    if_neg (by omega), if_pos (Int.le_refl 0)]
  change (pack (roundWithAccuracy Format.binary64 .positive (n <<< 53 * 1) (-53)
    .exact)).unpack = _
  rw [Nat.mul_one, Nat.shiftLeft_eq, hround, dif_neg (by omega)]
  unfold parts
  split <;> rfl

/-- A natural number is the number with its mantissa and its exponent, or infinite. -/
theorem unpack_ofNat (hn : 0 < n) :
    (Float.ofNat n).toModel.unpack =
      (pack (.finite .positive (parts n).1 (parts n).2 (canonical_parts hn).1.pos)).unpack := by
  rcases lt_or_ge n (2 ^ 53) with hlt | hge
  · exact unpack_ofNat_of_lt hn hlt
  · exact unpack_ofNat_of_ge hn hge

/-- A natural number whose exponent is too great is infinite, and others are not. -/
theorem unpack_ofNat_cases (hn : 0 < n) :
    971 < (parts n).2 ∧ (Float.ofNat n).toModel.unpack = .infinity .positive ∨
      (parts n).2 ≤ 971 ∧ (Float.ofNat n).toModel.unpack =
        .finite .positive (parts n).1 (parts n).2 (canonical_parts hn).1.pos := by
  rw [unpack_ofNat hn]
  rcases lt_or_ge 971 (parts n).2 with hgreat | hsmall
  · exact .inl ⟨hgreat, unpack_pack_of_lt hgreat⟩
  · exact .inr ⟨hsmall, unpack_pack (canonical_parts hn).1 hsmall⟩

/-! ## Quotients -/

/-- A number that is not less than zero and not greater than one, or no number. -/
def IsFraction : UnpackedFloat → Prop
  | .notANumber => True
  | .zero _ => True
  | .finite .positive m e _ => -1074 ≤ e ∧ e ≤ -52 ∧ m ≤ 2 ^ (-e).toNat
  | _ => False

/-- Parts that are not too small and not too great are rounded to parts that are packed without
loss. -/
theorem isPacked_roundWithAccuracy (s : Sign) (a : Accuracy) (he : -1074 ≤ e)
    (hfull : 52 ≤ m.log2 ∨ e = -1074) (hle : m.log2 + e ≤ 1022) :
    IsPacked (roundWithAccuracy Format.binary64 s m e a) := by
  by_cases hpositive : 0 < m ∨ a = .inexact .gt
  · obtain ⟨r, e', hr, hround, hcanonical, -, hplace⟩ :=
      roundWithAccuracy_canonical s a he hfull hpositive
    rw [hround]
    exact ⟨hcanonical, by omega⟩
  · -- Nothing but a half or less of the least number is left, which is rounded to zero.
    obtain rfl : m = 0 := by omega
    obtain rfl : e = -1074 := hfull.resolve_left (by decide)
    have hzero : (ExtendedMantissa.ofMantissaAndAccuracy 0 a).roundedMantissa = 0 := by
      rcases a with _ | o
      · rfl
      · cases o with
        | gt => exact absurd (.inr rfl) hpositive
        | _ => rfl
    have hround := (roundWithAccuracy_eq s 0 (-1074) a (k := 0) (r := 0) rfl hzero.symm).2
    rw [hround, dif_pos rfl]
    trivial

/-- What is not greater than a power of two has no more digits. -/
theorem log2_le_of_le {q j : Nat} (h : q ≤ 2 ^ j) : q.log2 ≤ j := by
  by_cases hzero : q = 0
  · simp [hzero]
  · exact Nat.log2_two_pow (n := j) ▸ log2_mono (Nat.pos_of_ne_zero hzero) h

/-- What is not greater than one is rounded to one at most. -/
theorem isFraction_round {q j : Nat} {a : Accuracy} (hq : q ≤ 2 ^ j) (ha : q = 2 ^ j → a = .exact)
    (hj : 52 ≤ j) (hleast : j ≤ 1074) :
    IsFraction (roundWithAccuracy Format.binary64 .positive q (-j) a) := by
  by_cases hone : q = 2 ^ j
  · have hpower : (2 : Nat) ^ j = 2 ^ 52 * 2 ^ (j - 52) := by
      rw [← Nat.pow_add, Nat.add_sub_cancel' hj]
    have hplace : -(j : Int) + (j - 52 : Nat) = -52 := by omega
    rw [ha hone, hone, hpower, roundWithAccuracy_exact .positive (by decide) (by decide) (by omega)]
    exact ⟨by omega, by omega, by rw [hplace]; decide⟩
  have hlt : q < 2 ^ j := Nat.lt_of_le_of_ne hq hone
  have hlog := log2_le_of_le hq
  obtain ⟨k, hk⟩ : ∃ k, k = (max ((q.log2 : Int) + -j - 52) (-1074) - -j).toNat := ⟨_, rfl⟩
  obtain ⟨⟨-, hr, hpow⟩, hround⟩ := roundWithAccuracy_eq .positive q (-j) a hk rfl
  -- One more than the digits that are kept is still not more than one.
  have hkept : q / 2 ^ k + 1 ≤ 2 ^ (j - k) := by
    refine Nat.succ_le_of_lt ((Nat.div_lt_iff_lt_mul (Nat.two_pow_pos k)).mpr ?_)
    rwa [← Nat.pow_add, Nat.sub_add_cancel (by omega)]
  have hplace : (-(-(j : Int) + k)).toNat = j - k := by omega
  rw [hround]
  split
  · trivial
  split
  · exact ⟨by omega, by omega, hplace ▸ Nat.le_trans hr hkept⟩
  · have hfull : 53 ≤ j - k :=
      (Nat.pow_le_pow_iff_right (by decide : 1 < 2)).mp (by omega)
    exact ⟨by omega, by omega, Nat.pow_le_pow_right (by decide) (by omega)⟩

/-- A number with a greater exponent than another one has all its digits. -/
theorem full_of_exponent_lt (hc₁ : Canonical m₁ e₁) (hc₂ : Canonical m₂ e₂) (hlt : e₁ < e₂) :
    2 ^ 52 ≤ m₂ :=
  hc₂.full.resolve_right (Int.ne_of_gt (Int.lt_of_le_of_lt hc₁.least hlt))

/-- The first digit of a number stands at no greater place than that of one that is not less. -/
theorem log2_add_exponent_mono (h₁ : 0 < m₁) (hc₁ : Canonical m₁ e₁) (hc₂ : Canonical m₂ e₂)
    (hle : e₁ < e₂ ∨ e₁ = e₂ ∧ m₁ ≤ m₂) : m₁.log2 + e₁ ≤ m₂.log2 + e₂ := by
  rcases hle with hlt | ⟨rfl, hle⟩
  · have hlog₁ : m₁.log2 < 53 := (Nat.log2_lt (Nat.ne_of_gt h₁)).mpr hc₁.lt
    have hfull := full_of_exponent_lt hc₁ hc₂ hlt
    have hlog₂ : 52 ≤ m₂.log2 := (Nat.le_log2 (by omega)).mpr hfull
    omega
  · have hlog := log2_mono h₁ hle
    omega

/-- A number is not greater than one that is not less, at any common exponent. -/
theorem mul_two_pow_le {j k : Nat} (hc₁ : Canonical m₁ e₁) (hc₂ : Canonical m₂ e₂)
    (hle : e₁ < e₂ ∨ e₁ = e₂ ∧ m₁ ≤ m₂) (hk : e₁ - e₂ - -(j : Int) = k) :
    m₁ * 2 ^ k ≤ 2 ^ j * m₂ := by
  rcases hle with hlt | ⟨rfl, hle⟩
  · have hfull := full_of_exponent_lt hc₁ hc₂ hlt
    have hlt₁ := hc₁.lt
    calc m₁ * 2 ^ k ≤ 2 * m₂ * 2 ^ k := Nat.mul_le_mul_right _ (by omega)
      _ = 2 ^ (k + 1) * m₂ := by ring
      _ ≤ 2 ^ j * m₂ := Nat.mul_le_mul_right _ (Nat.pow_le_pow_right (by decide) (by omega))
  · obtain rfl : k = j := by omega
    rw [Nat.mul_comm]
    exact Nat.mul_le_mul_left _ hle

/-- The quotient of a number and one that is not less is rounded to one at most. -/
theorem isFraction_div {h₁ : 0 < m₁} {h₂ : 0 < m₂} (hc₁ : Canonical m₁ e₁) (hc₂ : Canonical m₂ e₂)
    (hle : e₁ < e₂ ∨ e₁ = e₂ ∧ m₁ ≤ m₂) (hplace : -1074 ≤ e₁ - e₂) :
    IsFraction (pack (UnpackedFloat.div Format.binary64 (.finite .positive m₁ e₁ h₁)
      (.finite .positive m₂ e₂ h₂))).unpack := by
  have hlog₁ : m₁.log2 < 53 := (Nat.log2_lt (Nat.ne_of_gt h₁)).mpr hc₁.lt
  have hlog₂ : m₂.log2 < 53 := (Nat.log2_lt (Nat.ne_of_gt h₂)).mpr hc₂.lt
  have hlogs := log2_add_exponent_mono h₁ hc₁ hc₂ hle
  obtain ⟨j, hj⟩ : ∃ j : Nat, -(j : Int) =
      max ((m₁.log2 : Int) + e₁ - (m₂.log2 + e₂) - 53) (-1074) :=
    ⟨(-max ((m₁.log2 : Int) + e₁ - (m₂.log2 + e₂) - 53) (-1074)).toNat, by omega⟩
  obtain ⟨k, hk⟩ : ∃ k : Nat, e₁ - e₂ - -(j : Int) = k := ⟨(e₁ - e₂ - -(j : Int)).toNat, by omega⟩
  have hone : m₁ * 2 ^ k / m₂ ≤ 2 ^ j :=
    Nat.div_le_of_le_mul (Nat.mul_comm m₂ _ ▸ mul_two_pow_le hc₁ hc₂ hle hk)
  have hexact : m₁ * 2 ^ k / m₂ = 2 ^ j →
      accuracyOfFraction (m₁ * 2 ^ k % m₂) m₂ = .exact := by
    intro heq
    have hscaled := mul_two_pow_le hc₁ hc₂ hle hk
    have hdivision := Nat.div_add_mod' (m₁ * 2 ^ k) m₂
    rw [heq] at hdivision
    exact if_pos (by omega)
  have hfull : 52 ≤ (m₁ * 2 ^ k / m₂).log2 ∨ -(j : Int) = -1074 := by
    by_cases hend : -(j : Int) = -1074
    · exact .inr hend
    · have hdigits : 2 ^ 52 ≤ m₁ * 2 ^ k / m₂ := two_pow_le_div h₁ h₂ (by omega)
      exact .inl ((Nat.le_log2 (by omega)).mpr hdigits)
  have hlog := log2_le_of_le hone
  rw [div_eq_roundWithAccuracy h₁ h₂ hj hk,
    unpack_pack_of_isPacked (isPacked_roundWithAccuracy _ _ (by omega) hfull (by omega))]
  exact isFraction_round hone hexact (by omega) (by omega)

/-! ## Differences -/

/-- A number that is not less than zero, or no number. -/
def IsNonnegative : UnpackedFloat → Prop
  | .infinity .negative => False
  | .finite .negative _ _ _ => False
  | _ => True

/-- Packing does not make a number negative. -/
theorem IsNonnegative.unpack_pack {u : UnpackedFloat} (h : IsNonnegative u) :
    IsNonnegative (pack u).unpack := by
  have hcomponents (e : BitVec 11) (m : BitVec 52) : IsNonnegative
      (UnpackedFloat.unpack Format.binary64 (packComponents Format.binary64 .positive e m)) := by
    rw [unpack_packComponents]
    split_ifs <;> trivial
  cases u with
  | finite s m e hm =>
    cases s with
    | negative => exact h.elim
    | positive =>
      change IsNonnegative (UnpackedFloat.unpack Format.binary64 (UnpackedFloat.pack _ _))
      rw [UnpackedFloat.pack]
      dsimp only
      split_ifs <;> exact hcomponents _ _
  | notANumber => exact h
  | infinity s | zero s => cases s <;> exact h

/-- Rounding does not make a number negative. -/
theorem isNonnegative_round (m : Nat) (e : Int) :
    IsNonnegative (UnpackedFloat.round Format.binary64 .positive m e) := by
  unfold UnpackedFloat.round roundWithAccuracy
  dsimp only
  split <;> trivial

/-- The difference of one and a number whose exponent is not greater than that of one. -/
theorem one_sub_eq (hm : 0 < m) (he : e ≤ -52) :
    UnpackedFloat.sub Format.binary64 (.finite .positive (2 ^ 52) (-52) (by decide))
        (.finite .positive m e hm) =
      UnpackedFloat.normalize Format.binary64 (((2 ^ (-e).toNat : Nat) : Int) - m) e .positive := by
  have hmin : min (-52) e = e := by omega
  have hwhole : 2 ^ 52 * 2 ^ (-52 - e).toNat = 2 ^ (-e).toNat := by
    rw [← Nat.pow_add]
    congr 1
    omega
  rw [UnpackedFloat.sub]
  simp only [decreaseExponent, hmin, Int.sub_self, Int.toNat_zero, Nat.shiftLeft_eq, hwhole,
    Nat.pow_zero, Nat.mul_one]
  rfl

/-- What is left of one is not negative. -/
theorem isNonnegative_one_sub (h : IsFraction x.toModel.unpack) :
    IsNonnegative (1.0 - x).toModel.unpack := by
  have hone : (1.0 : Float).toModel.unpack = .finite .positive (2 ^ 52) (-52) (by decide) := by
    rfl
  change IsNonnegative (pack (UnpackedFloat.sub Format.binary64 _ _)).unpack
  refine IsNonnegative.unpack_pack ?_
  rw [hone]
  cases hx : x.toModel.unpack with
  | notANumber | zero => trivial
  | infinity => exact ((congrArg IsFraction hx).mp h).elim
  | finite s m e hm =>
    rw [hx] at h
    cases s with
    | negative => exact h.elim
    | positive =>
      obtain ⟨-, he, hle⟩ := h
      rw [one_sub_eq hm he, UnpackedFloat.normalize]
      split
      · next hlt => exact absurd (Int.compare_eq_lt.mp hlt) (by omega)
      · trivial
      · exact isNonnegative_round _ _

/-- A number that is not negative is greater than minus one, if it is a number. -/
theorem neg_one_lt {y : Float} (h : IsNonnegative x.toModel.unpack) (hy : y ≤ x) : -1.0 < x := by
  obtain ⟨-, l, -, hl, -⟩ := Decimal.le_iff.mp hy
  have hone : rank (-1.0 : Float).toModel.unpack = some (toLex (-1, toLex (52, -2 ^ 52))) := by
    rfl
  refine Decimal.lt_iff.mpr ⟨_, l, hone, hl, ?_⟩
  cases hx : x.toModel.unpack with
  | notANumber =>
    rw [hx] at hl
    cases hl
  | zero s =>
    rw [hx] at hl
    cases hl
    decide
  | infinity s | finite s m e hm =>
    rw [hx] at h hl
    cases s with
    | negative => exact h.elim
    | positive =>
      cases hl
      exact Prod.Lex.toLex_lt_toLex.mpr (.inl (by simp))

/-- One minus the quotient of a natural number and one that is not less is not negative. -/
theorem isNonnegative_one_sub_div (hn : 0 < n) (h : d ≤ n) :
    IsNonnegative (1.0 - Float.ofNat d / Float.ofNat n).toModel.unpack := by
  refine isNonnegative_one_sub ?_
  change IsFraction (pack (UnpackedFloat.div Format.binary64 (Float.ofNat d).toModel.unpack
    (Float.ofNat n).toModel.unpack)).unpack
  have zero (s : Sign) : IsFraction (pack (.zero s)).unpack := by cases s <;> trivial
  rcases Nat.eq_zero_or_pos d with rfl | hd
  · have hnone : (Float.ofNat 0).toModel.unpack = .zero .positive := rfl
    rw [hnone]
    rcases unpack_ofNat_cases hn with ⟨-, hn'⟩ | ⟨-, hn'⟩ <;> rw [hn'] <;> exact zero _
  · have hmono := parts_mono hd h
    rcases unpack_ofNat_cases hd with ⟨hgreat, hd'⟩ | ⟨hsmall, hd'⟩ <;>
      rcases unpack_ofNat_cases hn with ⟨hgreat', hn'⟩ | ⟨hsmall', hn'⟩ <;> rw [hd', hn']
    · trivial
    · omega
    · exact zero _
    · have hplace := (canonical_parts hd).2
      exact isFraction_div (canonical_parts hd).1 (canonical_parts hn).1 hmono (by omega)

end Trigger.Decimal
