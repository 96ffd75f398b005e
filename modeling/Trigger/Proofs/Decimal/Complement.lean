import Trigger.Proofs.Decimal.Nearest

/-!
# What is left of one

One minus the quotient of a natural number and one that is not less is one only if nothing is taken
away, provided that the divisor is less than `2 ^ 54 - 1`. The quotient of one and the greatest such
divisor is greater than half a unit in the last place below one, if only by less than it can be told
apart from that half; but it is rounded up, so that the difference is rounded down. For a divisor
greater by one it is not.
-/

namespace Trigger.Decimal

open Float.Model
open Float.Model.UnpackedFloat

variable {x : Float} {d k m n q : Nat} {e : Int} {m₁ m₂ : Nat} {e₁ e₂ : Int}

/-- A number that is not less than zero, but less than one. -/
def IsBelowOne : UnpackedFloat → Prop
  | .zero _ => True
  | .finite .positive _ e _ => e ≤ -53
  | _ => False

namespace IsBelowOne

/-- A number below one has a rank between those of zero and of one. -/
theorem exists_rank (h : IsBelowOne x.toModel.unpack) :
    ∃ l, rank x.toModel.unpack = some l ∧ toLex (0, toLex (0, 0)) ≤ l ∧
      l < toLex (1, toLex (-52, 2 ^ 52)) := by
  cases hx : x.toModel.unpack with
  | zero s => exact ⟨_, rfl, le_rfl, by decide⟩
  | notANumber | infinity s => exact ((congrArg IsBelowOne hx).mp h).elim
  | finite s m e hm =>
    rw [hx] at h
    cases s with
    | negative => exact h.elim
    | positive =>
      have he : e < -52 := Int.lt_of_le_of_lt h (by decide)
      refine ⟨_, rfl, (Prod.Lex.toLex_lt_toLex.mpr (.inl (by simp))).le, ?_⟩
      exact Prod.Lex.toLex_lt_toLex.mpr (.inr ⟨rfl, Prod.Lex.toLex_lt_toLex.mpr (.inl he)⟩)

/-- A number below one does not reach one. -/
theorem not_one_le (h : IsBelowOne x.toModel.unpack) : ¬1.0 ≤ x := by
  obtain ⟨l, hl, -, hlt⟩ := h.exists_rank
  have hone : rank (1.0 : Float).toModel.unpack = some (toLex (1, toLex (-52, 2 ^ 52))) := rfl
  intro hle
  obtain ⟨k, l', hk, hl', hle⟩ := Decimal.le_iff.mp hle
  obtain rfl := Option.some.inj (hone.symm.trans hk)
  obtain rfl := Option.some.inj (hl.symm.trans hl')
  exact hle.not_gt hlt

/-- A number below one is not less than zero. -/
theorem zero_le (h : IsBelowOne x.toModel.unpack) : 0.0 ≤ x := by
  obtain ⟨l, hl, hle, -⟩ := h.exists_rank
  exact Decimal.le_iff.mpr ⟨_, l, rfl, hl, hle⟩

end IsBelowOne

/-! ## Taking away -/

/-- The mantissa and the exponent of a rounded number: the mantissa is that of the place, or it has
become too long and loses a digit. -/
theorem parts_of_roundWithAccuracy {s : Sign} {a : Accuracy} {r r' : Nat} {e' : Int} {hr' : 0 < r'}
    (hk : k = (max (m.log2 + e - 52) (-1074) - e).toNat)
    (hr : r = (ExtendedMantissa.ofMantissaAndAccuracy m a >>> k).roundedMantissa)
    (h : roundWithAccuracy Format.binary64 s m e a = .finite s r' e' hr') :
    r < 2 ^ 53 ∧ r' = r ∧ e' = e + k ∨ r = 2 ^ 53 ∧ r' = 2 ^ 52 ∧ e' = e + k + 1 := by
  obtain ⟨⟨-, -, hle⟩, hround⟩ := roundWithAccuracy_eq s m e a hk hr
  rw [h] at hround
  split at hround
  · cases hround
  · split at hround
    · next hlt =>
      cases hround
      exact .inl ⟨hlt, rfl, rfl⟩
    · next hge =>
      cases hround
      exact .inr ⟨Nat.le_antisymm hle (Nat.le_of_not_lt hge), rfl, rfl⟩

/-- A quotient that is less than the half before a number is rounded to less than that number. -/
theorem divideToNearest_lt (h : 2 * n + d < 2 * (q * d)) : divideToNearest n d < q := by
  have hdivision := Nat.div_add_mod' n d
  have hq : n / d < q := by
    refine Nat.lt_of_not_le fun hle => ?_
    have hmul := Nat.mul_le_mul_right d hle
    omega
  rcases Nat.lt_or_eq_of_le hq with hlt | rfl
  · unfold divideToNearest
    dsimp only
    split <;> (try split) <;> omega
  · rw [Nat.succ_mul (n / d)] at h
    have hcompare : compare (2 * (n % d)) d = .lt := Nat.compare_eq_lt.mpr (by omega)
    unfold divideToNearest
    rw [hcompare]
    exact Nat.lt_succ_self _

/-- What is left of one is rounded to less than one, if what is taken away is greater than half a
unit in the last place below one. -/
theorem isBelowOne_round (hn : 52 ≤ n) (hleast : n ≤ 1074) (hm : m < 2 ^ n)
    (h : 2 ^ n < 2 ^ 54 * m) :
    IsBelowOne (pack (UnpackedFloat.round Format.binary64 .positive (2 ^ n - m) (-n))).unpack := by
  have hpositive : 0 < 2 ^ n - m := Nat.sub_pos_of_lt hm
  have hlog : (2 ^ n - m).log2 < n := (Nat.log2_lt (Nat.ne_of_gt hpositive)).mpr (by omega)
  -- zeros are put behind a short mantissa, and then digits are dropped from a long one
  obtain ⟨z, hz⟩ : ∃ z : Nat, z = (-(n : Int) - max ((2 ^ n - m).log2 + -(n : Int) - 52) (-1074)).toNat :=
    ⟨_, rfl⟩
  obtain ⟨p, hp⟩ : ∃ p, p = (2 ^ n - m) * 2 ^ z := ⟨_, rfl⟩
  have hplog : p.log2 = (2 ^ n - m).log2 + z := hp ▸ log2_mul_two_pow hpositive z
  have hround : UnpackedFloat.round Format.binary64 .positive (2 ^ n - m) (-n) =
      roundWithAccuracy Format.binary64 .positive p (-n - z) .exact := by
    rw [UnpackedFloat.round, targetExponent_eq, decreaseExponent, ← hz, Nat.shiftLeft_eq, ← hp]
  obtain ⟨r, e, hr, heq, hcanonical, hplace, hnext⟩ := roundWithAccuracy_canonical .positive .exact
    (m := p) (e := -n - z) (by omega) (by omega)
    (.inl (hp ▸ Nat.mul_pos hpositive (Nat.two_pow_pos z)))
  have hbelow : e ≤ -53 := by
    by_cases hshort : (2 ^ n - m).log2 + 1 < n
    · omega
    obtain ⟨k, hk⟩ : ∃ k : Nat, k = (max (p.log2 + (-(n : Int) - z) - 52) (-1074) - (-n - z)).toNat :=
      ⟨_, rfl⟩
    have hscale : 2 ^ n * 2 ^ z = 2 ^ 53 * 2 ^ k := by
      rw [← Nat.pow_add, ← Nat.pow_add]
      congr 1
      omega
    have hpart : p + m * 2 ^ z = 2 ^ n * 2 ^ z := by
      rw [hp, ← Nat.add_mul, Nat.sub_add_cancel hm.le]
    have htaken : 2 ^ n * 2 ^ z < 2 ^ 54 * (m * 2 ^ z) := by
      rw [← Nat.mul_assoc]
      exact Nat.mul_lt_mul_of_pos_right h (Nat.two_pow_pos z)
    have hlast : divideToNearest p (2 ^ k) < 2 ^ 53 := divideToNearest_lt (by omega)
    rw [← roundedMantissa_shiftRight] at hlast
    rcases parts_of_roundWithAccuracy hk rfl heq with ⟨-, -, he⟩ | ⟨hfull, -, -⟩
    · omega
    · exact absurd hfull (Nat.ne_of_lt hlast)
  rw [hround, heq, unpack_pack hcanonical (by omega)]
  exact hbelow

/-- One minus a number is less than one, if the number is greater than half a unit in the last place
below one. -/
theorem isBelowOne_one_sub {hm : 0 < m} (hx : x.toModel.unpack = .finite .positive m e hm)
    (hleast : -1074 ≤ e) (he : e ≤ -52) (hle : m ≤ 2 ^ (-e).toNat)
    (h : 2 ^ (-e).toNat < 2 ^ 54 * m) : IsBelowOne (1.0 - x).toModel.unpack := by
  have hone : (1.0 : Float).toModel.unpack = .finite .positive (2 ^ 52) (-52) (by decide) := by
    rfl
  change IsBelowOne (pack (UnpackedFloat.sub Format.binary64 _ _)).unpack
  rw [hone, hx, one_sub_eq hm he, UnpackedFloat.normalize]
  rcases Nat.lt_or_eq_of_le hle with hlt | heq
  · have hexponent : e = -((-e).toNat : Int) := by omega
    have hdifference : ((2 ^ (-e).toNat : Nat) : Int) - m = (2 ^ (-e).toNat - m : Nat) :=
      (Int.ofNat_sub hle).symm
    rw [hdifference, Int.compare_eq_gt.mpr (by omega)]
    have hround := isBelowOne_round (n := (-e).toNat) (by omega) (by omega) hlt h
    rwa [← hexponent] at hround
  · rw [heq, Int.sub_self, Int.compare_eq_eq.mpr rfl]
    change IsBelowOne (pack (.zero .positive)).unpack
    trivial

/-! ## The quotient -/

/-- A quotient that is cut off to a power of two has a rest of more than a half, if the divisor is
not a power of two. -/
theorem accuracyOfFraction_of_power (hfull : 2 ^ 52 ≤ m₁) (hlt : m₂ < 2 ^ 53)
    (hq : m₁ * 2 ^ 53 / m₂ = 2 ^ 52) :
    accuracyOfFraction (m₁ * 2 ^ 53 % m₂) m₂ = .inexact .gt := by
  have hdivision := Nat.div_add_mod' (m₁ * 2 ^ 53) m₂
  rw [hq] at hdivision
  have hrest : 2 ^ 52 ≤ m₁ * 2 ^ 53 % m₂ := by omega
  rw [accuracyOfFraction, if_neg (by omega), Nat.compare_eq_gt.mpr (by omega)]

/-- The quotient of two numbers of which the second one is less than `2 ^ 54 - 1` times the first one
is greater than half a unit in the last place below one. -/
theorem exists_div (h₁ : 0 < m₁) (h₂ : 0 < m₂) (hfull₁ : 2 ^ 52 ≤ m₁) (hlt₁ : m₁ < 2 ^ 53)
    (hfull₂ : 2 ^ 52 ≤ m₂) (hlt₂ : m₂ < 2 ^ 53) (hle : e₁ ≤ e₂) (hplace : e₂ ≤ e₁ + 53) :
    ∃ r e hr, (pack (UnpackedFloat.div Format.binary64 (.finite .positive m₁ e₁ h₁)
        (.finite .positive m₂ e₂ h₂))).unpack = .finite .positive r e hr ∧
      2 ^ (-e).toNat < 2 ^ 54 * r := by
  have hlog₁ : m₁.log2 = 52 := (Nat.log2_eq_iff (Nat.ne_of_gt h₁)).mpr ⟨hfull₁, hlt₁⟩
  have hlog₂ : m₂.log2 = 52 := (Nat.log2_eq_iff (Nat.ne_of_gt h₂)).mpr ⟨hfull₂, hlt₂⟩
  obtain ⟨q, hq⟩ : ∃ q, q = m₁ * 2 ^ 53 / m₂ := ⟨_, rfl⟩
  obtain ⟨a, ha⟩ : ∃ a, a = accuracyOfFraction (m₁ * 2 ^ 53 % m₂) m₂ := ⟨_, rfl⟩
  have hdigits : 2 ^ 52 ≤ q := hq ▸ two_pow_le_div h₁ h₂ (by omega)
  have hdigits' : q < 2 ^ 54 := hq ▸ div_lt_two_pow h₂ (by omega)
  have hlog : 52 ≤ q.log2 := (Nat.le_log2 (by omega)).mpr hdigits
  have hlog' : q.log2 < 54 := (Nat.log2_lt (by omega)).mpr hdigits'
  have hdiv : UnpackedFloat.div Format.binary64 (.finite .positive m₁ e₁ h₁)
      (.finite .positive m₂ e₂ h₂) =
        roundWithAccuracy Format.binary64 .positive (m₁ * 2 ^ 53 / m₂) (e₁ - e₂ - 53)
          (accuracyOfFraction (m₁ * 2 ^ 53 % m₂) m₂) :=
    div_eq_roundWithAccuracy h₁ h₂ (by omega) (by omega)
  rw [← hq, ← ha] at hdiv
  obtain ⟨r, e, hr, heq, hcanonical, hfrom, hto⟩ := roundWithAccuracy_canonical .positive a (m := q)
    (e := e₁ - e₂ - 53) (by omega) (.inl hlog) (.inl (by omega))
  have hfull : 2 ^ 52 ≤ r := hcanonical.full.resolve_right (by omega)
  refine ⟨r, e, hr, by rw [hdiv, heq, unpack_pack hcanonical (by omega)], ?_⟩
  by_cases hplace' : -105 ≤ e
  · have hpower : 2 ^ (-e).toNat ≤ 2 ^ 105 := Nat.pow_le_pow_right (by decide) (by omega)
    omega
  -- The quotient is as small as it can be, and more than a power of two.
  obtain rfl : e = -106 := by omega
  obtain ⟨-, rfl, -⟩ | ⟨-, -, hnext⟩ := parts_of_roundWithAccuracy (k := 0) (by omega) rfl heq
  · have hmore : 2 ^ 52 < (ExtendedMantissa.ofMantissaAndAccuracy q a >>> 0).roundedMantissa := by
      by_cases hpower : q = 2 ^ 52
      · rw [ha, accuracyOfFraction_of_power hfull₁ hlt₂ (hq ▸ hpower), hpower]
        exact Nat.lt_succ_self _
      · have hbound := (roundedMantissa_bounds (ExtendedMantissa.ofMantissaAndAccuracy q a >>> 0)).1
        rw [mantissa_shiftRight, mantissa_ofMantissaAndAccuracy] at hbound
        omega
    change 2 ^ 106 < _
    omega
  · omega

/-- A natural number below `2 ^ 54 - 1` has 54 binary digits at most, and is not rounded to more. -/
theorem exponent_parts_le (hn : 0 < n) (hmax : n < 2 ^ 54 - 1) : (parts n).2 ≤ 1 := by
  have hgreatest : (parts (2 ^ 54 - 2)).2 = 1 := by decide +kernel
  have hmono := parts_mono hn (Nat.le_sub_one_of_lt hmax)
  rw [Nat.sub_sub, hgreatest] at hmono
  omega

/-- The quotient of a natural number and one that is not less is greater than half a unit in the last
place below one, if it is not zero and the divisor is less than `2 ^ 54 - 1`. -/
theorem isBelowOne_one_sub_div (hd : 0 < d) (h : d ≤ n) (hmax : n < 2 ^ 54 - 1) :
    IsBelowOne (1.0 - Float.ofNat d / Float.ofNat n).toModel.unpack := by
  have hn : 0 < n := Nat.lt_of_lt_of_le hd h
  obtain ⟨hcd, hed⟩ := canonical_parts hd
  obtain ⟨hcn, hen⟩ := canonical_parts hn
  have hplace := exponent_parts_le hn hmax
  have hmono := parts_mono hd h
  have hd' := ((unpack_ofNat_cases hd).resolve_left fun hgreat => by omega).2
  have hn' := ((unpack_ofNat_cases hn).resolve_left fun hgreat => by omega).2
  have hle : (parts d).2 ≤ (parts n).2 := by omega
  have hnear : (parts n).2 ≤ (parts d).2 + 53 := by omega
  obtain ⟨r, e, hr, hdiv, hgreater⟩ := exists_div hcd.pos hcn.pos
    (hcd.full.resolve_right (by omega)) hcd.lt (hcn.full.resolve_right (by omega)) hcn.lt hle hnear
  have hfraction : IsFraction (.finite .positive r e hr) :=
    hdiv ▸ isFraction_div hcd hcn hmono (by omega)
  obtain ⟨hleast, he, hle⟩ := hfraction
  have hquotient : (Float.ofNat d / Float.ofNat n).toModel.unpack = .finite .positive r e hr := by
    rw [← hdiv, ← hd', ← hn']
    rfl
  exact isBelowOne_one_sub hquotient hleast he hle hgreater

/-- One minus nothing is one. -/
theorem one_sub_zero_div (hn : 0 < n) (hmax : n < 2 ^ 54 - 1) :
    (1.0 - Float.ofNat 0 / Float.ofNat n).toModel.unpack = (1.0 : Float).toModel.unpack := by
  have hplace := exponent_parts_le hn hmax
  have hn' := ((unpack_ofNat_cases hn).resolve_left fun hgreat => by omega).2
  change (pack (UnpackedFloat.sub Format.binary64 _ (pack (UnpackedFloat.div Format.binary64
    (Float.ofNat 0).toModel.unpack (Float.ofNat n).toModel.unpack)).unpack)).unpack = _
  have hzero : (Float.ofNat 0).toModel.unpack = .zero .positive := rfl
  have hone : (1.0 : Float).toModel.unpack = .finite .positive (2 ^ 52) (-52) (by decide) := rfl
  rw [hn', hzero, hone]
  change (pack (UnpackedFloat.sub Format.binary64 _ (pack (.zero .positive)).unpack)).unpack = _
  rfl

/-- One minus the quotient of a natural number and one that is not less is not less than zero, and it
is one only if the number is zero, if the divisor is less than `2 ^ 54 - 1`. -/
theorem one_sub_div_bounds (hn : 0 < n) (h : d ≤ n) (hmax : n < 2 ^ 54 - 1) :
    0.0 ≤ 1.0 - Float.ofNat d / Float.ofNat n ∧
      (1.0 ≤ 1.0 - Float.ofNat d / Float.ofNat n ↔ d = 0) := by
  rcases Nat.eq_zero_or_pos d with rfl | hd
  · have hone : rank (1.0 : Float).toModel.unpack = some (toLex (1, toLex (-52, 2 ^ 52))) := rfl
    have hrank := (congrArg rank (one_sub_zero_div hn hmax)).trans hone
    refine ⟨Decimal.le_iff.mpr ⟨toLex (0, toLex (0, 0)), _, rfl, hrank, by decide⟩,
      iff_of_true (Decimal.le_iff.mpr ⟨_, _, hone, hrank, le_rfl⟩) rfl⟩
  · have hbelow := isBelowOne_one_sub_div hd h hmax
    exact ⟨hbelow.zero_le, iff_of_false hbelow.not_one_le (Nat.ne_of_gt hd)⟩

-- At the bound the quotient is rounded down to half a unit, and the difference to one.
example : 1.0 ≤ 1.0 - Float.ofNat 1 / Float.ofNat (2 ^ 54 - 1) := by decide +kernel

end Trigger.Decimal
