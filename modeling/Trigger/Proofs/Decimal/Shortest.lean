import Mathlib.Algebra.Group.Nat.Defs
import Trigger.Decimal.Shortest

/-!
# Shortest decimals

A magnitude whose exponent is above `-b` is at least `2 ^ (1 - b)` unless it is zero, and every
decimal that rounds to it is above `2 ^ -b`. This holds of the decimals that are found on a grid, of
the exact one, and still without the zeros at the end.
-/

namespace Trigger.Decimal

variable {m : Magnitude} {d : Scaled} {b : Nat}

/-- A decimal is greater than `2 ^ -b`. -/
def Scaled.IsAbove (b : Nat) (d : Scaled) : Prop :=
  10 ^ (-d.exponent).toNat < d.digits * 10 ^ d.exponent.toNat * 2 ^ b

/-- Such a decimal is not zero. -/
theorem Scaled.IsAbove.pos (h : d.IsAbove b) : 0 < d.digits := by
  refine Nat.pos_of_ne_zero fun hzero => ?_
  rw [IsAbove, hzero, Nat.zero_mul, Nat.zero_mul] at h
  exact Nat.not_lt_zero _ h

/-- It is the same decimal without the zeros at its end. -/
theorem Scaled.IsAbove.strip (h : d.IsAbove b) (fuel : Nat) : (d.strip fuel).IsAbove b := by
  induction fuel generalizing d with
  | zero => exact h
  | succ fuel ih =>
    rw [Scaled.strip]
    split
    · rename_i hzero
      refine ih ?_
      obtain ⟨q, hq⟩ : ∃ q, d.digits = q * 10 := ⟨d.digits / 10, by omega⟩
      rw [IsAbove, hq] at h
      rw [IsAbove, hq, Nat.mul_div_cancel q (by decide)]
      rcases Int.lt_or_le d.exponent 0 with hneg | hpos
      · have hplace : (-d.exponent).toNat = (-(d.exponent + 1)).toNat + 1 := by omega
        have hnone : d.exponent.toNat = 0 := by omega
        have hnone' : (d.exponent + 1).toNat = 0 := by omega
        rw [hplace, hnone, Nat.pow_succ, Nat.pow_zero, Nat.mul_one, Nat.mul_right_comm] at h
        rw [hnone', Nat.pow_zero, Nat.mul_one]
        exact Nat.lt_of_mul_lt_mul_right h
      · have hplace : (d.exponent + 1).toNat = d.exponent.toNat + 1 := by omega
        have hnone : (-d.exponent).toNat = 0 := by omega
        have hnone' : (-(d.exponent + 1)).toNat = 0 := by omega
        rw [hnone] at h
        rwa [hplace, hnone', Nat.pow_succ', ← Nat.mul_assoc]
    · exact h

/-- The decimal that is found on a grid is within half a unit of the last place, and not at its end
where the mantissa is odd. -/
theorem lt_of_onGrid? {k : Int} {n : Nat} (hm : m.mantissa ≠ 0) (h : m.onGrid? k = some n) :
    2 * (2 ^ (m.exponent - 2).toNat * 10 ^ (-k).toNat) <
      n * (2 ^ (2 - m.exponent).toNat * 10 ^ k.toNat) := by
  obtain ⟨unit, hunit⟩ : ∃ a, a = 2 ^ (m.exponent - 2).toNat * 10 ^ (-k).toNat := ⟨_, rfl⟩
  obtain ⟨grid, hgrid⟩ : ∃ a, a = 2 ^ (2 - m.exponent).toNat * 10 ^ k.toNat := ⟨_, rfl⟩
  obtain ⟨c, hc⟩ : ∃ c, c = if m.narrowBelow = true then 1 else 2 := ⟨_, rfl⟩
  have hpositive : 0 < unit := hunit ▸ Nat.mul_pos (Nat.two_pow_pos _) (Nat.pow_pos (by decide))
  have hinside {d : Nat} (hd : (if m.mantissa % 2 = 0 then
      decide ((4 * m.mantissa - c) * unit ≤ d * grid) &&
        decide (d * grid ≤ (4 * m.mantissa + 2) * unit)
      else decide ((4 * m.mantissa - c) * unit < d * grid) &&
        decide (d * grid < (4 * m.mantissa + 2) * unit)) = true) : 2 * unit < d * grid := by
    have hbelow : c ≤ 2 := by split at hc <;> omega
    split at hd
    · rename_i heven
      have hle := of_decide_eq_true (Bool.and_eq_true_iff.mp hd).1
      calc 2 * unit < 3 * unit := Nat.mul_lt_mul_of_pos_right (by decide) hpositive
        _ ≤ (4 * m.mantissa - c) * unit := Nat.mul_le_mul_right _ (by omega)
        _ ≤ d * grid := hle
    · have hlt := of_decide_eq_true (Bool.and_eq_true_iff.mp hd).1
      calc 2 * unit ≤ (4 * m.mantissa - c) * unit := Nat.mul_le_mul_right _ (by omega)
        _ < d * grid := hlt
  rw [Magnitude.onGrid?] at h
  simp only [Nat.pow_eq, ← hunit, ← hgrid, ← hc] at h
  rw [← hunit, ← hgrid]
  obtain ⟨d, hd⟩ : ∃ d, d = 4 * m.mantissa * unit / grid := ⟨_, rfl⟩
  rw [← hd] at h
  split at h
  · cases h
  · rename_i hthis hnext
    cases h
    exact hinside hthis
  · rename_i hthis hnext
    cases h
    exact hinside hnext
  · rename_i hthis hnext
    have hn : n = d ∨ n = d + 1 := by
      split at h
      · exact .inl (Option.some.inj h).symm
      · exact .inr (Option.some.inj h).symm
      · have heq := Option.some.inj h
        split at heq <;> omega
    rcases hn with rfl | rfl
    · exact hinside hthis
    · exact hinside hnext

/-- A decimal that is found on a grid. -/
theorem isAbove_of_onGrid? {k : Int} {n : Nat} (hm : m.mantissa ≠ 0) (hb : -(b : Int) < m.exponent)
    (h : m.onGrid? k = some n) : Scaled.IsAbove b ⟨n, k⟩ := by
  have hgrid : 2 ^ (2 - m.exponent).toNat ≤ 2 ^ (b + 1) :=
    Nat.pow_le_pow_right (by decide) (by omega)
  have hpower : 2 ^ (b + 1) = 2 ^ b * 2 := Nat.pow_succ 2 b
  have hlt : 2 * 10 ^ (-k).toNat < 2 * (n * 10 ^ k.toNat * 2 ^ b) := by
    calc 2 * 10 ^ (-k).toNat ≤ 2 * (2 ^ (m.exponent - 2).toNat * 10 ^ (-k).toNat) :=
          Nat.mul_le_mul_left 2 (Nat.le_mul_of_pos_left _ (Nat.two_pow_pos _))
      _ < n * (2 ^ (2 - m.exponent).toNat * 10 ^ k.toNat) := lt_of_onGrid? hm h
      _ ≤ n * (2 ^ (b + 1) * 10 ^ k.toNat) := Nat.mul_le_mul_left n (Nat.mul_le_mul_right _ hgrid)
      _ = 2 * (n * 10 ^ k.toNat * 2 ^ b) := by
        rw [hpower]
        ac_rfl
  exact Nat.lt_of_mul_lt_mul_left hlt

/-- The decimal with exactly the value of a magnitude. -/
theorem isAbove_exact (hm : m.mantissa ≠ 0) (hb : -(b : Int) < m.exponent) :
    m.exact.IsAbove b := by
  have hpositive : 0 < m.mantissa := Nat.pos_of_ne_zero hm
  rw [Magnitude.exact]
  split
  · rename_i hnonneg
    change 10 ^ 0 < m.mantissa * 2 ^ m.exponent.toNat * 10 ^ 0 * 2 ^ b
    rw [Nat.pow_zero, Nat.mul_one, Nat.mul_assoc, ← Nat.pow_add]
    calc 1 < 2 ^ (m.exponent.toNat + b) := Nat.one_lt_two_pow (by omega)
      _ ≤ m.mantissa * 2 ^ (m.exponent.toNat + b) := Nat.le_mul_of_pos_left _ hpositive
  · rename_i hneg
    have hnone : m.exponent.toNat = 0 := by omega
    change 10 ^ (-m.exponent).toNat <
      m.mantissa * 5 ^ (-m.exponent).toNat * 10 ^ m.exponent.toNat * 2 ^ b
    rw [hnone, Nat.pow_zero, Nat.mul_one]
    calc 10 ^ (-m.exponent).toNat = 5 ^ (-m.exponent).toNat * 2 ^ (-m.exponent).toNat :=
          Nat.mul_pow 5 2 _
      _ < 5 ^ (-m.exponent).toNat * 2 ^ b := Nat.mul_lt_mul_of_pos_left
          (Nat.pow_lt_pow_right (by decide) (by omega)) (Nat.pow_pos (by decide))
      _ ≤ m.mantissa * 5 ^ (-m.exponent).toNat * 2 ^ b :=
          Nat.mul_le_mul_right _ (Nat.le_mul_of_pos_left _ hpositive)

/-- The shortest decimal. -/
theorem isAbove_shortest (hm : m.mantissa ≠ 0) (hb : -(b : Int) < m.exponent) :
    m.shortest.IsAbove b := by
  refine Scaled.IsAbove.strip ?_ 20
  cases hfound : (List.range 17).findSome? fun n : Nat =>
      (m.onGrid? (m.scale - ((n : Int) + 1))).map (Scaled.mk · (m.scale - ((n : Int) + 1))) with
  | none => exact isAbove_exact hm hb
  | some d =>
    obtain ⟨n, -, hn⟩ := List.exists_of_findSome?_eq_some hfound
    obtain ⟨digits, hgrid, rfl⟩ := Option.map_eq_some_iff.mp hn
    exact isAbove_of_onGrid? hm hb hgrid

end Trigger.Decimal
