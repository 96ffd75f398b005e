import Trigger.Proofs.Callback.Item
import Trigger.Proofs.Decimal.Nearest
import Trigger.Value.Standard

/-!
# The order of integers

Equality takes integers as they are, but every other comparison makes them floating-point numbers
first. So two integers are in the order of the ones that are nearest to them, and an integer that
no finite number is nearest to is in no order at all: an expression that compares it fails, and a
record query has the answer no. What is told of two integers is that exactly one of them is less, or
else that they are equal, only where both have a number and different ones have different numbers.
That is so of all integers with up to 53 binary digits, and not of all others.
-/

namespace Trigger.Value

open Decimal (HasNumber IsNumberOf nearest)

variable {language : Language} {rt : Runtime} {a b i : ℤ} {field : String} {op : BinaryOperator}
variable {record v value : Value}

/-! ## What is told of two values -/

/-- Of two values it is told that the first one is less, that they are equal, or that the first one
is greater, and only one of this. -/
def IsTrichotomous (language : Language) (a b : Value) : Prop :=
  ∃ less equal greater, compare .lt a b = .ok less ∧ looseEquals language a b = .ok equal ∧
    compare .gt a b = .ok greater ∧ [less, equal, greater].count true = 1

/-- Of two values it is told that neither is greater than the other exactly when it is told that
they are equal. -/
def IsAntisymmetric (language : Language) (a b : Value) : Prop :=
  ∃ notGreater equal notLess, compare .le a b = .ok notGreater ∧
    looseEquals language a b = .ok equal ∧
    compare .ge a b = .ok notLess ∧ (notGreater && notLess) = equal

/-- Two integers that have numbers, and different ones if they are different. -/
def AreDiscerned (a b : ℤ) : Prop :=
  HasNumber a ∧ HasNumber b ∧ (nearest a = nearest b → a = b)

/-! ## Integers as numbers -/

/-- The number of an integer that has one. -/
theorem toNumber_int (h : HasNumber i) : ∃ x, (int i).toNumber = .ok x ∧ IsNumberOf x i := by
  obtain ⟨x, hx, hnumber⟩ := Decimal.ofInt?_of_hasNumber h
  refine ⟨x, ?_, hnumber⟩
  change floatOfInt i = _
  rw [floatOfInt, hx]

/-- An integer without a number cannot be taken as one. -/
theorem toNumber_int_error (h : ¬HasNumber i) : (int i).toNumber = .error .integerTooLarge := by
  change floatOfInt i = _
  rw [floatOfInt, Decimal.ofInt?_eq_none h]

/-- What is made of two integers that have numbers is made of the numbers. -/
theorem toNumbers_int (ha : HasNumber a) (hb : HasNumber b) :
    ∃ x y, IsNumberOf x a ∧ IsNumberOf y b ∧ ∀ f : Float → Float → Except Fault Bool,
      ((int a).toNumber >>= fun x => (int b).toNumber >>= f x) = f x y := by
  obtain ⟨x, hx, hnumber⟩ := toNumber_int ha
  obtain ⟨y, hy, hnumber'⟩ := toNumber_int hb
  refine ⟨x, y, hnumber, hnumber', fun f => ?_⟩
  rw [hx, hy]
  rfl

/-- Nothing is made of two integers if one of them has no number. -/
theorem toNumbers_int_error (h : ¬(HasNumber a ∧ HasNumber b))
    (f : Float → Float → Except Fault Bool) :
    ((int a).toNumber >>= fun x => (int b).toNumber >>= f x) = .error .integerTooLarge := by
  by_cases ha : HasNumber a
  · obtain ⟨x, hx, -⟩ := toNumber_int ha
    rw [hx, toNumber_int_error fun hb => h ⟨ha, hb⟩]
    rfl
  · rw [toNumber_int_error ha]
    rfl

/-- Integers are equal only to themselves. -/
theorem looseEquals_int (language : Language) (a b : ℤ) :
    looseEquals language (int a) (int b) = .ok (a == b) := rfl

/-- Things stand in the order that others stand in. -/
theorem inOrder_congr {α β : Type} [LT α] [LE α] [DecidableLT α] [DecidableLE α] [LT β] [LE β]
    [DecidableLT β] [DecidableLE β] {x y : α} {x' y' : β} (hlt : x < y ↔ x' < y')
    (hle : x ≤ y ↔ x' ≤ y') (hgt : y < x ↔ y' < x') (hge : y ≤ x ↔ y' ≤ x') (op : BinaryOperator) :
    inOrder op x y = inOrder op x' y' := by
  unfold inOrder
  simp only [hlt, hle, hgt, hge]

/-- Integers that have numbers are in the order of the nearest ones. -/
theorem compare_int (ha : HasNumber a) (hb : HasNumber b) (op : BinaryOperator) :
    compare op (int a) (int b) = inOrder op (nearest a) (nearest b) := by
  obtain ⟨x, y, hx, hy, hnumbers⟩ := toNumbers_int ha hb
  have hcompare : compare op (int a) (int b) =
      if x.isNaN || y.isNaN then return false else inOrder op x y :=
    hnumbers fun x y => if x.isNaN || y.isNaN then return false else inOrder op x y
  rw [hcompare, hx.isNaN, hy.isNaN, Bool.or_false, if_neg Bool.false_ne_true]
  exact inOrder_congr (hx.lt_iff hy) (hx.le_iff hy) (hy.lt_iff hx) (hy.le_iff hx) op

/-- An integer that has no number is in no order. -/
theorem compare_int_error (h : ¬(HasNumber a ∧ HasNumber b)) (op : BinaryOperator) :
    compare op (int a) (int b) = .error .integerTooLarge :=
  toNumbers_int_error h fun x y => if x.isNaN || y.isNaN then return false else inOrder op x y

/-- Where two integers have numbers, exactly one thing is told of them if equal numbers are told
apart. -/
theorem isTrichotomous_int_iff : IsTrichotomous language (int a) (int b) ↔ AreDiscerned a b := by
  by_cases h : HasNumber a ∧ HasNumber b
  · obtain ⟨ha, hb⟩ := h
    have hsame (heq : a = b) : nearest a = nearest b := heq ▸ rfl
    simp only [IsTrichotomous, AreDiscerned, compare_int ha hb, looseEquals_int, inOrder,
      Except.ok.injEq, exists_eq_left', exists_and_left, ha, hb, true_and]
    rcases lt_trichotomy (nearest a) (nearest b) with hlt | heq | hgt
    · have hne : a ≠ b := fun heq => hlt.ne (hsame heq)
      simp [hlt, hlt.ne, hlt.not_gt, hne]
    · by_cases hab : a = b <;> simp [heq, hab]
    · have hne : a ≠ b := fun heq => hgt.ne' (hsame heq)
      simp [hgt, hgt.ne', hgt.not_gt, hne]
  · simp only [IsTrichotomous, AreDiscerned, compare_int_error h]
    refine iff_of_false ?_ fun hdiscerned => h ⟨hdiscerned.1, hdiscerned.2.1⟩
    rintro ⟨less, equal, greater, hless, -⟩
    cases hless

/-- The same of which neither is told to be greater. -/
theorem isAntisymmetric_int_iff : IsAntisymmetric language (int a) (int b) ↔ AreDiscerned a b := by
  by_cases h : HasNumber a ∧ HasNumber b
  · obtain ⟨ha, hb⟩ := h
    have hsame (heq : a = b) : nearest a = nearest b := heq ▸ rfl
    simp only [IsAntisymmetric, AreDiscerned, compare_int ha hb, looseEquals_int, inOrder,
      Except.ok.injEq, exists_eq_left', exists_and_left, ha, hb, true_and]
    rw [Bool.eq_iff_iff, Bool.and_eq_true, decide_eq_true_iff, decide_eq_true_iff,
      ← le_antisymm_iff, beq_iff_eq]
    exact ⟨Iff.mp, fun htold => ⟨htold, hsame⟩⟩
  · simp only [IsAntisymmetric, AreDiscerned, compare_int_error h]
    refine iff_of_false ?_ fun hdiscerned => h ⟨hdiscerned.1, hdiscerned.2.1⟩
    rintro ⟨notGreater, equal, notLess, hnotGreater, -⟩
    cases hnotGreater

/-- An integer that is told to be less than another one is less. -/
theorem lt_of_compare_int (h : compare .lt (int a) (int b) = .ok true) : a < b := by
  have hnumbers : HasNumber a ∧ HasNumber b := by
    by_contra hnot
    rw [compare_int_error hnot] at h
    cases h
  rw [compare_int hnumbers.1 hnumbers.2, inOrder, Except.ok.injEq, decide_eq_true_iff] at h
  exact lt_of_not_ge fun hle => h.not_ge (Decimal.nearest_mono hle)

/-- Integers with up to 53 digits are told apart. -/
theorem areDiscerned_of_natAbs_le (ha : a.natAbs ≤ 2 ^ 53) (hb : b.natAbs ≤ 2 ^ 53) :
    AreDiscerned a b := by
  refine ⟨Decimal.hasNumber_of_natAbs_le ha, Decimal.hasNumber_of_natAbs_le hb, fun h => ?_⟩
  rwa [Decimal.nearest_of_natAbs_le ha, Decimal.nearest_of_natAbs_le hb] at h

/-! ## Queries on an integer -/

/-- A query has the answer of its test where that is made without effects, and the answer no where
it fails. -/
theorem satisfies_of_test {op : QueryOperator} {outcome : Except Fault Bool}
    (hrecord : record.isScalar = false) (hpath : record.resolvePath rt field = v)
    (hv : v ≠ .undefined) (htest : op.test rt.toLanguage v value = Eval.ofExcept outcome) :
    record.satisfies rt field op value = outcome.toOption.getD false := by
  have hanswers : record.satisfies rt field op value =
      ((v.answers rt field op value).run .fresh).1 := by
    unfold satisfies passes
    rw [hrecord, hpath, if_neg Bool.false_ne_true]
    cases v with
    | undefined => exact absurd rfl hv
    | _ => rfl
  rw [hanswers, answers, htest]
  cases outcome <;> rfl

/-- Two integers have a relation in a query if they have numbers that do. -/
theorem compareNumbers_int (ha : HasNumber a) (hb : HasNumber b) :
    ∃ x y, IsNumberOf x a ∧ IsNumberOf y b ∧ ∀ relation,
      QueryOperator.compareNumbers relation (int a) (int b) = .ok (relation x y) := by
  obtain ⟨x, y, hx, hy, hnumbers⟩ := toNumbers_int ha hb
  refine ⟨x, y, hx, hy, fun relation => ?_⟩
  have hrelation : QueryOperator.compareNumbers relation (int a) (int b) =
      .ok (!x.isNaN && !y.isNaN && relation x y) :=
    hnumbers fun x y => return !x.isNaN && !y.isNaN && relation x y
  rw [hrelation, hx.isNaN, hy.isNaN]
  rfl

/-- An integer that has no number has no relation in a query. -/
theorem compareNumbers_int_error (h : ¬(HasNumber a ∧ HasNumber b))
    (relation : Float → Float → Bool) :
    QueryOperator.compareNumbers relation (int a) (int b) = .error .integerTooLarge :=
  toNumbers_int_error h fun x y => return !x.isNaN && !y.isNaN && relation x y

/-- On an integer field, a query for not less together with one for not greater is satisfied where
both integers have the same number, and a query for equality where they are the same. -/
theorem satisfies_int (hrecord : record.isScalar = false)
    (hpath : record.resolvePath rt field = int a) (b : ℤ) :
    ((record.satisfies rt field .gte (int b) && record.satisfies rt field .lte (int b)) = true ↔
      HasNumber a ∧ HasNumber b ∧ nearest a = nearest b) ∧
    (record.satisfies rt field .equals (int b) = true ↔ a = b) := by
  have htest : QueryOperator.equals.test rt.toLanguage (int a) (int b) =
      Eval.ofExcept (.ok (a == b)) := rfl
  have hequals : record.satisfies rt field .equals (int b) = (a == b) :=
    satisfies_of_test hrecord hpath (by simp) htest
  refine ⟨?_, by rw [hequals, beq_iff_eq]⟩
  by_cases h : HasNumber a ∧ HasNumber b
  · obtain ⟨x, y, hx, hy, hrelation⟩ := compareNumbers_int h.1 h.2
    have htest : QueryOperator.gte.test rt.toLanguage (int a) (int b) =
        Eval.ofExcept (.ok (decide (y ≤ x))) := congrArg Eval.ofExcept (hrelation _)
    have htest' : QueryOperator.lte.test rt.toLanguage (int a) (int b) =
        Eval.ofExcept (.ok (decide (x ≤ y))) := congrArg Eval.ofExcept (hrelation _)
    have hgte : record.satisfies rt field .gte (int b) = decide (y ≤ x) :=
      satisfies_of_test hrecord hpath (by simp) htest
    have hlte : record.satisfies rt field .lte (int b) = decide (x ≤ y) :=
      satisfies_of_test hrecord hpath (by simp) htest'
    rw [hgte, hlte, Bool.and_eq_true, decide_eq_true_iff, decide_eq_true_iff, hx.le_iff hy,
      hy.le_iff hx, ← le_antisymm_iff, eq_comm]
    exact ⟨fun heq => ⟨h.1, h.2, heq⟩, fun hsame => hsame.2.2⟩
  · have htest : QueryOperator.gte.test rt.toLanguage (int a) (int b) =
        Eval.ofExcept (.error .integerTooLarge) :=
      congrArg Eval.ofExcept (compareNumbers_int_error h _)
    have hgte : record.satisfies rt field .gte (int b) = false :=
      satisfies_of_test hrecord hpath (by simp) htest
    rw [hgte, Bool.false_and]
    exact iff_of_false Bool.false_ne_true fun hsame => h ⟨hsame.1, hsame.2.1⟩

/-! ## The order of integers -/

/-- What is told of two integers: exactly one of less, equal and greater, and that they are equal
where neither is greater, exactly if both have numbers and different ones have different numbers.
None is told to be less that is not. On an integer field, the queries for not less and not greater
have the answer of the query for equality, whatever was evaluated before, exactly if the same number
means the same integer. All this is so of integers with up to 53 digits. -/
theorem order_of_integers (rt : Runtime) (a b : ℤ) :
    (IsTrichotomous rt.toLanguage (int a) (int b) ↔ AreDiscerned a b) ∧
    (IsAntisymmetric rt.toLanguage (int a) (int b) ↔ AreDiscerned a b) ∧
    (compare .lt (int a) (int b) = .ok true → a < b) ∧
    (∀ (record : Value) (field : String), record.isScalar = false →
      record.resolvePath rt field = int a → ∀ s t u : Effects,
      ((((record.passes rt field .gte (int b)).run s).1 &&
          ((record.passes rt field .lte (int b)).run t).1) =
        ((record.passes rt field .equals (int b)).run u).1 ↔
      ((HasNumber a ∧ HasNumber b ∧ nearest a = nearest b) ↔ a = b))) ∧
    (a.natAbs ≤ 2 ^ 53 → b.natAbs ≤ 2 ^ 53 → AreDiscerned a b) := by
  refine ⟨isTrichotomous_int_iff, isAntisymmetric_int_iff, lt_of_compare_int,
    fun record field hrecord hpath s t u => ?_, areDiscerned_of_natAbs_le⟩
  obtain ⟨hboth, hequals⟩ := satisfies_int hrecord hpath b
  rw [run_passes_fst, run_passes_fst, run_passes_fst, Bool.eq_iff_iff, hboth, hequals]

/-- The order of two small integers, the first one of which is a field. -/
theorem order_of_three_and_five :
    let rt : Runtime := { toLanguage := .standard, scene := none }
    let record := map [("n", int 3)]
    IsTrichotomous rt.toLanguage (int 3) (int 5) ∧ IsAntisymmetric rt.toLanguage (int 3) (int 5) ∧
    compare .lt (int 3) (int 5) = .ok true ∧ (3 : ℤ) < 5 ∧
    record.isScalar = false ∧ record.resolvePath rt "n" = int 3 ∧
    ((((record.passes rt "n" .gte (int 5)).run .fresh).1 &&
        ((record.passes rt "n" .lte (int 5)).run .fresh).1) =
      ((record.passes rt "n" .equals (int 5)).run .fresh).1 ↔
    ((HasNumber 3 ∧ HasNumber 5 ∧ nearest 3 = nearest 5) ↔ (3 : ℤ) = 5)) := by
  intro rt record
  obtain ⟨htrichotomous, hantisymmetric, hless, hquery, hsmall⟩ := order_of_integers rt 3 5
  have hdiscerned := hsmall (by decide) (by decide)
  exact ⟨htrichotomous.mpr hdiscerned, hantisymmetric.mpr hdiscerned, rfl, hless rfl, rfl, rfl,
    hquery _ "n" rfl rfl .fresh .fresh .fresh⟩

/-- Of two integers with the same number it is told that neither is less nor greater, and not that
they are equal. -/
theorem not_isTrichotomous_two_pow :
    let rt : Runtime := { toLanguage := .standard, scene := none }
    let record := map [("n", int 9007199254740992)]
    ¬IsTrichotomous rt.toLanguage (int 9007199254740992) (int 9007199254740993) ∧
    ¬IsAntisymmetric rt.toLanguage (int 9007199254740992) (int 9007199254740993) ∧
    (record.satisfies rt "n" .gte (int 9007199254740993) &&
        record.satisfies rt "n" .lte (int 9007199254740993)) ≠
      record.satisfies rt "n" .equals (int 9007199254740993) := by
  intro rt record
  have hsame : nearest 9007199254740992 = nearest 9007199254740993 := rfl
  have hnot : ¬AreDiscerned 9007199254740992 9007199254740993 := fun hdiscerned =>
    absurd (hdiscerned.2.2 hsame) (by decide)
  have hnumber : HasNumber 9007199254740992 ∧ HasNumber 9007199254740993 := by
    unfold HasNumber
    decide +kernel
  have hpath : record.resolvePath rt "n" = int 9007199254740992 := rfl
  obtain ⟨hboth, hequals⟩ := satisfies_int rfl hpath 9007199254740993
  refine ⟨mt isTrichotomous_int_iff.mp hnot, mt isAntisymmetric_int_iff.mp hnot, ?_⟩
  rw [hboth.mpr ⟨hnumber.1, hnumber.2, hsame⟩,
    Bool.eq_false_iff.mpr (mt hequals.mp (by decide))]
  exact Bool.noConfusion

end Trigger.Value
