/-!
# Floating-point numbers as exact values

A finite floating-point number is `mantissa * 2 ^ exponent` with a sign. The operations here work
on that exact value in integer arithmetic: the integers next to a number, the remainder of a
division, and the conversion of integers, which fails where the magnitude has no finite rounding.
-/

namespace Trigger.Decimal

/-- The magnitude `mantissa * 2 ^ exponent` of a finite number. -/
structure Magnitude where
  mantissa : Nat
  exponent : Int
  /-- Whether the gap to the next smaller number is half the gap to the next larger one. -/
  narrowBelow : Bool

/-- The magnitude of a finite double-precision number. -/
def magnitude (x : Float) : Magnitude :=
  let bits := x.toBits.toNat
  let biased : Nat := bits / Nat.pow 2 52 % Nat.pow 2 11
  let fraction := bits % Nat.pow 2 52
  if biased = 0 then ⟨fraction, -1074, false⟩
  else ⟨Nat.pow 2 52 + fraction, (biased : Int) - 1075, fraction = 0 ∧ 1 < biased⟩

/-- The magnitude of a finite single-precision number. -/
def magnitude32 (x : Float32) : Magnitude :=
  let bits := x.toBits.toNat
  let biased : Nat := bits / Nat.pow 2 23 % Nat.pow 2 8
  let fraction := bits % Nat.pow 2 23
  if biased = 0 then ⟨fraction, -149, false⟩
  else ⟨Nat.pow 2 23 + fraction, (biased : Int) - 150, fraction = 0 ∧ 1 < biased⟩

/-- Whether the sign bit of a number is set, also for a zero. -/
def isNegative (x : Float) : Bool := Nat.pow 2 63 ≤ x.toBits.toNat

/-- Not a number, the value of an operation without a sensible result. -/
def nan : Float := 0.0 / 0.0

/-- Positive infinity. -/
def infinity : Float := 1.0 / 0.0

/-- The integer next to a finite number in the direction of zero. -/
def truncate (x : Float) : Int :=
  let m := magnitude x
  let n := m.mantissa * Nat.pow 2 m.exponent.toNat / Nat.pow 2 (-m.exponent).toNat
  if isNegative x then -(n : Int) else n

/-- Whether a finite number is an integer. -/
def isIntegral (x : Float) : Bool :=
  let m := magnitude x
  m.mantissa % Nat.pow 2 (-m.exponent).toNat == 0

/-- The greatest integer that is not above a finite number. -/
def floor (x : Float) : Int :=
  if isNegative x && !isIntegral x then truncate x - 1 else truncate x

/-- The least integer that is not below a finite number. -/
def ceiling (x : Float) : Int :=
  if !isNegative x && !isIntegral x then truncate x + 1 else truncate x

/-- The nearest floating-point number to an integer, if it is finite. -/
def ofInt? (i : Int) : Option Float :=
  let x := Float.ofInt i
  if x.isFinite then some x else none

/-- The number with the sign of `x` and the magnitude of `y`. -/
def withSignOf (x y : Float) : Float := if isNegative x == isNegative y then y else -y

/-- The remainder of the division of `x` by `y` that truncates its quotient. It is exact, and has
the sign of `x`. The divisor is not zero, and the dividend is finite. -/
def remainder (x y : Float) : Float :=
  if !y.isFinite then x else
  let a := magnitude x
  let b := magnitude y
  let e := min a.exponent b.exponent
  let r := a.mantissa * Nat.pow 2 (a.exponent - e).toNat %
    (b.mantissa * Nat.pow 2 (b.exponent - e).toNat)
  let k := (-e).toNat
  withSignOf x
    (if 0 ≤ e then Float.ofNat (r * Nat.pow 2 e.toNat)
      else Float.ofScientific (r * Nat.pow 5 k) true k)

end Trigger.Decimal
