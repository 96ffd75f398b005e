import Trigger.Decimal.Shortest

/-!
# Decimals with a given number of places

A magnitude is rounded to a number of places after the point, or to a number of digits, from its
exact value; a value half-way between two decimals goes to the one with the even last digit.
-/

namespace Trigger.Decimal

/-- The quotient of two natural numbers, rounded to the nearest, and a half to the even neighbour. -/
def divideToNearest (n d : Nat) : Nat :=
  let q := n / d
  match compare (2 * (n % d)) d with
  | .lt => q
  | .gt => q + 1
  | .eq => if q % 2 = 0 then q else q + 1

/-- The multiple of `10 ^ k` next to a magnitude, in units of `10 ^ k`. -/
def Magnitude.toGrid (m : Magnitude) (k : Int) : Nat :=
  divideToNearest (m.mantissa * Nat.pow 2 m.exponent.toNat * Nat.pow 10 (-k).toNat)
    (Nat.pow 2 (-m.exponent).toNat * Nat.pow 10 k.toNat)

/-- Digits with so many of them behind a point. -/
def placePoint (digits : Nat) (places : Nat) (keepPoint : Bool) : List Char :=
  let ds := (toString digits).toList
  let ds := List.replicate (places + 1 - ds.length) '0' ++ ds
  let point := if places = 0 && !keepPoint then [] else ['.']
  ds.take (ds.length - places) ++ point ++ ds.drop (ds.length - places)

/-- A magnitude with so many places after the point. -/
def Magnitude.fixed (m : Magnitude) (places : Nat) (keepPoint : Bool) : List Char :=
  placePoint (m.toGrid (-places)) places keepPoint

/-- The digits of a magnitude rounded to `places + 1` of them, and the power of ten of the first. -/
def Magnitude.leading (m : Magnitude) (places : Nat) : Nat × Int :=
  if m.mantissa = 0 then (0, 0)
  else
    let power := m.scale - 1
    let digits := m.toGrid (power - places)
    if digits < Nat.pow 10 (places + 1) then (digits, power) else (digits / 10, power + 1)

/-- A power of ten with a sign and at least two digits. -/
def exponentText (power : Int) : List Char :=
  let e := (toString power.natAbs).toList
  'e' :: (if power < 0 then '-' else '+') :: List.replicate (2 - e.length) '0' ++ e

/-- A magnitude with one digit before the point, so many behind it, and a power of ten. -/
def Magnitude.scientific (m : Magnitude) (places : Nat) (keepPoint : Bool) : List Char :=
  let (digits, power) := m.leading places
  placePoint digits places keepPoint ++ exponentText power

/-- A decimal without the zeros at the end of its fraction. -/
def stripZeros (s : List Char) : List Char :=
  if s.contains '.' then
    ((s.reverse.dropWhile (· == '0')).dropWhile (· == '.')).reverse
  else s

/-- A magnitude with so many digits, positionally or with a power of ten, whichever is shorter. -/
def Magnitude.general (m : Magnitude) (digits : Nat) (keepZeros : Bool) : List Char :=
  let digits := max 1 digits
  let (leading, power) := m.leading (digits - 1)
  let strip (s : List Char) : List Char := if keepZeros then s else stripZeros s
  if -4 ≤ power ∧ power < digits then
    strip (m.fixed ((digits : Int) - 1 - power).toNat keepZeros)
  else strip (placePoint leading (digits - 1) keepZeros) ++ exponentText power

end Trigger.Decimal
