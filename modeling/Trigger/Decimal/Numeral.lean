import Trigger.Decimal.Exact
import Trigger.Text.Digit

/-!
# Reading decimal numerals

A numeral is read as the nearest floating-point number to its exact decimal value; one beyond the
range of finite numbers is read as an infinity. Digits of every script are accepted.
-/

namespace Trigger.Decimal

open Trigger.Text (digitValue? isDigit)

/-- The natural number that a row of decimal digits stands for. -/
def ofDigits (s : List Char) : Nat :=
  s.foldl (fun n c => 10 * n + (digitValue? c).getD 0) 0

/-- The nearest floating-point number to `digits * 10 ^ exponent`. The two far ends are decided by
the number of digits alone, so that no large power is formed. -/
def ofDecimal (digits : Nat) (exponent : Int) : Float :=
  let size := (digits.log2 : Int) * 30103 / 100000 + exponent
  if digits = 0 then 0.0
  else if 400 < size then infinity
  else if size < -400 then 0.0
  else Float.ofScientific digits (exponent < 0) exponent.natAbs

/-- The number for the digits before the point, those after it, and a power of ten. -/
def ofParts (whole fraction : List Char) (exponent : Int) : Float :=
  ofDecimal (ofDigits (whole ++ fraction)) (exponent - fraction.length)

/-- A sign at the start of a text, and the rest. -/
def sign : List Char → Bool × List Char
  | '-' :: rest => (true, rest)
  | '+' :: rest => (false, rest)
  | rest => (false, rest)

/-- The exponent part `e` or `E`, an optional sign and digits, that must make up a whole text. -/
def exponentPart? : List Char → Option Int
  | [] => some 0
  | c :: rest =>
    if c = 'e' ∨ c = 'E' then
      let (negative, ds) := sign rest
      if ds ≠ [] ∧ ds.all isDigit then
        some (if negative then -(ofDigits ds : Int) else ofDigits ds)
      else none
    else none

/-- The number that a text without blanks around it stands for: an optional sign, digits with an
optional point before, between or after them, and an optional exponent. -/
def ofText? (s : List Char) : Option Float :=
  let (negative, s) := sign s
  let whole := s.takeWhile isDigit
  let s := s.dropWhile isDigit
  let (fraction, s) := match s with
    | '.' :: r => (r.takeWhile isDigit, r.dropWhile isDigit)
    | r => ([], r)
  if whole = [] ∧ fraction = [] then none
  else (exponentPart? s).map fun e =>
    let x := ofParts whole fraction e
    if negative then -x else x

end Trigger.Decimal
