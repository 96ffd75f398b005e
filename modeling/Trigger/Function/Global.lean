import Trigger.Eval.Effect
import Trigger.Value.Number

/-!
# Global functions

Conversions of values and functions on numbers. The integers next to a number exist only for finite
numbers, and a power only where it is finite; where the base is zero, the exponent must not be
negative. A power of a negative number with a fraction in the exponent is a complex number.
-/

namespace Trigger

namespace GlobalFunction

/-- The integer that a rounding gives for a number. -/
def rounded (rounding : Float → Int) (x : Float) : Except Fault Int :=
  if x.isNaN then .error .undefinedInteger
  else if x.isInf then .error .infiniteInteger
  else .ok (rounding x)

/-- The text of a part of a complex number, without a fraction that is zero. -/
def partText (x : Float) : String :=
  let text := (Decimal.text x).toList
  String.ofList (if ['.', '0'].isSuffixOf text then text.take (text.length - 2) else text)

/-- The text of a complex number. A real part that is zero is left out. -/
def complexText (re im : Float) : String :=
  if re == 0.0 && !Decimal.isNegative re then partText im ++ "j"
  else "(" ++ partText re ++ (if Decimal.isNegative im then "" else "+") ++ partText im ++ "j)"

/-- A complex number as an object. -/
def complex (re im : Float) : Value :=
  .native ⟨"complex", complexText re im, false⟩ [("real", .float re), ("imag", .float im)]

/-- A power of a negative number with a fraction in the exponent. -/
def complexPower (x y : Float) : Except Fault Value :=
  let length := x.abs.pow y
  let phase := Float.atan2 0.0 x * y
  let re := length * phase.cos
  let im := length * phase.sin
  if re.isInf || im.isInf then .error .powerTooLarge else .ok (complex re im)

/-- A power. -/
def power (x y : Float) : Except Fault Value :=
  if x == 0.0 && y < 0.0 && y.isFinite then .error .zeroToNegativePower
  else if x < 0.0 && x.isFinite && y.isFinite && !Decimal.isIntegral y then complexPower x y
  else
    let z := x.pow y
    if z.isInf && x.isFinite && y.isFinite then .error .powerTooLarge else .ok (.float z)

/-- The first number of a list for which no later one is better; not-a-number is never better and
never bettered. -/
def choose (better : Float → Float → Bool) (default : Float) : List Float → Float
  | [] => default
  | x :: rest => rest.foldl (fun best y => if better y best then y else best) x

/-- Calls a function. -/
def call (f : GlobalFunction) (args : List Value) : Eval Value := do
  match f, args with
  | .number, [v] => return .float (← number v)
  | .string, [v] => return .str v.toText
  | .boolean, [v] => return .bool v.isTruthy
  | .regExp, [v] => return .pattern (← Eval.readPattern v.toText (some ""))
  | .regExp, [v, modes] => return .pattern (← Eval.readPattern v.toText (some modes.textOrEmpty))
  | .abs, [v] => return .float (← number v).abs
  | .min, vs => return .float (choose (fun a b => a < b) Decimal.infinity (← vs.mapM number))
  | .max, vs => return .float (choose (fun a b => b < a) (-Decimal.infinity) (← vs.mapM number))
  | .floor, [v] => return .int (← Eval.ofExcept (rounded Decimal.floor (← number v)))
  | .ceil, [v] => return .int (← Eval.ofExcept (rounded Decimal.ceiling (← number v)))
  | .round, [v] => return .int (← Eval.ofExcept (rounded Decimal.floor ((← number v) + 0.5)))
  | .sqrt, [v] =>
    let x ← number v
    return .float (if 0.0 ≤ x then x.sqrt else Decimal.nan)
  | .pow, [v, w] => Eval.ofExcept (power (← number v) (← number w))
  | _, _ => throw .wrongArguments
where
  number (v : Value) : Eval Float := Eval.ofExcept v.toNumber

/-- The functions on numbers, by the names under which `Math` has them. -/
def numeric : List (String × GlobalFunction) :=
  [("abs", .abs), ("min", .min), ("max", .max), ("floor", .floor), ("ceil", .ceil),
   ("round", .round), ("sqrt", .sqrt), ("pow", .pow)]

/-- The object that holds the functions on numbers. -/
def math : Value := .object (numeric.map fun (name, f) => (name, .global f))

/-- The names that every expression can use unless the host gives others. -/
def entries : List (String × Value) :=
  [("Math", math), ("Number", .global .number), ("String", .global .string),
   ("Boolean", .global .boolean), ("RegExp", .global .regExp)]

end GlobalFunction

end Trigger
