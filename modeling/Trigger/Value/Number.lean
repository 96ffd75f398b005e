import Trigger.Decimal.Numeral
import Trigger.Fault
import Trigger.Text.Space
import Trigger.Value.Text

/-!
# Values as numbers and truth values

Every value is a number to an operator that wants one: null and blank strings are zero, undefined
and everything without a number are not-a-number, and a list of one item is as that item. Only an
integer beyond the floating-point numbers has none. Every value is also true or false: null,
undefined, false, zero, not-a-number and the empty string are false, and all else is true.
-/

namespace Trigger

namespace Value

/-- An integer as a floating-point number. -/
def floatOfInt (i : Int) : Except Fault Float :=
  match Decimal.ofInt? i with
  | some x => .ok x
  | none => .error .integerTooLarge

/-- The number that a string stands for. Blank strings stand for zero. -/
def numberOfText (s : String) : Float :=
  let s := Text.trim s.toList
  if s.isEmpty then 0.0 else (Decimal.ofText? s).getD Decimal.nan

/-- The number for a value that is no list. -/
def scalarNumber (v : Value) : Except Fault Float :=
  match v.unbox with
  | .null => .ok 0.0
  | .bool b => .ok (if b then 1.0 else 0.0)
  | .int i => floatOfInt i
  | .float x => .ok x
  | .str s => .ok (numberOfText s)
  | _ => .ok Decimal.nan

/-- The number for a value. -/
def toNumber : Value → Except Fault Float
  | .list _ [] => .ok 0.0
  | .list _ [v] => toNumber v
  | v => scalarNumber v

/-- Whether a value is a number, plain or boxed. -/
def isNumber (v : Value) : Bool :=
  match v.unbox with
  | .int _ => true
  | .float _ => true
  | _ => false

/-- Whether a value counts as true. -/
def isTruthy (v : Value) : Bool :=
  match v.unbox with
  | .null => false
  | .undefined => false
  | .bool b => b
  | .int i => i != 0
  | .float x => !(x == 0.0 || x.isNaN)
  | .str s => s != ""
  | _ => true

end Value

end Trigger
