import Trigger.Value.Number

/-!
# Arithmetic and order

Operators work on floating-point numbers, whatever their operands are; only a sum with a string or
a list in it is a text. The result of two integers is turned back into an integer where it is
finite. Strings are ordered by code points among themselves, and everything else as numbers, where
not-a-number is in no order.
-/

namespace Trigger

namespace Value

/-- Whether a value is an integer, which truth values are not. -/
def isInt : Value → Bool
  | .int _ => true
  | _ => false

/-- The result of an operation on plain values: an integer if both of them are and the result is
finite. -/
def narrow (result : Float) (a b : Value) : Value :=
  if a.isInt && b.isInt && result.isFinite then .int (Decimal.truncate result) else .float result

/-- Whether a plain value turns a sum into a text. -/
def isTextual : Value → Bool
  | .str _ => true
  | .list .. => true
  | _ => false

/-- The sum of two values, or their texts one after the other. -/
def add (a b : Value) : Except Fault Value := do
  let a := a.unbox
  let b := b.unbox
  if a.isTextual || b.isTextual then return .str (a.toText ++ b.toText)
  return narrow ((← a.toNumber) + (← b.toNumber)) a b

/-- The quotient of two numbers that come from plain values. -/
def quotient (x y : Float) (a b : Value) : Value :=
  if y == 0.0 then
    if x == 0.0 || x.isNaN then .float Decimal.nan
    else .float (Decimal.withSignOf x Decimal.infinity * Decimal.withSignOf y 1.0)
  else
    let q := x / y
    if q.isFinite && Decimal.isIntegral q then narrow q a b else .float q

/-- The result of an arithmetic operator. -/
def arithmetic (op : BinaryOperator) (a b : Value) : Except Fault Value := do
  if op = .add then return ← add a b
  let a := a.unbox
  let b := b.unbox
  let x ← a.toNumber
  let y ← b.toNumber
  match op with
  | .sub => return narrow (x - y) a b
  | .mul => return narrow (x * y) a b
  | .div => return quotient x y a b
  | .rem =>
    if y == 0.0 || x.isInf || x.isNaN || y.isNaN then return .float Decimal.nan
    return narrow (Decimal.remainder x y) a b
  | op => throw (.unknownArithmetic op.spelling)

/-- Whether two things stand in the order of a relational operator. -/
def inOrder {α : Type} [LT α] [LE α] [DecidableLT α] [DecidableLE α] (op : BinaryOperator)
    (x y : α) : Except Fault Bool :=
  match op with
  | .lt => .ok (decide (x < y))
  | .le => .ok (decide (x ≤ y))
  | .gt => .ok (decide (y < x))
  | .ge => .ok (decide (y ≤ x))
  | op => .error (.unknownComparison op.spelling)

/-- The result of a relational operator. -/
def compare (op : BinaryOperator) (a b : Value) : Except Fault Bool := do
  match a.unbox, b.unbox with
  | .str s, .str t => inOrder op s t
  | a, b =>
    let x ← a.toNumber
    let y ← b.toNumber
    if x.isNaN || y.isNaN then return false
    inOrder op x y

/-- The negative of a value as a number. -/
def negate : Value → Except Fault Value
  | .int i => .ok (.int (-i))
  | v => return .float (-(← v.toNumber))

/-- A value as a number. -/
def posit : Value → Except Fault Value
  | .int i => .ok (.int i)
  | v => return .float (← v.toNumber)

end Value

end Trigger
