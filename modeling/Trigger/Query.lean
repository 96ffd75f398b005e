import Trigger.Eval.Effect
import Trigger.Value.Arithmetic
import Trigger.Value.Equality
import Trigger.Value.Member

/-!
# Record queries

A query tests the value that a path leads to in a record. A query has an answer for every value:
where the path leads nowhere, and where the test cannot be made, the answer is no.
-/

namespace Trigger

namespace QueryOperator

/-- A relation of the numbers of two values, false if one of them is nullish or has no number. -/
def compareNumbers (relation : Float → Float → Bool) (fieldValue value : Value) :
    Except Fault Bool := do
  if fieldValue.isNullish || value.isNullish then return false
  let x ← fieldValue.toNumber
  let y ← value.toNumber
  return !x.isNaN && !y.isNaN && relation x y

/-- A relation of the texts of two values, false if one of them is nullish. -/
def compareTexts (relation : List Char → List Char → Bool) (fieldValue value : Value) : Bool :=
  !fieldValue.isNullish && !value.isNullish
    && relation fieldValue.toText.toList value.toText.toList

/-- Whether a pattern, or the pattern that a text stands for, occurs in the text of a value. -/
def occurs (fieldValue value : Value) : Eval Bool := do
  if fieldValue.isNullish || value.isNullish then return false
  let p ← match value with
    | .pattern p => pure p
    | v => Eval.readPattern v.toText none
  return p.occursIn fieldValue.toText.toList.toArray

/-- The answer of a test on the value of a field. -/
def test (language : Language) (op : QueryOperator) (fieldValue value : Value) : Eval Bool :=
  match op with
  | .equals => Eval.ofExcept (fieldValue.looseEquals language value)
  | .contains => pure (compareTexts (fun s t => Text.contains t s) fieldValue value)
  | .includes => pure (compareTexts (fun s t => Text.contains t s) fieldValue value)
  | .startsWith => pure (compareTexts (fun s t => t.isPrefixOf s) fieldValue value)
  | .endsWith => pure (compareTexts (fun s t => t.isSuffixOf s) fieldValue value)
  | .matches => occurs fieldValue value
  | .regex => occurs fieldValue value
  | .gt => Eval.ofExcept (compareNumbers (fun x y => y < x) fieldValue value)
  | .lt => Eval.ofExcept (compareNumbers (fun x y => x < y) fieldValue value)
  | .gte => Eval.ofExcept (compareNumbers (fun x y => y ≤ x) fieldValue value)
  | .lte => Eval.ofExcept (compareNumbers (fun x y => x ≤ y) fieldValue value)
  | .other _ => Eval.ofExcept (compareNumbers (fun _ _ => false) fieldValue value)

end QueryOperator

namespace Value

/-- Whether a value has no fields that a query could test: nothing, or a string, number or truth
value. Of the boxed numbers this is true of those in double precision only. -/
def isScalar : Value → Bool
  | .null => true
  | .undefined => true
  | .str _ => true
  | .int _ => true
  | .float _ => true
  | .bool _ => true
  | .boxed ⟨.float64 _, _, _⟩ => true
  | _ => false

section

variable (rt : Runtime)

/-- Whether the value of a field passes a test. A test that fails is reported. -/
def answers (fieldValue : Value) (field : String) (op : QueryOperator) (value : Value) :
    StateM Effects Bool := do
  match ← (op.test rt.toLanguage fieldValue value).run with
  | .ok answer => return answer
  | .error _ =>
    Eval.report (.predicateFailed field)
    return false

/-- Whether a record passes a query. -/
def passes (record : Value) (field : String) (op : QueryOperator) (value : Value) :
    StateM Effects Bool := do
  if record.isScalar then return false
  match record.resolvePath rt field with
  | .undefined => return false
  | fieldValue => fieldValue.answers rt field op value

end

end Value

end Trigger
