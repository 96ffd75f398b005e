import Trigger.Value.Language
import Trigger.Value.Number

/-!
# Equality of values

Values of different kinds are never strictly equal. Numbers are compared by their exact values, and
lists, mappings and objects by their contents, wherein a truth value equals the number it stands
for. Two values that are one object are equal whatever their contents are, and numbers of column
types among the contents are compared as their types do it. Loose equality also compares values of
different kinds: null equals undefined, a list is taken as its text, and all other data are compared
as numbers.
-/

namespace Trigger

namespace Value

/-- Whether an integer is the exact value of a floating-point number. -/
def intEqualsFloat (i : Int) (x : Float) : Bool :=
  x.isFinite && Decimal.isIntegral x && Decimal.truncate x == i

/-- Whether two plain values without contents are the same; truth values are numbers here. -/
def sameScalar : Value → Value → Bool
  | .null, .null => true
  | .undefined, .undefined => true
  | .bool a, .bool b => a == b
  | .bool a, .int b => (if a then 1 else 0) == b
  | .bool a, .float b => (if a then 1.0 else 0.0) == b
  | .int a, .bool b => a == (if b then 1 else 0)
  | .int a, .int b => a == b
  | .int a, .float b => intEqualsFloat a b
  | .float a, .bool b => a == (if b then 1.0 else 0.0)
  | .float a, .int b => intEqualsFloat b a
  | .float a, .float b => a == b
  | .str a, .str b => a == b
  | _, _ => false

section

variable (language : Language)

mutual

/-- Whether two values have the same contents. -/
def same : Value → Value → Bool
  | .list k items, .list l others => k == l && sameItems items others
  | .map entries, .map others => entries.length == others.length && sameEntries entries others
  | .object entries, .object others => entries.length == others.length && sameEntries entries others
  | .native kind parts, .native kind' others =>
    kind == kind' && parts.length == others.length && sameEntries parts others
  | .pattern p, .pattern q => p.same q
  | .query id _ _ _, .query id' _ _ _ => id == id'
  | .builtin f s, .builtin f' s' => f == f' && decide (s = s')
  | .global f, .global f' => f == f'
  | .host name, .host name' => name == name'
  | .arrow id _ _ _, .arrow id' _ _ _ => id == id'
  | .boxed b, v => language.boxedEquals b.number v
  | v, .boxed b => language.boxedEquals b.number v
  | a, b => sameScalar a b

/-- Whether two lists have the same items in the same order. -/
def sameItems : List Value → List Value → Bool
  | [], [] => true
  | a :: rest, b :: others => (language.identical a b || same a b) && sameItems rest others
  | _, _ => false

/-- Whether every entry of one mapping is also one of the other. -/
def sameEntries : List (String × Value) → List (String × Value) → Bool
  | [], _ => true
  | (k, v) :: rest, others =>
    (match others.lookup k with
      | some w => language.identical v w || same v w
      | none => false) && sameEntries rest others

end

end

/-- The kinds of values that equality tells apart. -/
inductive Kind where
  | undefined
  | null
  | boolean
  | number
  | string
  | object
deriving DecidableEq, Repr

/-- The kind of a plain value. -/
def kind : Value → Kind
  | .undefined => .undefined
  | .null => .null
  | .bool _ => .boolean
  | .int _ => .number
  | .float _ => .number
  | .str _ => .string
  | _ => .object

/-- Equality of values of one kind. -/
def strictEquals (language : Language) (a b : Value) : Bool :=
  let a := a.unbox
  let b := b.unbox
  a.kind == b.kind && (a.kind == .object && language.identical a b || same language a b)

/-- Whether a text equals a value that is no object: as a text if that is one, else as a number. -/
def textEquals (s : String) (b : Value) : Except Fault Bool := do
  match b with
  | .str t => return s == t
  | b => return numberOfText s == (← b.toNumber)

/-- Whether a value is a list or a tuple. -/
def isList : Value → Bool
  | .list .. => true
  | _ => false

/-- Equality of plain values of different kinds neither of which is null or undefined. -/
def mixedEquals (a b : Value) : Except Fault Bool := do
  if a.isList then textEquals a.toText b
  else if b.isList then textEquals b.toText a
  else if a.kind = .object || b.kind = .object then return false
  else return (← a.toNumber) == (← b.toNumber)

/-- Equality of values of any kinds. -/
def looseEquals (language : Language) (a b : Value) : Except Fault Bool := do
  let a := a.unbox
  let b := b.unbox
  if a.kind = b.kind then return strictEquals language a b
  if a.isNullish || b.isNullish then return a.isNullish && b.isNullish
  mixedEquals a b

end Value

end Trigger
