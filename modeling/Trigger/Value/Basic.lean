import Trigger.Operator
import Trigger.Pattern.Basic

/-!
# Values and expressions

Values are plain data (null, undefined, booleans, integers, floating-point numbers, strings, lists
and mappings in the order of their keys), numbers boxed in the type of a table column, objects of
the host with attributes, patterns, objects of the language that the host is written in, and
functions. Functions are the predicates on texts, the global functions, functions of the host, record
queries, and arrow functions together with the variables around them.

Expressions are trees. Since an expression can hold a value and an arrow function holds an
expression, the two are defined together. A query and an arrow function carry a number by which
they are told from others that look the same.
-/

namespace Trigger

/-- Lists and tuples differ in nothing but that they never equal each other. -/
inductive ListKind where
  | list
  | tuple
deriving DecidableEq, Repr

/-- A number or truth value of one of the types of table columns. -/
inductive BoxedNumber where
  | int64 (i : Int)
  | uint8 (i : Int)
  | float64 (x : Float)
  | float32 (x : Float32)
  | bool (b : Bool)

/-- A number or truth value in the type of a table column. How such a value is written and described
is a matter of its type, so it brings both texts along. -/
structure Boxed where
  number : BoxedNumber
  text : String
  shown : String

/-- What an object of the language is: the name of its type, the text that describes it, and whether
it can be called. -/
structure NativeKind where
  type : String
  shown : String
  isCallable : Bool := false
deriving DecidableEq, Repr

mutual

/-- The values of expressions. -/
inductive Value where
  | null
  | undefined
  | bool (b : Bool)
  | int (i : Int)
  | float (x : Float)
  | str (s : String)
  | list (kind : ListKind) (items : List Value)
  | map (entries : List (String × Value))
  | object (attributes : List (String × Value))
  | boxed (b : Boxed)
  | pattern (p : Pattern)
  /-- An object of the language with what it is made of, such as what a search finds or a method of a
  number. -/
  | native (kind : NativeKind) (parts : List (String × Value))
  | query (id : Nat) (field : String) (operator : QueryOperator) (value : Value)
  | builtin (f : Builtin) (settings : BuiltinSettings)
  | global (f : GlobalFunction)
  | host (name : String)
  | arrow (id : Nat) (params : List String) (body : Expr) (locals : List (List (String × Value)))

/-- Expressions. -/
inductive Expr where
  | literal (v : Value)
  | name (x : String)
  | member (obj : Expr) (property : String)
  | index (obj key : Expr)
  | call (callee : Expr) (args : List Expr)
  | unary (op : UnaryOperator) (operand : Expr)
  | binary (op : BinaryOperator) (left right : Expr)
  | logical (op : LogicalOperator) (left right : Expr)
  | arrow (params : List String) (body : Expr)
  | list (items : List Expr)
  | query (field : String) (op : QueryOperator) (value : Expr)
  /-- Something that is no expression in the place of one. -/
  | foreign (v : Value)

end

instance : Inhabited Value := ⟨.undefined⟩

namespace Value

/-- A list of values. -/
def ofList (items : List Value) : Value := .list .list items

/-- Null and undefined. -/
def isNullish : Value → Bool
  | .null => true
  | .undefined => true
  | _ => false

/-- Whether a value can be called. -/
def isCallable : Value → Bool
  | .native kind _ => kind.isCallable
  | .query .. => true
  | .builtin .. => true
  | .global _ => true
  | .host _ => true
  | .arrow .. => true
  | _ => false

/-- A number or truth value of a table column as a plain one. -/
def ofBoxedNumber : BoxedNumber → Value
  | .int64 i => .int i
  | .uint8 i => .int i
  | .float64 x => .float x
  | .float32 x => .float x.toFloat
  | .bool b => .bool b

/-- A boxed number or truth value as a plain one. -/
def unbox : Value → Value
  | .boxed b => ofBoxedNumber b.number
  | v => v

end Value

end Trigger
