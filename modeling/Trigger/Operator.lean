/-!
# Operators and named functions

The operators of expressions and of record queries, with their spellings, and the functions that an
expression can call without being given them. A tree that was not made by the parser may hold an
operator that does not exist; it is kept under its spelling and refused when the tree is checked.
-/

namespace Trigger

/-- The signs that can stand in front of an operand. -/
inductive UnaryOperator where
  | not
  | minus
  | plus
  | other (spelling : String)
deriving DecidableEq, Repr

/-- The spelling of a sign. -/
def UnaryOperator.spelling : UnaryOperator → String
  | .not => "!"
  | .minus => "-"
  | .plus => "+"
  | .other s => s

/-- The sign with a spelling. -/
def UnaryOperator.ofSpelling : String → UnaryOperator
  | "!" => .not
  | "-" => .minus
  | "+" => .plus
  | s => .other s

/-- The operators of arithmetic, order and equality. -/
inductive BinaryOperator where
  | add
  | sub
  | mul
  | div
  | rem
  | lt
  | le
  | gt
  | ge
  | looseEq
  | looseNe
  | strictEq
  | strictNe
  | other (spelling : String)
deriving DecidableEq, Repr

/-- The spelling of an operator. -/
def BinaryOperator.spelling : BinaryOperator → String
  | .add => "+"
  | .sub => "-"
  | .mul => "*"
  | .div => "/"
  | .rem => "%"
  | .lt => "<"
  | .le => "<="
  | .gt => ">"
  | .ge => ">="
  | .looseEq => "=="
  | .looseNe => "!="
  | .strictEq => "==="
  | .strictNe => "!=="
  | .other s => s

/-- The operator with a spelling. -/
def BinaryOperator.ofSpelling : String → BinaryOperator
  | "+" => .add
  | "-" => .sub
  | "*" => .mul
  | "/" => .div
  | "%" => .rem
  | "<" => .lt
  | "<=" => .le
  | ">" => .gt
  | ">=" => .ge
  | "==" => .looseEq
  | "!=" => .looseNe
  | "===" => .strictEq
  | "!==" => .strictNe
  | s => .other s

/-- The operators that do not always evaluate their second operand. -/
inductive LogicalOperator where
  | and
  | or
  | other (spelling : String)
deriving DecidableEq, Repr

/-- The spelling of an operator. -/
def LogicalOperator.spelling : LogicalOperator → String
  | .and => "&&"
  | .or => "||"
  | .other s => s

/-- The operator with a spelling. -/
def LogicalOperator.ofSpelling : String → LogicalOperator
  | "&&" => .and
  | "||" => .or
  | s => .other s

/-- The tests that a record query can make on a field. -/
inductive QueryOperator where
  | equals
  | contains
  | includes
  | startsWith
  | endsWith
  | matches
  | regex
  | gt
  | lt
  | gte
  | lte
  | other (name : String)
deriving DecidableEq, Repr

/-- The name of a test. -/
def QueryOperator.name : QueryOperator → String
  | .equals => "equals"
  | .contains => "contains"
  | .includes => "includes"
  | .startsWith => "startsWith"
  | .endsWith => "endsWith"
  | .matches => "match"
  | .regex => "regex"
  | .gt => "gt"
  | .lt => "lt"
  | .gte => "gte"
  | .lte => "lte"
  | .other s => s

/-- The test with a name. -/
def QueryOperator.ofName : String → QueryOperator
  | "equals" => .equals
  | "contains" => .contains
  | "includes" => .includes
  | "startsWith" => .startsWith
  | "endsWith" => .endsWith
  | "match" => .matches
  | "regex" => .regex
  | "gt" => .gt
  | "lt" => .lt
  | "gte" => .gte
  | "lte" => .lte
  | s => .other s

/-- The predicates on the current text. -/
inductive Builtin where
  | regex
  | any
  | all
  | none
  | count
  | near
  | sequence
  | fuzzy
  | fuzzyFind
  | fuzzyAny
deriving DecidableEq, Repr

/-- The name of a predicate. -/
def Builtin.name : Builtin → String
  | .regex => "regex"
  | .any => "any"
  | .all => "all"
  | .none => "none"
  | .count => "count"
  | .near => "near"
  | .sequence => "sequence"
  | .fuzzy => "fuzzy"
  | .fuzzyFind => "fuzzyFind"
  | .fuzzyAny => "fuzzyAny"

/-- How far apart two words may start. -/
inductive Reach where
  | within (n : Int)
  | upTo (x : Float)
deriving DecidableEq

/-- The defaults of the text predicates. -/
structure BuiltinSettings where
  fuzzyThreshold : Float := 0.8
  nearReach : Reach := .within 50
deriving DecidableEq

/-- The functions on values that do not depend on the current text. -/
inductive GlobalFunction where
  | number
  | string
  | boolean
  | regExp
  | abs
  | min
  | max
  | floor
  | ceil
  | round
  | sqrt
  | pow
deriving DecidableEq, Repr

/-- The name of a function on values. Functions on numbers are those of `Math`. -/
def GlobalFunction.name : GlobalFunction → String
  | .number => "Number"
  | .string => "String"
  | .boolean => "Boolean"
  | .regExp => "RegExp"
  | .abs => "Math.abs"
  | .min => "Math.min"
  | .max => "Math.max"
  | .floor => "Math.floor"
  | .ceil => "Math.ceil"
  | .round => "Math.round"
  | .sqrt => "Math.sqrt"
  | .pow => "Math.pow"

end Trigger
