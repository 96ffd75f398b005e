import Trigger.Token.Basic

/-!
# Connectives

The operators that stand between two operands, in six classes of strength. Class 1 binds its
operands most tightly and class 6 least; all of them group from the left.
-/

namespace Trigger

/-- An operator between two operands. -/
inductive Connective where
  | binary (op : BinaryOperator)
  | logical (op : LogicalOperator)
deriving DecidableEq, Repr

namespace Connective

/-- The class of strength of a connective, and 0 for an operator that does not exist. -/
def rank : Connective → Nat
  | .binary .mul => 1
  | .binary .div => 1
  | .binary .rem => 1
  | .binary .add => 2
  | .binary .sub => 2
  | .binary .lt => 3
  | .binary .le => 3
  | .binary .gt => 3
  | .binary .ge => 3
  | .binary .looseEq => 4
  | .binary .looseNe => 4
  | .binary .strictEq => 4
  | .binary .strictNe => 4
  | .logical .and => 5
  | .logical .or => 6
  | .binary (.other _) => 0
  | .logical (.other _) => 0

/-- The class of the connectives that bind least. -/
def loosest : Nat := 6

/-- The tree of two operands. -/
def join : Connective → Expr → Expr → Expr
  | .binary op, left, right => .binary op left right
  | .logical op, left, right => .logical op left right

end Connective

/-- The connective that a token stands for. -/
def Lexeme.connective? : Lexeme → Option Connective
  | .operator op => some (.binary op)
  | .and => some (.logical .and)
  | .or => some (.logical .or)
  | _ => none

/-- The sign that a token stands for in front of an operand. -/
def Lexeme.unary? : Lexeme → Option UnaryOperator
  | .not => some .not
  | .operator .add => some .plus
  | .operator .sub => some .minus
  | _ => none

end Trigger
