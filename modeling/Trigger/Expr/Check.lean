import Trigger.Value.Text

/-!
# Checking trees

A tree that was not read from a text can hold operators that do not exist, and values in the place
of expressions. It is refused for the first of these that is met, the arguments of a call before
the function and operands before their operator.
-/

namespace Trigger

/-- Why a tree has no meaning. -/
inductive TreeError where
  | unknownUnary (spelling : String)
  | unknownBinary (spelling : String)
  | unknownLogical (spelling : String)
  | unknownQuery (name : String)
  | noExpression (shown : String)
deriving DecidableEq, Repr

/-- The wording of an error. -/
def TreeError.message : TreeError → String
  | .unknownUnary op => "Unknown unary operator " ++ Text.quote op
  | .unknownBinary op => "Unknown binary operator " ++ Text.quote op
  | .unknownLogical op => "Unknown logical operator " ++ Text.quote op
  | .unknownQuery name => "Unknown query operator " ++ Text.quote name
  | .noExpression shown => "Unknown AST node: " ++ shown

namespace Expr

mutual

/-- Whether all parts of a tree have a meaning. -/
def check : Expr → Except TreeError Unit
  | .literal _ => .ok ()
  | .name _ => .ok ()
  | .member obj _ => check obj
  | .index obj key => do
    check obj
    check key
  | .call callee args => do
    checkAll args
    check callee
  | .unary op operand => do
    check operand
    match op with
    | .other s => throw (.unknownUnary s)
    | _ => return
  | .binary op left right => do
    check left
    check right
    match op with
    | .other s => throw (.unknownBinary s)
    | _ => return
  | .logical op left right => do
    check left
    check right
    match op with
    | .other s => throw (.unknownLogical s)
    | _ => return
  | .arrow _ body => check body
  | .list items => checkAll items
  | .query _ op value =>
    match op with
    | .other s => .error (.unknownQuery s)
    | _ => check value
  | .foreign v => .error (.noExpression v.shown)

/-- Whether all parts of trees have a meaning. -/
def checkAll : List Expr → Except TreeError Unit
  | [] => .ok ()
  | e :: rest => do
    check e
    checkAll rest

end

end Expr

end Trigger
