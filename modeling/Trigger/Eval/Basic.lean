import Trigger.Eval.Frame
import Trigger.Function.Builtin
import Trigger.Function.Global
import Trigger.Function.Method

/-!
# Evaluation

The meaning of expressions in a frame. Functions are applied by a function that `evaluate` is
given, so that it goes through the expression once from the outside to the inside; `applyAt` ties
the knot and bounds how deeply calls are nested.

The function of a call is looked up before its arguments are evaluated. The second operand of a
logical operator is evaluated only if the first one does not decide.
-/

namespace Trigger

/-- The name in messages of a called expression that is neither a name nor a member. -/
def anonymousName : String := "expression"

section

variable (apply : Value → List Value → Eval Value)

variable (frame : Frame)

mutual

/-- The value of an expression in a frame. -/
def evaluate : Expr → Eval Value
  | .literal v => return v
  | .name x => return frame.scopes.valueOf frame.runtime x
  | .list items => do return .ofList (← evaluateAll items)
  | .member obj property => do return (← evaluate obj).property frame.runtime property
  | .index obj key => do
    let v ← evaluate obj
    let k ← evaluate key
    Eval.ofExcept (v.member frame.runtime k)
  | .call (.name x) args => do
    match frame.scopes.resolve frame.runtime x with
    | none => throw (.notAFunction x)
    | some (f, label) =>
      if f.isCallable then
        let args ← evaluateAll args
        apply f (if label = Frame.predicateLabel then .str frame.around.text :: args else args)
      else throw (.notAFunction x)
  | .call (.member obj property) args => do
    match (← evaluate obj).method? frame.runtime property with
    | none => throw (.notAFunction property)
    | some m => m.call frame.around.host.language apply (← evaluateAll args)
  | .call callee args => do
    let f ← evaluate callee
    if f.isCallable then apply f (← evaluateAll args)
    else throw (.notAFunction anonymousName)
  | .unary op operand => do
    let v ← evaluate operand
    match op with
    | .not => return .bool !(← frame.settle v).isTruthy
    | .minus => Eval.ofExcept v.negate
    | .plus => Eval.ofExcept v.posit
    | .other _ => throw .unchecked
  | .binary op left right => do
    let a ← evaluate left
    let b ← evaluate right
    match op with
    | .lt | .le | .gt | .ge => return .bool (← Eval.ofExcept (Value.compare op a b))
    | .looseEq => return .bool (← Eval.ofExcept (a.looseEquals frame.around.host.language b))
    | .looseNe => return .bool !(← Eval.ofExcept (a.looseEquals frame.around.host.language b))
    | .strictEq => return .bool (a.strictEquals frame.around.host.language b)
    | .strictNe => return .bool !(a.strictEquals frame.around.host.language b)
    | op => Eval.ofExcept (Value.arithmetic op a b)
  | .logical op left right => do
    let a ← frame.settle (← evaluate left)
    match op with
    | .and => if a.isTruthy then frame.settle (← evaluate right) else return a
    | .or => if a.isTruthy then return a else frame.settle (← evaluate right)
    | .other _ => throw .unchecked
  | .arrow params body => do return .arrow (← Eval.freshId) params body frame.locals
  | .query field op value => do
    let v ← evaluate value
    return .query (← Eval.freshId) field op v
  | .foreign _ => throw .unchecked

/-- The values of expressions, from the first to the last. -/
def evaluateAll : List Expr → Eval (List Value)
  | [] => return []
  | e :: rest => do
    let v ← evaluate e
    return v :: (← evaluateAll rest)

end

/-- What a function gives for arguments. -/
def applyWith (around : Surroundings) : Value → List Value → Eval Value
  | .query _ field op v, [record] => do return .bool (← record.passes around.runtime field op v)
  | .query .., _ => throw .wrongArguments
  | .builtin f settings, args => f.call settings args
  | .global f, args => f.call args
  | .host name, args => around.host.call name args
  | .native kind parts, args =>
    if kind.isCallable then (around.host.language.call (.native kind parts) args).run apply
    else throw .notCallable
  | .arrow _ params body locals, args => do
    let frame := (Frame.mk around locals).inside (Frame.bind params args)
    frame.settle (← evaluate apply frame body)
  | _, _ => throw .notCallable

end

/-- What a function gives for arguments if calls may be nested so deeply. -/
def applyAt (around : Surroundings) : Nat → Value → List Value → Eval Value
  | 0 => fun _ _ => throw .tooDeep
  | depth + 1 => applyWith (applyAt around depth) around

/-- How deeply calls can be nested. -/
def callDepth : Nat := 1000

/-- The value of an expression that stands alone. -/
def evaluateIn (around : Surroundings) (e : Expr) : Eval Value := do
  let frame : Frame := { around }
  frame.settle (← evaluate (applyAt around callDepth) frame e)

/-- What a function gives for arguments outside of every expression. -/
def callFunction (host : Host) : Value → List Value → Eval Value :=
  applyAt { text := "", scopes := [], subject := .undefined, host } callDepth

end Trigger
