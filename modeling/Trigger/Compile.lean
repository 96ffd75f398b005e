import Trigger.Evaluator
import Trigger.Expr.Reader

/-!
# Compiling expressions

A text becomes an evaluator if it is an expression and every part of its tree has a meaning. The
trees that are read from texts always pass the check.

A tree is compiled from the top to the bottom, by calls that are nested the more deeply the deeper the
tree is. Where a compilation is given no more than so many calls, deeper trees have no evaluator.
-/

namespace Trigger

/-- Why there is no evaluator. -/
inductive CompileError where
  | unknownContext (name : String)
  /-- The same for a tree, where the message also names the contexts that there are. -/
  | contextOutsideList (name : String)
  | read (e : ReadError)
  | tree (e : TreeError)
  /-- The calls of the compilation would be nested too deeply. -/
  | tooDeep
deriving DecidableEq, Repr

/-- The wording of an error. -/
def CompileError.message : CompileError → String
  | .unknownContext name => "Unknown context kind " ++ Text.quote name
  | .contextOutsideList name =>
    "Unknown context kind " ++ Text.quote name ++ "; expected one of ('text', 'object')"
  | .read e => e.message
  | .tree e => e.message
  | .tooDeep => "maximum recursion depth exceeded"

namespace Expr

mutual

/-- How deeply the calls are nested by which a tree is compiled. Calls and operators have functions of
their own, so they count twice. Where a name is called, nothing is compiled for it, and where a member
is called, only what it is a member of. -/
def compileDepth : Expr → Nat
  | .literal _ => 1
  | .name _ => 1
  | .foreign _ => 1
  | .member obj _ => obj.compileDepth + 1
  | .index obj key => max obj.compileDepth key.compileDepth + 1
  | .call (.name _) args => compileDepthAll args + 2
  | .call (.member obj _) args => max obj.compileDepth (compileDepthAll args) + 2
  | .call callee args => max callee.compileDepth (compileDepthAll args) + 2
  | .unary _ operand => operand.compileDepth + 2
  | .binary _ left right => max left.compileDepth right.compileDepth + 2
  | .logical _ left right => max left.compileDepth right.compileDepth + 2
  | .arrow _ body => body.compileDepth + 1
  | .list items => compileDepthAll items + 1
  | .query _ _ value => value.compileDepth + 1

/-- The same for a row of trees, which is gone through by one more call. -/
def compileDepthAll : List Expr → Nat
  | [] => 1
  | e :: rest => max (e.compileDepth + 1) (compileDepthAll rest)

end

/-- Whether a tree can be compiled with so many nested calls. -/
def fits (e : Expr) (room : Option Nat) : Bool :=
  match room with
  | none => true
  | some calls => e.compileDepth ≤ calls

end Expr

namespace Evaluator

/-- The evaluator for a tree. -/
def ofTree (body : Expr) (context : ContextKind) (target : Option String) (expression : String) :
    Except CompileError Evaluator :=
  match body.check with
  | .ok () => .ok { expression, context, target, body }
  | .error e => .error (.tree e)

/-- The evaluator for a tree in a context that is given by its name. -/
def ofTreeIn (body : Expr) (context : String) (target : Option String) (expression : String) :
    Except CompileError Evaluator :=
  match ContextKind.ofName? context with
  | some kind => ofTree body kind target expression
  | none => .error (.contextOutsideList context)

/-- The evaluator for a text, where the compilation may nest so many calls if that is limited. -/
def ofText (expression : String) (context : ContextKind) (target : Option String)
    (room : Option Nat := none) : Except CompileError Evaluator :=
  match Expr.read expression with
  | .ok body => if body.fits room then ofTree body context target expression else .error .tooDeep
  | .error e => .error (.read e)

/-- The evaluator for a text remembers the text, the context and the target, and its body is what
was read. -/
theorem parts_of_ofText {expression : String} {context : ContextKind} {target : Option String}
    {room : Option Nat} {e : Evaluator} (h : ofText expression context target room = .ok e) :
    e.expression = expression ∧ e.context = context ∧ e.target = target ∧
      Expr.read expression = .ok e.body := by
  unfold ofText ofTree at h
  split at h
  · rename_i body hbody
    split at h
    · split at h
      · obtain rfl := Except.ok.inj h
        exact ⟨rfl, rfl, rfl, hbody⟩
      · exact nomatch h
    · exact nomatch h
  · exact nomatch h

end Evaluator

end Trigger
