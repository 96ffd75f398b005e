import Trigger.Eval.Basic
import Trigger.Expr.Check

/-!
# Evaluators

An expression that has been checked, for one of two contexts. In the text context the data are the
current text, and in the object context they are a record whose fields are names of the expression.
Running an evaluator never fails outright: what goes wrong is its outcome, and calling it takes a
failure as the answer no.
-/

namespace Trigger

/-- What an expression is about. -/
inductive ContextKind where
  | text
  | object
deriving DecidableEq, Repr

/-- The name of a context. -/
def ContextKind.name : ContextKind → String
  | .text => "text"
  | .object => "object"

/-- The context with a name. -/
def ContextKind.ofName? : String → Option ContextKind
  | "text" => some .text
  | "object" => some .object
  | _ => none

/-- The names that the host lends to expressions. -/
structure Environment where
  /-- Functions that are called with the current text as their first argument. -/
  builtins : Fields
  globals : Fields
  /-- The namespaces of the session. -/
  ambient : Fields := []
  host : Host

/-- An expression with its source text, its context and the kind of record that it is meant for. -/
structure Evaluator where
  expression : String
  context : ContextKind
  target : Option String
  body : Expr

namespace Evaluator

/-- The description of an evaluator. -/
def describe (e : Evaluator) : String :=
  "CompiledEvaluator(" ++ Text.quote e.expression ++ ", context=" ++ Text.quote e.context.name
    ++ ", target=" ++ (match e.target with | some t => Text.quote t | none => "None") ++ ")"

/-- The surroundings of an expression in a context for some data. Bindings of the call stand before
those of the session, and both before the data itself, which has a name too. -/
def surroundings (env : Environment) (context : ContextKind) (data : Value) (bindings : Fields) :
    Surroundings :=
  match context with
  | .object =>
    let names := bindings ++ env.ambient ++ [("record", data)]
    { text := "", subject := data, host := env.host
      scopes := [("record", data), (Frame.predicateLabel, .map env.builtins),
        ("bindings", .map names), ("globals", .map env.globals)] }
  | .text =>
    let text := data.textOrEmpty
    let names := bindings ++ env.ambient ++ [("text", .str text)]
    { text, subject := .map names, host := env.host
      scopes := [(Frame.predicateLabel, .map env.builtins), ("bindings", .map names),
        ("globals", .map env.globals)] }

/-- The outcome of an evaluator for some data. A failure is reported. -/
def run (e : Evaluator) (env : Environment) (data : Value) (bindings : Fields := []) :
    StateM Effects (Except Fault Value) := do
  let outcome ← (evaluateIn (surroundings env e.context data bindings) e.body).run
  match outcome with
  | .ok _ => return outcome
  | .error fault =>
    Eval.report (.evaluationFailed e.expression fault)
    return outcome

/-- The value of an evaluator for some data, false if there is none. -/
def call (e : Evaluator) (env : Environment) (data : Value) (bindings : Fields := []) :
    StateM Effects Value := do
  match ← e.run env data bindings with
  | .ok v => return v
  | .error _ => return .bool false

end Evaluator

end Trigger
