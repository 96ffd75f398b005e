import Trigger.Query
import Trigger.Scope
import Trigger.Value.Fields

/-!
# Frames

An expression is evaluated inside a frame: the surroundings, which are the same for a whole
evaluation, and the parameters of the arrow functions around it. Names are looked up in the
parameters first, innermost function first, and then in the scopes of the surroundings. A record
query that stands alone is tested on the subject of the frame, which has the same names.
-/

namespace Trigger

/-- What stays the same during an evaluation. -/
structure Surroundings extends Scene where
  host : Host

/-- The language and what arrow functions show of the scene. -/
def Surroundings.runtime (around : Surroundings) : Runtime where
  toLanguage := around.host.language
  scene := if around.host.showsScene then some around.toScene else none

/-- The surroundings and the parameters of the arrow functions around an expression, innermost
function first. -/
structure Frame where
  around : Surroundings
  locals : List Fields := []

namespace Frame

/-- The scope in which the predicates on texts are found. -/
def predicateLabel : String := "builtins"

/-- The language and what arrow functions show of the scene. -/
def runtime (f : Frame) : Runtime := f.around.runtime

/-- The scopes of a frame. -/
def scopes (f : Frame) : ScopeChain := (f.around.inside f.locals).scopes

/-- The record that queries are tested on. -/
def subject (f : Frame) : Value := (f.around.inside f.locals).subject

/-- The frame inside an arrow function with the given parameters. -/
def inside (f : Frame) (fields : Fields) : Frame := { f with locals := fields :: f.locals }

/-- Parameters with their arguments. Missing arguments are undefined, and superfluous ones are left
out. -/
def pair : List String → List Value → List (String × Value)
  | [], _ => []
  | p :: params, [] => (p, .undefined) :: pair params []
  | p :: params, v :: args => (p, v) :: pair params args

/-- The fields for the parameters of a function and its arguments. -/
def bind (params : List String) (args : List Value) : Fields := .ofList (pair params args)

/-- The value that an operand stands for: a query stands for its answer on the subject. -/
def settle (f : Frame) : Value → Eval Value
  | .query _ field op v => do return .bool (← f.subject.passes f.runtime field op v)
  | v => return v

end Frame

end Trigger
