import Trigger.Fault
import Trigger.Value.Basic

/-!
# The language of the host

Expressions meet values that are objects of the language in which the host is written: they can ask
for attributes of numbers, patterns and functions, call what they get, and compare objects. What the
language has and does is no matter of this library, so it is taken as it comes: a language is any
answer to these questions. That its comparisons do not depend on the order of two values is stated
apart, for the results that need it.

A function of the language may call functions that it is given. It is described by what it does next,
so that these calls are made by the evaluation itself.
-/

namespace Trigger

/-- Labelled scopes, the innermost first. -/
abbrev ScopeChain := List (String × Value)

/-- What stands around an expression: the current text, the scopes of its names, and the record that
its queries are tested on. -/
structure Scene where
  text : String
  scopes : ScopeChain
  subject : Value

namespace Scene

/-- A record with further fields in front of its own. A value that is no mapping is left out. -/
def overlay (fields : List (String × Value)) : Value → Value
  | .map entries => .map (fields ++ entries)
  | _ => .map fields

/-- The scene inside arrow functions with the given parameters, innermost function first. -/
def inside (s : Scene) (locals : List (List (String × Value))) : Scene where
  text := s.text
  scopes := locals.map (fun fields => ("locals", .map fields)) ++ s.scopes
  subject := locals.foldr overlay s.subject

/-- A scene as an object with its parts. -/
def toValue (s : Scene) : Value :=
  let chain : Value := .native ⟨"ScopeChain", "<scope chain at 0x0>", false⟩
    [("_scopes", .list .tuple (s.scopes.map fun (label, scope) => .list .tuple [.str label, scope]))]
  .native ⟨"_Frame", "<frame at 0x0>", false⟩
    [("scopes", chain), ("text", .str s.text), ("subject", s.subject)]

end Scene

/-- What a function of the language does: it gives a value or fails, or it calls a function first and
goes on with what that gives. -/
inductive Script where
  | done (outcome : Except Fault Value)
  | ask (f : Value) (args : List Value) (resume : Value → Script)

/-- What the language of the host has and does. -/
structure Language where
  /-- The attribute of a value with a name. -/
  attributeOf : Value → String → Option Value
  /-- What an object of the language does when it is called with arguments. -/
  call : Value → List Value → Script
  /-- Whether two values are one object. -/
  identical : Value → Value → Bool
  /-- Whether a number of a column type equals a value. -/
  boxedEquals : BoxedNumber → Value → Bool

/-- Comparison does not depend on which of two values comes first. -/
structure Language.Symmetric (language : Language) : Prop where
  identical_comm : ∀ v w, language.identical v w = language.identical w v
  boxedEquals_comm : ∀ a b : Boxed,
    language.boxedEquals a.number (.boxed b) = language.boxedEquals b.number (.boxed a)

/-- The language together with what arrow functions show of the scene in which they are made. -/
structure Runtime extends Language where
  scene : Option Scene

end Trigger
