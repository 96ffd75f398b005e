import Trigger.Value.Member

/-!
# Scopes

Names are looked up in a row of labelled scopes, and the first scope that has the name decides. A
mapping has the names that are its keys, whatever their values are; any other value has the names
of its members that are not undefined.
-/

namespace Trigger

namespace ScopeChain

/-- The scopes with a new innermost one. -/
def push (label : String) (scope : Value) (chain : ScopeChain) : ScopeChain := (label, scope) :: chain

/-- The labels of the scopes. -/
def labels (chain : ScopeChain) : List String := chain.map (·.1)

section

variable (rt : Runtime)

/-- The value of a name in one scope. -/
def lookupIn (name : String) : Value → Option Value
  | .map entries => entries.lookup name
  | scope =>
    match scope.property rt name with
    | .undefined => none
    | v => some v

/-- The value of a name and the label of the scope that has it. -/
def resolve (name : String) : ScopeChain → Option (Value × String)
  | [] => none
  | (label, scope) :: rest =>
    match lookupIn rt name scope with
    | some v => some (v, label)
    | none => resolve name rest

/-- The value of a name, undefined if no scope has it. -/
def valueOf (name : String) (chain : ScopeChain) : Value :=
  ((chain.resolve rt name).map (·.1)).getD .undefined

end

end ScopeChain

end Trigger
