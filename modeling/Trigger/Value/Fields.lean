import Trigger.Value.Basic

/-!
# Fields

The entries of a mapping in the order in which their keys were first set. Setting a key that is
there already replaces its value and keeps its place.
-/

namespace Trigger

/-- Entries of a mapping. -/
abbrev Fields := List (String × Value)

namespace Fields

/-- The entries with the value of one key set. -/
def set (key : String) (v : Value) : Fields → Fields
  | [] => [(key, v)]
  | (k, w) :: rest => if k = key then (k, v) :: rest else (k, w) :: set key v rest

/-- The entries with the values of others set, one after the other. -/
def update (fields others : Fields) : Fields := others.foldl (fun fs (k, v) => set k v fs) fields

/-- The entries for a row of keys and values, of which the last one for a key counts. -/
def ofList (pairs : List (String × Value)) : Fields := update [] pairs

end Fields

end Trigger
