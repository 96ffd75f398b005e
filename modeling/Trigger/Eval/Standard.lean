import Trigger.Eval.Effect
import Trigger.Records.Standard
import Trigger.Value.Standard

/-!
# Programs in the standard language

A program in the standard language with the standard library for tables lends functions to
expressions.
-/

namespace Trigger

/-- A program in the standard language with the given functions. -/
def Host.standard (functions : HostFunctions) : Host where
  functions
  language := .standard
  tables := .standard

end Trigger
