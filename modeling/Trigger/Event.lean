import Trigger.Fault

/-!
# Events

What is reported on the way: failures that do not stop an evaluation, evaluations that fail, texts
that are no expressions, and the clearing of a cache.
-/

namespace Trigger

/-- Something that is reported. -/
inductive Event where
  /-- A text that was to be searched for is no pattern. -/
  | invalidPattern (pattern : String)
  /-- A record query could not be decided and counts as false. -/
  | predicateFailed (field : String)
  | evaluationFailed (expression : String) (fault : Fault)
  | expressionInvalid (expression context error : String)
  | cacheCleared (entries : Nat)

/-- How grave an event is. -/
inductive Severity where
  | debug
  | warning
deriving DecidableEq, Repr

/-- The name of a severity. -/
def Severity.name : Severity → String
  | .debug => "DEBUG"
  | .warning => "WARNING"

namespace Event

/-- How grave an event is. -/
def severity : Event → Severity
  | .expressionInvalid .. => .warning
  | _ => .debug

/-- The wording of an event. -/
def message : Event → String
  | .invalidPattern _ => "invalid regex"
  | .predicateFailed _ => "query predicate failed"
  | .evaluationFailed .. => "evaluation failed"
  | .expressionInvalid .. => "expression invalid"
  | .cacheCleared _ => "expression cache cleared"

end Event

end Trigger
