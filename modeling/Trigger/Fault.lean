import Trigger.Pattern.Reader

/-!
# Failures of evaluation

Why an evaluation fails, and the name of the kind of failure under which it is reported.
-/

namespace Trigger

/-- Why an evaluation fails. -/
inductive Fault where
  /-- A name or member that is called is no function. -/
  | notAFunction (name : String)
  /-- A value that is called is no function. -/
  | notCallable
  /-- A function is called with too few or too many arguments. -/
  | wrongArguments
  /-- A list, a mapping or an object is used as a key. -/
  | unhashableKey
  /-- A record that is no mapping is asked for a field. -/
  | noFields
  /-- Something that is no number is used as one where that is not allowed. -/
  | notANumber
  /-- An integer is beyond the floating-point numbers. -/
  | integerTooLarge
  /-- An infinity has no integer next to it. -/
  | infiniteInteger
  /-- Not-a-number has no integer next to it. -/
  | undefinedInteger
  /-- A power is beyond the floating-point numbers. -/
  | powerTooLarge
  /-- Zero is raised to a negative power. -/
  | zeroToNegativePower
  /-- A text is no numeral. -/
  | badNumeral
  | badPattern (e : PatternError)
  | unknownArithmetic (operator : String)
  | unknownComparison (operator : String)
  /-- A function of the host fails, with a kind of its own. -/
  | hostFailure (kind : String)
  /-- Calls are nested too deeply. -/
  | tooDeep
  /-- A tree has a part without a meaning, for which it should have been refused. -/
  | unchecked
deriving DecidableEq, Repr

/-- The kind under which a failure is reported. -/
def Fault.kind : Fault → String
  | .notAFunction _ => "EvaluationError"
  | .notCallable => "TypeError"
  | .wrongArguments => "TypeError"
  | .unhashableKey => "TypeError"
  | .noFields => "AttributeError"
  | .notANumber => "TypeError"
  | .integerTooLarge => "OverflowError"
  | .infiniteInteger => "OverflowError"
  | .undefinedInteger => "ValueError"
  | .powerTooLarge => "OverflowError"
  | .zeroToNegativePower => "ZeroDivisionError"
  | .badNumeral => "ValueError"
  | .badPattern .malformed => "error"
  | .badPattern .repetitionTooLarge => "OverflowError"
  | .badPattern .contradictoryModes => "ValueError"
  | .unknownArithmetic _ => "ValueError"
  | .unknownComparison _ => "ValueError"
  | .hostFailure kind => kind
  | .tooDeep => "RecursionError"
  | .unchecked => "ValueError"

/-- The text of a failure, where it has one of its own. -/
def Fault.ownMessage? : Fault → Option String
  | .notAFunction name => some (name ++ " is not a function")
  | .unknownArithmetic op => some ("Unknown arithmetic operator " ++ Text.quote op)
  | .unknownComparison op => some ("Unknown comparison operator " ++ Text.quote op)
  | _ => none

/-- The short text under which a failure is reported: its own text, or else its kind. -/
def Fault.summary (f : Fault) : String := f.ownMessage?.getD f.kind

end Trigger
