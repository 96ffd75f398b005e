import Trigger.Records.Find

/-!
# Sessions

A session is an engine with what evaluations have left behind and the evaluators that were kept. It
goes on by operations, each of which has an answer. The answers of an operation leave out by which
number a compilation is known, and how large the cache was when it was emptied.
-/

namespace Trigger

/-- An engine in use. -/
structure Session where
  engine : Engine
  effects : Effects
  /-- The evaluators that were kept, latest first. -/
  saved : List Evaluator := []

/-- What is done in a session. -/
inductive Operation where
  | compile (expression : String) (context target : Option String)
  | parse (expression : String) (context target : Option String)
  | validate (expression : String) (context : Option String)
  | evaluate (expression : String) (data : Value) (bindings : Fields)
  | evaluateText (expression : String) (data : Value) (bindings : Fields)
  | evaluateObject (expression : String) (data : Value) (target : Option String)
      (bindings : Fields)
  | evaluateStory (expression context : String) (bindings : Fields)
  | find (query : String) (source : RecordSource) (first : Bool) (target titleField : Option String)
  /-- Runs a kept evaluator. -/
  | run (index : Nat) (data : Value) (bindings : Fields)
  | setBindings (bindings : Fields)
  | replaceBindings (bindings : Fields)
  | clearCache

/-- What an operation answers. -/
inductive Answer where
  | compiled (outcome : Except CompileError Evaluator)
  | parsed (evaluator : Option Evaluator)
  | message (text : Option String)
  | value (v : Value)
  | found (outcome : Except RecordQueryError (Except Fault FoundRecords))
  | ran (outcome : Option (Except Fault Value))
  | done

/-- Whether an operation empties the cache. -/
def Operation.isClear : Operation → Bool
  | .clearCache => true
  | _ => false

section

variable (host : Host)

/-- The outcome of a kept evaluator, if there are so many. -/
def runSaved (saved : List Evaluator) (index : Nat) (data : Value) (bindings : Fields) :
    EngineM (Option (Except Fault Value)) :=
  match saved[index]? with
  | none => return none
  | some e => return some (← Engine.runEvaluator host e data bindings)

/-- The answer of an operation, and the evaluator that is kept if there is one. -/
def Operation.execute (saved : List Evaluator) : Operation → EngineM (Answer × Option Evaluator)
  | .compile expression context target => do
    let outcome := (← Engine.compile expression context target).map (·.evaluator)
    return (.compiled outcome, outcome.toOption)
  | .parse expression context target => do
    let evaluator := (← Engine.parse expression context target).map (·.evaluator)
    return (.parsed evaluator, evaluator)
  | .validate expression context => do
    return (.message (← Engine.validate expression context), none)
  | .evaluate expression data bindings => do
    return (.value (← Engine.evaluate host expression data bindings), none)
  | .evaluateText expression data bindings => do
    return (.value (← Engine.evaluateText host expression data bindings), none)
  | .evaluateObject expression data target bindings => do
    return (.value (← Engine.evaluateObject host expression data target bindings), none)
  | .evaluateStory expression context bindings => do
    return (.value (← Engine.evaluateStory host expression context bindings), none)
  | .find query source first target titleField => do
    return (.found (← findRecords host (.text query) source first target titleField), none)
  | .run index data bindings => do
    return (.ran (← runSaved host saved index data bindings), none)
  | .setBindings bindings => do
    Engine.setBindings bindings
    return (.done, none)
  | .replaceBindings bindings => do
    Engine.replaceBindings bindings
    return (.done, none)
  | .clearCache => do
    discard Engine.clearCache
    return (.done, none)

namespace Session

/-- The answer of an operation, and the session after it. -/
def perform (s : Session) (op : Operation) : Answer × Session :=
  let (((answer, kept), engine), effects) := ((op.execute host s.saved).run s.engine).run s.effects
  (answer, { engine, effects, saved := kept.toList ++ s.saved })

/-- The session after operations. -/
def after (s : Session) : List Operation → Session
  | [] => s
  | op :: ops => after (s.perform host op).2 ops

/-- The answers of operations one after the other, without those of clearing the cache. -/
def answers (s : Session) : List Operation → List Answer
  | [] => []
  | op :: ops =>
    let (answer, next) := s.perform host op
    if op.isClear then answers next ops else answer :: answers next ops

end Session

end

end Trigger
