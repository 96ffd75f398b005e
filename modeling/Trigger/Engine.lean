import Trigger.Cache
import Trigger.Compile
import Trigger.Story

/-!
# Engines

An engine compiles and evaluates expressions for one session. It has a cache of evaluators, the
functions and globals that expressions can use, and the namespaces of the session, which can be
changed at any time and are looked up when an evaluator runs.

Invalid expressions never stop a session: they have no evaluator, and their value is null.
-/

namespace Trigger

/-- The settings of an engine before they are checked. -/
structure EngineOptions where
  bindings : Fields := []
  /-- The functions on texts; the predicates of this library if none are given. -/
  builtins : Option Fields := none
  globals : Option Fields := none
  defaultContext : String := "text"
  defaultTarget : Option String := some "card"
  fuzzyThreshold : Float := 0.8
  nearReach : Reach := .within 50
  cacheBound : Int := 0
  logFailures : Bool := true
  titleField : String := "title"

/-- What an evaluator is kept under. -/
structure CacheKey where
  expression : String
  context : ContextKind
  target : Option String
deriving DecidableEq, Repr

/-- An evaluator with the number of the compilation that made it. -/
structure Compiled where
  serial : Nat
  evaluator : Evaluator

/-- A session. -/
structure Engine where
  builtins : Fields
  globals : Fields
  /-- The namespaces of the session. -/
  bindings : Fields
  defaultContext : ContextKind
  defaultTarget : Option String
  logFailures : Bool
  /-- The field that is the title of a record. -/
  titleField : String
  cache : Cache CacheKey Compiled

/-- Why there is no engine. -/
inductive EngineError where
  | unknownContext (name : String)
  | negativeBound
deriving DecidableEq, Repr

/-- The wording of an error. -/
def EngineError.message : EngineError → String
  | .unknownContext name => (CompileError.unknownContext name).message
  | .negativeBound => "max_entries must be >= 0"

/-- An empty cache with a bound, which must not be negative. -/
def boundedCache {κ α : Type} (bound : Int) : Except EngineError (Cache κ α) :=
  if bound < 0 then .error .negativeBound else .ok { bound := bound.toNat }

/-- An engine with the given settings. -/
def Engine.ofOptions (o : EngineOptions) : Except EngineError Engine := do
  match ContextKind.ofName? o.defaultContext with
  | none => throw (.unknownContext o.defaultContext)
  | some defaultContext =>
    let cache ← boundedCache o.cacheBound
    let settings : BuiltinSettings :=
      { fuzzyThreshold := o.fuzzyThreshold, nearReach := o.nearReach }
    return {
      builtins := o.builtins.getD (Builtin.entries settings)
      globals := o.globals.getD GlobalFunction.entries
      bindings := o.bindings
      defaultContext
      defaultTarget := o.defaultTarget
      logFailures := o.logFailures
      titleField := o.titleField
      cache }

/-- A computation in a session, which never fails. -/
abbrev EngineM : Type → Type := StateT Engine (StateM Effects)

namespace Engine

/-- A text that was given and is not empty, or else a default. -/
def givenOr {α : Type} (default : α) (wrap : String → α) : Option String → α
  | none => default
  | some s => if s.isEmpty then default else wrap s

/-- What expressions can use in this engine now. -/
def environment (e : Engine) (host : Host) : Environment :=
  { builtins := e.builtins, globals := e.globals, ambient := e.bindings, host }

/-- The name of the context that is meant. -/
def contextName (e : Engine) (context : Option String) : String :=
  givenOr e.defaultContext.name id context

/-- The evaluator for an expression in a context that is known. Here as in what follows, compiling
may nest so many calls if that is limited. -/
def compileIn (expression : String) (context : ContextKind) (target : Option String)
    (room : Option Nat := none) : EngineM (Except CompileError Compiled) := do
  let e ← get
  let make (key : CacheKey) : Except CompileError Compiled := do
    return ⟨e.cache.counts.compiles, ← Evaluator.ofText key.expression key.context key.target room⟩
  let (outcome, cache) := e.cache.getOrMake ⟨expression, context, target⟩ make
  set { e with cache }
  return outcome

/-- The evaluator for an expression. -/
def compile (expression : String) (context target : Option String) (room : Option Nat := none) :
    EngineM (Except CompileError Compiled) := do
  let name := (← get).contextName context
  match ContextKind.ofName? name with
  | some kind => compileIn expression kind target room
  | none => return .error (.unknownContext name)

/-- The evaluator for an expression if there is one. Where there is none, that is reported. -/
def parse (expression : String) (context target : Option String) (room : Option Nat := none) :
    EngineM (Option Compiled) := do
  match ← compile expression context target room with
  | .ok c => return some c
  | .error error =>
    let e ← get
    if e.logFailures then
      Eval.report (.expressionInvalid expression (e.contextName context) error.message)
    return none

/-- The evaluator for an expression about a text. -/
def parseText (expression : String) (room : Option Nat := none) : EngineM (Option Compiled) :=
  parse expression (some ContextKind.text.name) none room

/-- The evaluator for an expression about a record of some kind. -/
def parseObject (expression : String) (target : Option String) (room : Option Nat := none) :
    EngineM (Option Compiled) := do
  parse expression (some ContextKind.object.name) (givenOr (← get).defaultTarget some target) room

/-- What is wrong with an expression, if anything is. -/
def validate (expression : String) (context : Option String) (room : Option Nat := none) :
    EngineM (Option String) := do
  match ← compile expression context none room with
  | .ok _ => return none
  | .error e => return some e.message

section

variable (host : Host)

/-- The value of an evaluator of this engine. -/
def callEvaluator (e : Evaluator) (data : Value) (bindings : Fields) : EngineM Value := do
  e.call ((← get).environment host) data bindings

/-- The outcome of an evaluator of this engine. -/
def runEvaluator (e : Evaluator) (data : Value) (bindings : Fields) :
    EngineM (Except Fault Value) := do
  e.run ((← get).environment host) data bindings

/-- The value of an evaluator, null if there is none. -/
def callOrNull (c : Option Compiled) (data : Value) (bindings : Fields) : EngineM Value :=
  match c with
  | some c => callEvaluator host c.evaluator data bindings
  | none => return .null

/-- The value of an expression about a text. -/
def evaluateText (expression : String) (data : Value) (bindings : Fields)
    (room : Option Nat := none) : EngineM Value := do
  callOrNull host (← parseText expression room) data bindings

/-- The value of an expression about a record. -/
def evaluateObject (expression : String) (data : Value) (target : Option String)
    (bindings : Fields) (room : Option Nat := none) : EngineM Value := do
  callOrNull host (← parseObject expression target room) data bindings

/-- The value of an expression about some data: a string or null is a text, and all else is a
record. -/
def evaluate (expression : String) (data : Value) (bindings : Fields) (room : Option Nat := none) :
    EngineM Value :=
  match data with
  | .null => evaluateText host expression data bindings room
  | .str _ => evaluateText host expression data bindings room
  | _ => evaluateObject host expression data none bindings room

/-- The value of an expression about the recent story in a full context. -/
def evaluateStory (expression : String) (context : String) (bindings : Fields)
    (room : Option Nat := none) : EngineM Value :=
  let story := String.ofList (Story.recent context.toList)
  evaluateText host expression (.str story) bindings room

end

/-- Adds namespaces to the session, or replaces those with the same names. -/
def setBindings (bindings : Fields) : EngineM Unit :=
  modify fun e => { e with bindings := e.bindings.update bindings }

/-- Replaces all namespaces of the session. -/
def replaceBindings (bindings : Fields) : EngineM Unit :=
  modify fun e => { e with bindings := bindings }

/-- Empties the cache, and tells how many evaluators were in it. -/
def clearCache : EngineM Nat := do
  let e ← get
  let (n, cache) := e.cache.clear
  set { e with cache }
  Eval.report (.cacheCleared n)
  return n

end Engine

end Trigger
