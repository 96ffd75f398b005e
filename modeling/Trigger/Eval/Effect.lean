import Trigger.Event
import Trigger.Pattern.Cache
import Trigger.Records.Table
import Trigger.Value.Language

/-!
# What evaluations leave behind

An evaluation yields a value or fails, and either way leaves behind the patterns it has read, the
calls of the host's functions it has made, the events it has reported and the numbers it has given
to queries and arrow functions.
-/

namespace Trigger

/-- What evaluations have left behind so far. -/
structure Effects where
  patterns : PatternCache := {}
  /-- The calls of the host's functions with their arguments, latest first. -/
  calls : List (String × List Value) := []
  /-- The events, latest first. -/
  events : List Event := []
  /-- The next number for a query or an arrow function. -/
  nextId : Nat := 0

/-- A computation that can fail and has effects, which stay when it fails. -/
abbrev Eval (α : Type) : Type := ExceptT Fault (StateM Effects) α

namespace Eval

/-- A computation without effects. -/
def ofExcept {α : Type} : Except Fault α → Eval α
  | .ok a => pure a
  | .error e => throw e

/-- The outcome of a computation, so that a failure is not passed on. -/
def attempt {α : Type} (x : Eval α) : Eval (Except Fault α) := ExceptT.lift x.run

/-- Reports an event. -/
def report (e : Event) : StateM Effects Unit := modify fun s => { s with events := e :: s.events }

/-- A number that was not given before. -/
def freshId : Eval Nat := do
  let s ← getThe Effects
  set { s with nextId := s.nextId + 1 }
  return s.nextId

/-- The pattern for a text, and modes if they are given, from the cache if it is there. -/
def readPattern (source : String) (modes : Option String) : Eval Pattern := do
  let s ← getThe Effects
  let (p, patterns) := s.patterns.read source modes
  set { s with patterns }
  ofExcept (p.mapError .badPattern)

/-- The pattern of a term as a whole word. -/
def wholeWord (term : List Char) : Eval Pattern := do
  let s ← getThe Effects
  let (p, patterns) := s.patterns.wholeWord term
  set { s with patterns }
  return p

end Eval

/-- The functions that the host lends to expressions, by name. They do not depend on anything but
their arguments, and a failure has the kind it is reported under. -/
abbrev HostFunctions : Type := String → List Value → Except String Value

/-- The program around a session: the functions that it lends to expressions, the language that it is
written in, and its library for tables. -/
structure Host where
  functions : HostFunctions
  language : Language
  tables : TableLibrary
  /-- Whether arrow functions show the scene in which they are made. -/
  showsScene : Bool := true

/-- Calls a function of the host. -/
def Host.call (host : Host) (name : String) (args : List Value) : Eval Value := do
  modify fun s => { s with calls := (name, args) :: s.calls }
  match host.functions name args with
  | .ok v => return v
  | .error kind => throw (.hostFailure kind)

/-- Runs a function of the language. Functions that it calls are called by `apply`. -/
def Script.run (apply : Value → List Value → Eval Value) : Script → Eval Value
  | .done outcome => Eval.ofExcept outcome
  | .ask f args resume => do (resume (← apply f args)).run apply

end Trigger
