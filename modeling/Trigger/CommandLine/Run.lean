import Trigger.CommandLine.Arguments
import Trigger.Config.Reader
import Trigger.Config.Setup
import Trigger.Json.Reader
import Trigger.Json.Writer
import Trigger.Records.Standard

/-!
# Runs of the command line

The command line evaluates one expression about a text or a record and prints the result as JSON, or
only tells whether the expression is valid. Files are given by their contents.
-/

namespace Trigger.CommandLine

/-- Files by their paths. -/
abbrev Files := List (String × List UInt8)

/-- Why a run breaks off. -/
inductive Failure where
  | config (e : ConfigFileError)
  | setup (e : SetupError)
  | noSuchFile
  | notUtf8

/-- The wording of a failure. -/
def Failure.message (args : Arguments) : Failure → String
  | .config (.noToml text) => ConfigFileError.noTomlMessage args.config text
  | .config (.config e) => e.message
  | .setup e => e.message?.getD "The level of the log is no level"
  | .noSuchFile => "No such file: " ++ args.textFile.getD ""
  | .notUtf8 => "No text in UTF-8: " ++ args.textFile.getD ""

/-- How a run ends. -/
inductive Outcome where
  /-- With an exit code, and what was printed. -/
  | exit (code : Nat) (printed : String)
  /-- With a message. -/
  | stop (message : String)
  | failure (f : Failure)

/-- A result as a line. An undefined result is written as null. -/
def resultLine (v : Value) : String :=
  let v := match v with
    | .undefined => .null
    | v => v
  String.ofList (Json.write .spaced v ++ ['\n'])

/-- The answer to whether an expression is valid, given what is wrong with it. -/
def verdict : Option String → Outcome
  | none => .exit 0 (resultLine (.map [("valid", .bool true)]))
  | some e => .exit 1 (resultLine (.map [("valid", .bool false), ("error", .str e)]))

/-- The engine for a run. A configuration that is not there is passed over. -/
def engineOf (library : SchemaLibrary) (files : Files) (args : Arguments) : Except Outcome Engine :=
  match files.lookup args.config with
  | none =>
    match Engine.ofOptions {} with
    | .ok engine => .ok engine
    | .error e => .error (.failure (.setup (.engine e)))
  | some bytes =>
    match Config.ofBytes library bytes with
    | .error e => .error (.failure (.config e))
    | .ok c =>
      match Engine.ofConfig c with
      | .error e => .error (.failure (.setup e))
      | .ok engine => .ok engine

/-- The value of an option that is written in JSON. -/
def jsonValue (name : String) (text : String) : Except Outcome Value :=
  match Json.read? text with
  | some v => .ok v
  | none => .error (.stop ("--" ++ name ++ ": not valid JSON"))

/-- The namespace for an option, if it is given and not null. -/
def binding (name : String) : Option String → Except Outcome Fields
  | none => .ok []
  | some text => do
    match ← jsonValue name text with
    | .null => return []
    | v => return [(name, v)]

/-- The text that an expression is about. -/
def textOf (files : Files) (args : Arguments) : Except Outcome String :=
  match args.textFile.filter (!·.isEmpty) with
  | none => .ok (args.text.getD "")
  | some path =>
    match files.lookup path with
    | none => .error (.failure .noSuchFile)
    | some bytes =>
      match Text.decode? bytes with
      | none => .error (.failure .notUtf8)
      | some s => .ok (String.ofList (Text.unifyLineEnds s))

/-- A host without functions. -/
def noHost (language : Language) : Host where
  functions _ _ := .error (Fault.kind .notCallable)
  language
  tables := .standard

section

variable (language : Language) (library : SchemaLibrary) (files : Files) (args : Arguments)

/-- What is to be done in a session to get the result. -/
def evaluation : Except Outcome (EngineM Value) :=
  match args.record with
  | some record => do
    let v ← jsonValue "record" record
    return Engine.evaluateObject (noHost language) args.expression v none []
  | none => do
    let text ← textOf files args
    return Engine.evaluateText (noHost language) args.expression (.str text) []

/-- The result of the expression in a session of an engine. -/
def result (engine : Engine) : Except Outcome Value := do
  let state ← binding "state" args.state
  let info ← binding "info" args.info
  let evaluate ← evaluation language files args
  let session : EngineM Value := do
    Engine.setBindings (state ++ info)
    evaluate
  return ((session.run engine).run {}).1.1

/-- The end of a run, or what keeps it from getting there. -/
def outcome : Except Outcome Outcome := do
  let engine ← engineOf library files args
  if args.check then
    let context := args.record.map fun _ => ContextKind.object.name
    return verdict (((Engine.validate args.expression context).run engine).run {}).1.1
  return .exit 0 (resultLine (← result language files args engine))

/-- How a run with arguments ends. -/
def runArguments : Outcome :=
  match outcome language library files args with
  | .ok o => o
  | .error o => o

end

/-- The paths of the files that a run with arguments reads. -/
def paths (args : Arguments) : List String := args.config :: args.textFile.toList

/-- How the command line is used. -/
def usage : String :=
  "usage: trigger [--text TEXT | --text-file PATH | --record JSON] [--state JSON] [--info JSON]\n"
    ++ "               [--config PATH] [--check] expression\n"

/-- The exit code of a command line that is refused. -/
def usageCode : UsageError → Nat
  | .misused => 2
  | .help => 0

/-- How a run with the words of a command line ends. -/
def run (language : Language) (library : SchemaLibrary) (files : Files) (words : List String) :
    Outcome :=
  match Arguments.ofWords words with
  | .error e => .exit (usageCode e) ""
  | .ok args => runArguments language library files args

end Trigger.CommandLine
