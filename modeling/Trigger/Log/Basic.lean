import Trigger.Json.Writer
import Trigger.Log.Template
import Trigger.Log.Time
import Trigger.Value.Fields

/-!
# Log records

A record has a level, the name of its logger, a message and a time, and further fields. As a line
it is a JSON object in which the four come first. Fields with the names of the attributes that all
records have are left out; any other field is set after the four, so one that is called `level` or
`time` takes their place.
-/

namespace Trigger

/-- A record of the log. -/
structure LogRecord where
  level : String
  name : String
  template : String
  args : List Value := []
  /-- Seconds since the start of 1970. -/
  created : Int := 0
  /-- The kind of a failure and what it was raised with. -/
  failure : Option (String × List Value) := none
  /-- The lines that tell where the failure was raised. -/
  traceback : String := ""
  extra : Fields := []

namespace LogRecord

/-- The attributes that all records have. -/
def attributeNames : List String :=
  ["name", "msg", "args", "levelname", "levelno", "pathname", "filename", "module", "exc_info",
   "exc_text", "stack_info", "lineno", "funcName", "created", "msecs", "relativeCreated", "thread",
   "threadName", "processName", "process", "message", "asctime", "taskName"]

/-- Whether a further field has the name of an attribute. A logger makes no such record. -/
def clashes (r : LogRecord) : Bool :=
  r.extra.any fun (k, _) => attributeNames.contains k && k ≠ "taskName"

/-- What a failure says. A key that was not found is described rather than written out. -/
def failureMessage (kind : String) : List Value → String
  | [] => ""
  | [v] => if kind = "KeyError" then v.shown else v.plainText
  | args => (Value.list .tuple args).shown

/-- The line for a failure. -/
def failureText (kind : String) (args : List Value) : String :=
  let message := failureMessage kind args
  if message.isEmpty then kind else kind ++ ": " ++ message

/-- The message of a record. -/
def message (r : LogRecord) : Except TemplateError String := fillTemplate r.template r.args

section

variable (zone : TimeZone)

/-- The fields that every record has, and that of its failure. -/
def standardFields (r : LogRecord) (message : String) : Fields :=
  [("level", .str r.level), ("name", .str r.name), ("message", .str message),
   ("time", .str (Moment.inZone zone r.created).text)]
    ++ match r.failure with
      | some (kind, args) => [("exc_info", .str (r.traceback ++ failureText kind args))]
      | none => []

/-- The further fields that are written. -/
def furtherFields (r : LogRecord) : Fields := r.extra.filter fun (k, _) => !attributeNames.contains k

/-- The fields of a record in the order in which they are written. -/
def payload (r : LogRecord) : Except TemplateError Fields := do
  return Fields.update (r.standardFields zone (← r.message)) r.furtherFields

/-- A record as a line. -/
def line (r : LogRecord) : Except TemplateError (List Char) := do
  return Json.write .compact (.map (← r.payload zone))

end

end LogRecord

end Trigger
