import Trigger.Log.Basic
import Trigger.Text.Case

/-!
# Loggers

A logger is set up once under its name; asking for it again changes nothing. It writes the records
that reach its level, as JSON objects or as plain lines. A logger whose level is zero has that of
the nearest logger above it, where names with points lie below the names they start with.
-/

namespace Trigger

/-- A logger. -/
structure Logger where
  name : String
  level : Int
  json : Bool
deriving DecidableEq, Repr

/-- Why a logger cannot be set up. -/
inductive LevelError where
  /-- The name stands for a text that is no level. -/
  | unknownLevel (text : String)
  /-- The name stands for something else. -/
  | noLevel
deriving DecidableEq, Repr

/-- The wording of an error, where it has one of its own. -/
def LevelError.message? : LevelError → Option String
  | .unknownLevel text => some ("Unknown level: " ++ Text.quote text)
  | .noLevel => none

/-- What a logger writes for a message. -/
inductive Written where
  | nothing
  | fields (fields : Fields)
  | plain (line : String)

/-- A further field has a name that all records have. -/
inductive ReservedField where
  | reservedField
deriving DecidableEq, Repr

namespace Logger

/-- The levels with their names. -/
def levels : List (String × Int) :=
  [("CRITICAL", 50), ("FATAL", 50), ("ERROR", 40), ("WARNING", 30), ("WARN", 30), ("INFO", 20),
   ("DEBUG", 10), ("NOTSET", 0)]

/-- The level with a name, in any case. Names of no level stand for that of information, but two
names stand for other things, which are refused. -/
def levelOf (name : String) : Except LevelError Int :=
  let name := String.ofList (Text.upper name.toList)
  if name = "BASIC_FORMAT" then .error (.unknownLevel "%(levelname)s:%(name)s:%(message)s")
  else if name = "_STYLES" then .error .noLevel
  else .ok ((levels.lookup name).getD 20)

/-- The name of a level. -/
def levelName (level : Int) : String :=
  match levels.find? (·.2 = level) with
  | some (name, _) => name
  | none => "Level " ++ toString level

/-- The level from which records are written where no logger has one. -/
def rootLevel : Int := 30

/-- How closely a logger stands above a name: by the length of its own name if it does. -/
def above? (name : String) (l : Logger) : Option Nat :=
  if (l.name ++ ".").toList.isPrefixOf name.toList then some l.name.length else none

/-- The level from which a logger writes records, given all loggers. -/
def effectiveLevel (all : List Logger) (l : Logger) : Int :=
  if l.level ≠ 0 then l.level
  else
    let above := all.filterMap fun o => (above? l.name o).map (·, o.level)
    let nearest := above.foldl (fun (best : Option (Nat × Int)) (n, level) =>
      if level ≠ 0 && (best.map (·.1)).getD 0 ≤ n then some (n, level) else best) none
    (nearest.map (·.2)).getD rootLevel

/-- The number of the logger with a name, and all loggers, of which it may be a new one. -/
def setUp (all : List Logger) (name level : String) (json : Bool) :
    Except LevelError (Nat × List Logger) :=
  match all.findIdx? (·.name = name) with
  | some i => .ok (i, all)
  | none => do return (all.length, all ++ [⟨name, ← levelOf level, json⟩])

/-- A plain line without its time. -/
def plainLine (level name message : String) : String := level ++ " " ++ name ++ ": " ++ message ++ "\n"

/-- What a logger writes for a message with further fields at a level, given all loggers: the
fields of a JSON object, a plain line without its time, or nothing if the level is too low. There is
no record if a further field has a name that all records have. -/
def write (zone : TimeZone) (all : List Logger) (l : Logger) (level : Int) (message : String)
    (extra : Fields) : Except ReservedField Written :=
  let record : LogRecord := { level := levelName level, name := l.name, template := message, extra }
  if level < l.effectiveLevel all then .ok .nothing
  else if record.clashes then .error .reservedField
  else if l.json then
    .ok (.fields (Fields.update (record.standardFields zone message) record.furtherFields))
  else .ok (.plain (plainLine record.level l.name message))

end Logger

end Trigger
