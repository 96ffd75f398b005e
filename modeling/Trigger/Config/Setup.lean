import Trigger.Config.Basic
import Trigger.Log.Logger

/-!
# Engines by configuration

A configuration sets up the logger of the project and an engine. Options that are given beside the
configuration take the place of its settings.
-/

namespace Trigger

/-- Why a configuration gives no engine. -/
inductive SetupError where
  | level (e : LevelError)
  | engine (e : EngineError)
deriving DecidableEq, Repr

/-- The wording of an error, where it has one of its own. -/
def SetupError.message? : SetupError → Option String
  | .level e => e.message?
  | .engine e => some e.message

/-- The engine for a configuration, with its options changed by `adapt`. -/
def Engine.ofConfig (c : Config) (adapt : EngineOptions → EngineOptions := id) :
    Except SetupError Engine :=
  match Logger.levelOf c.log.level with
  | .error e => .error (.level e)
  | .ok _ =>
    match Engine.ofOptions (adapt c.engineOptions) with
    | .error e => .error (.engine e)
    | .ok engine => .ok engine

end Trigger
