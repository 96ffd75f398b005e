import Trigger.Config.Schema
import Trigger.Engine

/-!
# Configurations

The settings of a project in five sections, each of which has a default for everything. All that is
wrong in one section is reported together.
-/

namespace Trigger

open Toml (Entries)

/-- The settings of the project. -/
structure ProjectSettings where
  projectName : String := "storyquery"

/-- The settings of the log. -/
structure LogSettings where
  level : String := "INFO"
  structuredJson : Bool := true

/-- The settings of engines. -/
structure EngineSettings where
  defaultContext : String := "text"
  defaultTarget : Option String := some "card"
  /-- The bound of the cache; zero stands for no bound. -/
  cacheBound : Int := 0
  logFailures : Bool := true

/-- The defaults of the predicates on texts. -/
structure MatchSettings where
  fuzzyThreshold : Float := 0.8
  nearReach : Int := 50

/-- The settings of records. -/
structure RecordSettings where
  titleField : String := "title"

/-- A configuration. -/
structure Config where
  project : ProjectSettings := {}
  log : LogSettings := {}
  engine : EngineSettings := {}
  matching : MatchSettings := {}
  records : RecordSettings := {}

/-- Why a table is no configuration. -/
inductive ConfigError where
  /-- A section is no table. -/
  | noSection (name : String)
  /-- Settings of a section are wrong. -/
  | invalid (name : String) (issues : List (String × Issue))

/-- The wording of an error. -/
def ConfigError.message : ConfigError → String
  | .noSection name => "Section " ++ name ++ " is no table"
  | .invalid name issues =>
    let listed := issues.map fun (setting, issue) => setting ++ " (" ++ issue.name ++ ")"
    "Wrong settings in section " ++ name ++ ": " ++ ", ".intercalate listed

/-- The schema of the section about the project. -/
def ProjectSettings.schema : Schema where
  settings := [⟨"project_name", .text, .text "storyquery", trivial⟩]

/-- The section about the project with the given values. -/
def ProjectSettings.ofValues (values : SettingValues) : ProjectSettings where
  projectName := values.text "project_name"

/-- The schema of the section about the log. -/
def LogSettings.schema : Schema where
  settings :=
    [⟨"level", .text, .text "INFO", trivial⟩,
     ⟨"structured_json", .boolean, .boolean true, trivial⟩]

/-- The section about the log with the given values. -/
def LogSettings.ofValues (values : SettingValues) : LogSettings where
  level := values.text "level"
  structuredJson := values.boolean "structured_json"

/-- The schema of the section about engines. -/
def EngineSettings.schema : Schema where
  settings :=
    [⟨"default_context", .choice ["text", "object"], .text "text", List.mem_cons_self⟩,
     ⟨"default_target", .optionalText, .text "card", trivial⟩,
     ⟨"cache_max_entries", .integer 0, .integer 0, Int.le_refl 0⟩,
     ⟨"log_failures", .boolean, .boolean true, trivial⟩]
  isClosed := true

/-- The section about engines with the given values. -/
def EngineSettings.ofValues (values : SettingValues) : EngineSettings where
  defaultContext := values.text "default_context"
  defaultTarget := values.text? "default_target"
  cacheBound := values.integer "cache_max_entries"
  logFailures := values.boolean "log_failures"

/-- The schema of the section about the predicates on texts. -/
def MatchSettings.schema : Schema where
  settings :=
    [⟨"fuzzy_threshold", .number 0.0 1.0, .number 0.8, ⟨by decide +kernel, by decide +kernel⟩⟩,
     ⟨"near_max_distance", .integer 0, .integer 50, Int.natCast_nonneg 50⟩]
  isClosed := true

/-- The section about the predicates on texts with the given values. -/
def MatchSettings.ofValues (values : SettingValues) : MatchSettings where
  fuzzyThreshold := values.number "fuzzy_threshold"
  nearReach := values.integer "near_max_distance"

/-- The schema of the section about records. -/
def RecordSettings.schema : Schema where
  settings := [⟨"title_field", .text, .text "title", trivial⟩]

/-- The section about records with the given values. -/
def RecordSettings.ofValues (values : SettingValues) : RecordSettings where
  titleField := values.text "title_field"

namespace Config

section

variable (library : SchemaLibrary)

/-- The values of the settings in a section of a table, which is empty if it is not there. -/
def sectionOf (entries : Entries) (name : String) (schema : Schema) :
    Except ConfigError SettingValues :=
  let check (inner : Entries) : Except ConfigError SettingValues :=
    match library.check schema inner with
    | .ok values => .ok values
    | .error issues => .error (.invalid name issues)
  match entries.lookup name with
  | none => check []
  | some (.table inner) => check inner
  | some _ => .error (.noSection name)

/-- The configuration that a table stands for. The first section with something wrong in it is
reported. -/
def ofEntries (entries : Entries) : Except ConfigError Config := do
  let project ← sectionOf library entries "env" ProjectSettings.schema
  let log ← sectionOf library entries "logging" LogSettings.schema
  let engine ← sectionOf library entries "engine" EngineSettings.schema
  let matching ← sectionOf library entries "builtins" MatchSettings.schema
  let records ← sectionOf library entries "records" RecordSettings.schema
  return {
    project := .ofValues project
    log := .ofValues log
    engine := .ofValues engine
    matching := .ofValues matching
    records := .ofValues records }

end

/-- The options of an engine by a configuration. -/
def engineOptions (c : Config) : EngineOptions :=
  { defaultContext := c.engine.defaultContext
    defaultTarget := c.engine.defaultTarget
    cacheBound := c.engine.cacheBound
    logFailures := c.engine.logFailures
    fuzzyThreshold := c.matching.fuzzyThreshold
    nearReach := .within c.matching.nearReach
    titleField := c.records.titleField }

end Config

end Trigger
