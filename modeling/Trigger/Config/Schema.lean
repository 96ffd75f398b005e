import Trigger.Toml.Basic

/-!
# Schemas

A schema says which settings a section of a configuration has, of which types they are, and what they
are where they are not given. Sections are checked against schemas by a library, which is taken as it
comes. What is relied on is only that a section which is accepted has its default for each setting
that is not given, and for each other one a value that its type allows.
-/

namespace Trigger

open Toml (TomlValue Entries)

/-- What is wrong with a setting. -/
inductive Issue where
  | notText
  | notAChoice
  | notBoolean
  | noBooleanWord
  | notInteger
  | noIntegerNumeral
  | notIntegral
  | notFinite
  | numeralTooLong
  | notANumber
  | noNumeral
  | tooSmall
  | tooLarge
  | unknownSetting
deriving DecidableEq, Repr

/-- The name under which an issue is reported. -/
def Issue.name : Issue → String
  | .notText => "string_type"
  | .notAChoice => "literal_error"
  | .notBoolean => "bool_type"
  | .noBooleanWord => "bool_parsing"
  | .notInteger => "int_type"
  | .noIntegerNumeral => "int_parsing"
  | .notIntegral => "int_from_float"
  | .notFinite => "finite_number"
  | .numeralTooLong => "int_parsing_size"
  | .notANumber => "float_type"
  | .noNumeral => "float_parsing"
  | .tooSmall => "greater_than_equal"
  | .tooLarge => "less_than_equal"
  | .unknownSetting => "extra_forbidden"

/-- The type of a setting, with the bounds of its values. -/
inductive SettingType where
  | text
  /-- A text or nothing. -/
  | optionalText
  | boolean
  | integer (least : Int)
  | number (least greatest : Float)
  /-- One of some texts. -/
  | choice (names : List String)

/-- The value of a setting. -/
inductive SettingValue where
  | nothing
  | text (s : String)
  | boolean (b : Bool)
  | integer (i : Int)
  | number (x : Float)

/-- Whether a value is one of a type and within its bounds. -/
def SettingType.Allows : SettingType → SettingValue → Prop
  | .text, .text _ => True
  | .optionalText, .text _ => True
  | .optionalText, .nothing => True
  | .boolean, .boolean _ => True
  | .integer least, .integer i => least ≤ i
  | .number least greatest, .number x => least ≤ x ∧ x ≤ greatest
  | .choice names, .text s => s ∈ names
  | _, _ => False

/-- A setting of a section. -/
structure Setting where
  name : String
  type : SettingType
  default : SettingValue
  allows_default : type.Allows default

/-- The settings of a section, no two of which have one name, and whether it must not have any
others. -/
structure Schema where
  settings : List Setting
  isClosed : Bool := false
  distinct : (settings.map (·.name)).Nodup := by decide

/-- The values of the settings of a section by their names. -/
abbrev SettingValues := List (String × SettingValue)

/-- A library that checks sections against schemas. It gives the values of all settings or what is
wrong with them. -/
structure SchemaLibrary where
  check : Schema → Entries → Except (List (String × Issue)) SettingValues

/-- What is relied on of a library that checks sections. -/
structure SchemaLibrary.Lawful (library : SchemaLibrary) : Prop where
  /-- A setting that is not given has its default. -/
  default_of_absent : ∀ {schema : Schema} {entries : Entries} {values : SettingValues},
    library.check schema entries = .ok values → ∀ s ∈ schema.settings,
      entries.lookup s.name = none → values.lookup s.name = some s.default
  /-- A setting that is given has a value that its type allows. -/
  allows_of_given : ∀ {schema : Schema} {entries : Entries} {values : SettingValues},
    library.check schema entries = .ok values → ∀ s ∈ schema.settings,
      entries.lookup s.name ≠ none → ∃ v, values.lookup s.name = some v ∧ s.type.Allows v

namespace SettingValues

variable (values : SettingValues) (name : String)

/-- The text that a setting is. -/
def text : String :=
  match values.lookup name with
  | some (.text s) => s
  | _ => ""

/-- The text that a setting is, if it is not nothing. -/
def text? : Option String :=
  match values.lookup name with
  | some (.text s) => some s
  | _ => none

/-- The truth value that a setting is. -/
def boolean : Bool :=
  match values.lookup name with
  | some (.boolean b) => b
  | _ => false

/-- The integer that a setting is. -/
def integer : Int :=
  match values.lookup name with
  | some (.integer i) => i
  | _ => 0

/-- The number that a setting is. -/
def number : Float :=
  match values.lookup name with
  | some (.number x) => x
  | _ => 0.0

end SettingValues

end Trigger
