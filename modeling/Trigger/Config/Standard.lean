import Trigger.Config.Schema
import Trigger.Decimal.Numeral
import Trigger.Text.Search
import Trigger.Text.Space

/-!
# The standard schema library

A setting is read from a value of another type where that loses nothing: an integer from a truth
value, an integral number or a numeral, and so on. All that is wrong in a section is reported
together, and settings that a closed section does not have come last.
-/

namespace Trigger.SchemaLibrary

open Toml (TomlValue Entries)

/-- A text. -/
def text : TomlValue → Except Issue String
  | .str s => .ok s
  | _ => .error .notText

/-- One of some texts. -/
def choice (names : List String) : TomlValue → Except Issue String
  | .str s => if s ∈ names then .ok s else .error .notAChoice
  | _ => .error .notAChoice

/-- The words for truth values, in any case. -/
def booleanWords : List (String × Bool) :=
  [("0", false), ("f", false), ("n", false), ("no", false), ("off", false), ("false", false),
   ("1", true), ("t", true), ("y", true), ("on", true), ("yes", true), ("true", true)]

/-- The integer that a number is, if it is one and not too large. -/
def integral (x : Float) : Except Issue Int :=
  if !x.isFinite then .error .notFinite
  else if !Decimal.isIntegral x then .error .notIntegral
  else if x.abs < 9223372036854775808.0 then .ok (Decimal.truncate x)
  else .error .numeralTooLong

/-- A truth value. -/
def boolean : TomlValue → Except Issue Bool
  | .bool b => .ok b
  | .str s => (booleanWords.lookup s.toLower).elim (.error .noBooleanWord) .ok
  | .int i =>
    if i = 0 then .ok false
    else if i = 1 then .ok true
    else if -Nat.pow 2 63 ≤ i ∧ i < Nat.pow 2 63 then .error .noBooleanWord
    else .error .notBoolean
  | .float x =>
    match integral x with
    | .ok i => if i = 0 then .ok false else if i = 1 then .ok true else .error .noBooleanWord
    | .error _ => .error .notBoolean
  | _ => .error .notBoolean

/-- Digits without the single underscores between them. -/
def plainDigits? (s : List Char) : Option (List Char) :=
  let parts := Text.cut ['_'] s
  if parts.any (·.isEmpty) || !s.all (fun c => c.isDigit || c == '_') then none else some parts.flatten

/-- The integer that a numeral stands for. It may have zeros behind a point. -/
def numeral? (s : List Char) : Option Int := do
  let (negative, s) := Decimal.sign s
  let zeros := (s.dropWhile (· ≠ '.')).drop 1
  if !zeros.all (· == '0') then none
  let ds ← plainDigits? (s.takeWhile (· ≠ '.'))
  let n : Int := Decimal.ofDigits ds
  return if negative then -n else n

/-- An integer. -/
def integer : TomlValue → Except Issue Int
  | .int i => .ok i
  | .bool b => .ok (if b then 1 else 0)
  | .str s => (numeral? (Text.trim s.toList)).elim (.error .noIntegerNumeral) .ok
  | .float x => integral x
  | _ => .error .notInteger

/-- The words for numbers that no digits stand for, in any case. -/
def specialNumbers : List (String × Float) :=
  [("inf", Decimal.infinity), ("infinity", Decimal.infinity), ("nan", Decimal.nan)]

/-- The number that a numeral or a word stands for. -/
def number? (s : List Char) : Option Float :=
  let (negative, rest) := Decimal.sign s
  let special := (specialNumbers.lookup (String.ofList rest).toLower).map fun x =>
    if negative then -x else x
  let digits := if (Text.cut ['_'] s).any (·.isEmpty) then s else s.filter (· ≠ '_')
  special.or (if digits.all (·.val < 128) then Decimal.ofText? digits else none)

/-- A number. -/
def number : TomlValue → Except Issue Float
  | .float x => .ok x
  | .int i => (Decimal.ofInt? i).elim (.error .notANumber) .ok
  | .bool b => .ok (if b then 1.0 else 0.0)
  | .str s => (number? (Text.trim s.toList)).elim (.error .noNumeral) .ok
  | _ => .error .notANumber

/-- An integer that is not too small. -/
def integerFrom (least : Int) (v : TomlValue) : Except Issue Int := do
  let i ← integer v
  if least ≤ i then return i else throw .tooSmall

/-- A number within bounds, in which what is not a number never is. -/
def numberWithin (least greatest : Float) (v : TomlValue) : Except Issue Float := do
  let x ← number v
  if x ≤ greatest then
    if least ≤ x then return x else throw .tooSmall
  else throw .tooLarge

/-- A value of a type. -/
def valueOf (type : SettingType) (v : TomlValue) : Except Issue SettingValue :=
  match type with
  | .text => (text v).map .text
  | .optionalText => (text v).map .text
  | .boolean => (boolean v).map .boolean
  | .integer least => (integerFrom least v).map .integer
  | .number least greatest => (numberWithin least greatest v).map .number
  | .choice names => (choice names v).map .text

/-- The value of a setting, or its default if it is not given. -/
def settingOf (entries : Entries) (s : Setting) : Except Issue SettingValue :=
  match entries.lookup s.name with
  | none => .ok s.default
  | some v => valueOf s.type v

/-- What is wrong with a setting. -/
def issueOf (entries : Entries) (s : Setting) : Option (String × Issue) :=
  match settingOf entries s with
  | .ok _ => none
  | .error issue => some (s.name, issue)

/-- The settings that a section does not have. -/
def unknown (names : List String) (entries : Entries) : List (String × Issue) :=
  (entries.filter fun (k, _) => !names.contains k).map fun (k, _) => (k, .unknownSetting)

/-- All that is wrong with a section. -/
def issues (schema : Schema) (entries : Entries) : List (String × Issue) :=
  schema.settings.filterMap (issueOf entries)
    ++ if schema.isClosed then unknown (schema.settings.map (·.name)) entries else []

/-- The values of the settings that have one. -/
def valuesOf (entries : Entries) : List Setting → SettingValues
  | [] => []
  | s :: rest =>
    match settingOf entries s with
    | .ok v => (s.name, v) :: valuesOf entries rest
    | .error _ => valuesOf entries rest

/-- The standard schema library. -/
def standard : SchemaLibrary where
  check schema entries :=
    match issues schema entries with
    | [] => .ok (valuesOf entries schema.settings)
    | issues => .error issues

end Trigger.SchemaLibrary
