import Trigger.Decimal.Shortest
import Trigger.Text.Search
import Trigger.Value.Basic

/-!
# Values as texts

A value has two texts. `toText` is what text operators see: strings stand for themselves, the
items of a list are separated by commas with nothing for a null or undefined one, and an integral
number below 10^21 is written without a point. `shown` describes a value unambiguously, with
strings in quotes, and is what a mapping looks like where a text is wanted.

The text of a function says which function it is, except that arrow functions look all the same.
-/

namespace Trigger

namespace Value

/-- The text of a function with a name. -/
def functionText (name : String) : String := "<function " ++ name ++ " at 0x0>"

/-- The text of an arrow function. It has no name, and its number is not shown. -/
def arrowText : String := "<arrow function at 0x0>"

/-- The description of a tuple of described items. A single item is followed by a comma. -/
def tupleShown : List String → String
  | [s] => "(" ++ s ++ ",)"
  | items => "(" ++ ", ".intercalate items ++ ")"

mutual

/-- The unambiguous description of a value. -/
def shown : Value → String
  | .null => "None"
  | .undefined => "undefined"
  | .bool b => if b then "True" else "False"
  | .int i => toString i
  | .float x => Decimal.text x
  | .str s => Text.quote s
  | .list .list items => "[" ++ ", ".intercalate (shownAll items) ++ "]"
  | .list .tuple items => tupleShown (shownAll items)
  | .map entries => "\x7b" ++ ", ".intercalate (shownEntries entries) ++ "\x7d"
  | .object attributes => "namespace(" ++ ", ".intercalate (shownAttributes attributes) ++ ")"
  | .boxed b => b.shown
  | .pattern p => p.describe
  | .native kind _ => kind.shown
  | .query _ field operator value =>
    "QueryPredicate(" ++ Text.quote field ++ ", " ++ Text.quote operator.name ++ ", "
      ++ shown value ++ ")"
  | .builtin f _ => functionText f.name
  | .global f => functionText f.name
  | .host name => functionText ("host " ++ name)
  | .arrow .. => arrowText

/-- The descriptions of values. -/
def shownAll : List Value → List String
  | [] => []
  | v :: rest => shown v :: shownAll rest

/-- The descriptions of the entries of a mapping. -/
def shownEntries : List (String × Value) → List String
  | [] => []
  | (k, v) :: rest => (Text.quote k ++ ": " ++ shown v) :: shownEntries rest

/-- The descriptions of the attributes of an object. -/
def shownAttributes : List (String × Value) → List String
  | [] => []
  | (k, v) :: rest => (k ++ "=" ++ shown v) :: shownAttributes rest

end

/-- The text of a value on its own: a string stands for itself, and everything else is described. -/
def plainText : Value → String
  | .str s => s
  | .boxed b => b.text
  | v => shown v

/-- The text of a number: an integral one below 10^21 has no point. -/
def numberText (x : Float) : String :=
  if x.isNaN then "NaN"
  else if x.isInf then (if Decimal.isNegative x then "-Infinity" else "Infinity")
  else if Decimal.isIntegral x && x.abs < 1e21 then toString (Decimal.truncate x)
  else Decimal.text x

/-- The text of a value that is no list. -/
def scalarText (v : Value) : String :=
  match v.unbox with
  | .null => "null"
  | .undefined => "undefined"
  | .bool b => if b then "true" else "false"
  | .float x => numberText x
  | .str s => s
  | v => shown v

mutual

/-- The text of a value. -/
def toText : Value → String
  | .list _ items => String.ofList (Text.join [','] (itemTexts items))
  | v => scalarText v

/-- The texts of the items of a list; a null or undefined item has none. -/
def itemTexts : List Value → List (List Char)
  | [] => []
  | v :: rest => (if v.isNullish then [] else (toText v).toList) :: itemTexts rest

end

/-- The text of a value, where null and undefined have none. -/
def textOrEmpty (v : Value) : String := if v.isNullish then "" else toText v

end Value

end Trigger
