import Trigger.Value.Text

/-!
# Writing JSON

Values are written on one line of printable ASCII: every other character of a string is escaped, one
beyond the first plane of Unicode as a pair of surrogates. Besides finite numbers there are `NaN`,
`Infinity` and `-Infinity`. A value that JSON has no form for is written as a string that describes
it.
-/

namespace Trigger.Json

/-- What stands between the items of a list, and between a key and its value. -/
structure Style where
  comma : List Char
  colon : List Char

/-- The style of log lines. -/
def Style.compact : Style := ⟨[','], [':']⟩

/-- The style of results. -/
def Style.spaced : Style := ⟨[',', ' '], [':', ' ']⟩

/-- The escape for a unit of sixteen bits. -/
def escapeUnit (n : Nat) : List Char := '\\' :: 'u' :: Text.hexDigits 4 n

/-- A character as it stands in a string. -/
def writeChar (c : Char) : List Char :=
  if c = '"' ∨ c = '\\' then ['\\', c]
  else if ' ' ≤ c ∧ c ≤ '~' then [c]
  else if c = '\n' then ['\\', 'n']
  else if c = '\r' then ['\\', 'r']
  else if c = '\t' then ['\\', 't']
  else if c = '\x08' then ['\\', 'b']
  else if c = '\x0c' then ['\\', 'f']
  else if c.toNat < 0x10000 then escapeUnit c.toNat
  else
    let n := c.toNat - 0x10000
    escapeUnit (0xD800 + n / 0x400) ++ escapeUnit (0xDC00 + n % 0x400)

/-- A string in quotes. -/
def writeString (s : List Char) : List Char := '"' :: s.flatMap writeChar ++ ['"']

/-- A number. -/
def writeFloat (x : Float) : List Char :=
  if x.isNaN then "NaN".toList
  else if x.isInf then (if Decimal.isNegative x then "-Infinity" else "Infinity").toList
  else (Decimal.text x).toList

/-- A value that JSON has no form for. -/
def writeForeign (v : Value) : List Char := writeString v.shown.toList

mutual

/-- A value. -/
def write (style : Style) : Value → List Char
  | .null => "null".toList
  | .bool b => (if b then "true" else "false").toList
  | .int i => (toString i).toList
  | .float x => writeFloat x
  | .boxed ⟨.float64 x, _, _⟩ => writeFloat x
  | .str s => writeString s.toList
  | .list _ items => '[' :: writeItems style items ++ [']']
  | .map entries => '\x7b' :: writeEntries style entries ++ ['\x7d']
  | v => writeForeign v

/-- The items of a list. -/
def writeItems (style : Style) : List Value → List Char
  | [] => []
  | [v] => write style v
  | v :: rest => write style v ++ style.comma ++ writeItems style rest

/-- The entries of a mapping. -/
def writeEntries (style : Style) : List (String × Value) → List Char
  | [] => []
  | [(k, v)] => writeString k.toList ++ style.colon ++ write style v
  | (k, v) :: rest =>
    writeString k.toList ++ style.colon ++ write style v ++ style.comma ++ writeEntries style rest

end

end Trigger.Json
