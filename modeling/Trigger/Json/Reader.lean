import Trigger.Decimal.Numeral
import Trigger.Value.Fields

/-!
# Reading JSON

A text is read as one value with white space around it. `NaN` and the infinities are read too. Of
several values for one key the last one counts. A pair of surrogates is read as one character, and
a surrogate that stands alone as the replacement character.

Each reader returns what is left of the text. Values are nested no more deeply than the text is
long, so its length bounds the depth.
-/

namespace Trigger.Json

/-- White space between tokens. -/
def isBlank (c : Char) : Bool := c == ' ' || c == '\t' || c == '\n' || c == '\r'

/-- A text without the white space at its start. -/
def skipBlanks (s : List Char) : List Char := s.dropWhile isBlank

/-- What follows fixed characters at the start of a text. -/
def after? (word : String) (s : List Char) : Option (List Char) :=
  if word.toList.isPrefixOf s then some (s.drop word.length) else none

/-- The value of a hexadecimal digit. -/
def hexValue? (c : Char) : Option Nat :=
  if '0' ≤ c ∧ c ≤ '9' then some (c.toNat - 48)
  else if 'a' ≤ c ∧ c ≤ 'f' then some (c.toNat - 87)
  else if 'A' ≤ c ∧ c ≤ 'F' then some (c.toNat - 55)
  else none

/-- The unit of sixteen bits that four hexadecimal digits stand for. -/
def readUnit? : List Char → Option (Nat × List Char)
  | a :: b :: c :: d :: rest => do
    return ((((← hexValue? a) * 16 + (← hexValue? b)) * 16 + (← hexValue? c)) * 16
      + (← hexValue? d), rest)
  | _ => none

/-- The character for a unit, or the replacement character for a surrogate. -/
def charOfUnit (n : Nat) : Char := if n.isValidChar then Char.ofNat n else '\uFFFD'

/-- The character after an escape `\u`. -/
def readEscapedUnit? (s : List Char) : Option (Char × List Char) := do
  let (high, rest) ← readUnit? s
  if 0xD800 ≤ high ∧ high < 0xDC00 then
    match rest with
    | '\\' :: 'u' :: more =>
      let (low, after) ← readUnit? more
      if 0xDC00 ≤ low ∧ low < 0xE000 then
        return (Char.ofNat (0x10000 + (high - 0xD800) * 0x400 + (low - 0xDC00)), after)
      else return (charOfUnit high, rest)
    | _ => return (charOfUnit high, rest)
  else return (charOfUnit high, rest)

/-- The character that a letter after a backslash stands for. -/
def unescape? : Char → Option Char
  | '"' => some '"'
  | '\\' => some '\\'
  | '/' => some '/'
  | 'b' => some '\x08'
  | 'f' => some '\x0c'
  | 'n' => some '\n'
  | 'r' => some '\r'
  | 't' => some '\t'
  | _ => none

/-- The characters of a string up to its closing quote. -/
def readString? : Nat → List Char → Option (List Char × List Char)
  | 0, _ => none
  | fuel + 1, s =>
    match s with
    | [] => none
    | '"' :: rest => some ([], rest)
    | '\\' :: 'u' :: rest => do
      let (c, rest) ← readEscapedUnit? rest
      let (more, rest) ← readString? fuel rest
      return (c :: more, rest)
    | '\\' :: e :: rest => do
      let c ← unescape? e
      let (more, rest) ← readString? fuel rest
      return (c :: more, rest)
    | c :: rest =>
      if c < ' ' then none
      else do
        let (more, rest) ← readString? fuel rest
        return (c :: more, rest)

/-- The digits at the start of a text, if there are any. -/
def digits? (s : List Char) : Option (List Char × List Char) :=
  if (s.takeWhile Char.isDigit).isEmpty then none
  else some (s.takeWhile Char.isDigit, s.dropWhile Char.isDigit)

/-- The digits before the point. A number does not start with a zero unless that is all. -/
def wholePart? : List Char → Option (List Char × List Char)
  | '0' :: rest => some (['0'], rest)
  | s => digits? s

/-- The fraction at the start of a text; empty if there is none. -/
def fractionPart (s : List Char) : List Char × List Char :=
  match s with
  | '.' :: rest => (digits? rest).getD ([], s)
  | _ => ([], s)

/-- The exponent at the start of a text, if there is one. -/
def exponentPart (s : List Char) : Option Int × List Char :=
  match s with
  | e :: rest =>
    if e = 'e' ∨ e = 'E' then
      let (negative, rest) := Decimal.sign rest
      match digits? rest with
      | some (ds, rest) =>
        let n : Int := Decimal.ofDigits ds
        (some (if negative then -n else n), rest)
      | none => (none, s)
    else (none, s)
  | [] => (none, s)

/-- The number at the start of a text. It is an integer unless it has a fraction or an exponent. -/
def readNumber? (s : List Char) : Option (Value × List Char) := do
  let (negative, digits) := match s with
    | '-' :: rest => (true, rest)
    | rest => (false, rest)
  let (whole, rest) ← wholePart? digits
  let (fraction, rest) := fractionPart rest
  let (exponent, rest) := exponentPart rest
  if fraction.isEmpty && exponent.isNone then
    let n : Int := Decimal.ofDigits whole
    return (.int (if negative then -n else n), rest)
  else
    let x := Decimal.ofParts whole fraction (exponent.getD 0)
    return (.float (if negative then -x else x), rest)

/-- The words that stand for values. -/
def words : List (String × Value) :=
  [("null", .null), ("true", .bool true), ("false", .bool false), ("NaN", .float Decimal.nan),
   ("Infinity", .float Decimal.infinity), ("-Infinity", .float (-Decimal.infinity))]

/-- The value of a word at the start of a text. -/
def readWord? (s : List Char) : Option (Value × List Char) :=
  words.findSome? fun (word, v) => (after? word s).map (v, ·)

mutual

/-- The value at the start of a text. -/
def readValue? : Nat → List Char → Option (Value × List Char)
  | 0, _ => none
  | fuel + 1, s =>
    match s with
    | '"' :: rest => do
      let (t, rest) ← readString? (rest.length + 1) rest
      return (.str (String.ofList t), rest)
    | '[' :: rest =>
      match skipBlanks rest with
      | ']' :: rest => some (.ofList [], rest)
      | rest => do
        let (items, rest) ← readItems? fuel rest
        return (.ofList items, rest)
    | '\x7b' :: rest =>
      match skipBlanks rest with
      | '\x7d' :: rest => some (.map [], rest)
      | rest => do
        let (entries, rest) ← readEntries? fuel rest
        return (.map (Fields.ofList entries), rest)
    | s => (readWord? s).or (readNumber? s)

/-- The items of a list up to its closing bracket. -/
def readItems? : Nat → List Char → Option (List Value × List Char)
  | 0, _ => none
  | fuel + 1, s => do
    let (v, rest) ← readValue? fuel s
    match skipBlanks rest with
    | ',' :: rest =>
      let (more, rest) ← readItems? fuel (skipBlanks rest)
      return (v :: more, rest)
    | ']' :: rest => return ([v], rest)
    | _ => none

/-- The entries of a mapping up to its closing brace. -/
def readEntries? : Nat → List Char → Option (List (String × Value) × List Char)
  | 0, _ => none
  | fuel + 1, s => do
    let '"' :: rest := s | none
    let (k, rest) ← readString? (rest.length + 1) rest
    let ':' :: rest := skipBlanks rest | none
    let (v, rest) ← readValue? fuel (skipBlanks rest)
    match skipBlanks rest with
    | ',' :: rest =>
      let (more, rest) ← readEntries? fuel (skipBlanks rest)
      return ((String.ofList k, v) :: more, rest)
    | '\x7d' :: rest => return ([(String.ofList k, v)], rest)
    | _ => none

end

/-- The value that a text stands for. -/
def read? (text : String) : Option Value := do
  let s := skipBlanks text.toList
  let (v, rest) ← readValue? (s.length + 1) s
  if (skipBlanks rest).isEmpty then some v else none

end Trigger.Json
