import Trigger.Decimal.Numeral
import Trigger.Toml.Basic

/-!
# Reading TOML

A text is read into lines and the lines into a table. A carriage return counts only together with a
line feed, and the pair is as one line feed. No control characters stand in comments and strings
except the tab and, in strings of several lines, the line feed.

Each reader returns what is left of the text. Values are nested no more deeply than the text is
long, so its length bounds the depth.
-/

namespace Trigger.Toml

/-- The characters that separate the parts of a line. -/
def isBlank (c : Char) : Bool := c == ' ' || c == '\t'

/-- The control characters that stand in no string of one line and in no comment. -/
def isControl (c : Char) : Bool := (c < ' ' && c != '\t') || c == '\x7f'

/-- The characters of keys without quotes. -/
def isBare (c : Char) : Bool := c.isAlphanum || c == '-' || c == '_'

/-- A text without the blanks at its start. -/
def skipBlanks (s : List Char) : List Char := s.dropWhile isBlank

/-- A text with each carriage return in front of a line feed left out. -/
def unifyLines : List Char → List Char
  | [] => []
  | '\r' :: '\n' :: rest => '\n' :: unifyLines rest
  | c :: rest => c :: unifyLines rest

/-- What follows fixed characters at the start of a text. -/
def after? (word : List Char) (s : List Char) : Option (List Char) :=
  if word.isPrefixOf s then some (s.drop word.length) else none

/-- What follows a comment, if there is one at the start of a text. -/
def skipComment? (s : List Char) : Option (List Char) :=
  match s with
  | '#' :: rest =>
    if (rest.takeWhile (· ≠ '\n')).any isControl then none else some (rest.dropWhile (· ≠ '\n'))
  | s => some s

/-- What follows the blanks, line ends and comments at the start of a text. -/
def skipFiller? : Nat → List Char → Option (List Char)
  | 0, _ => none
  | fuel + 1, s =>
    match s.dropWhile fun c => isBlank c || c == '\n' with
    | '#' :: rest => do skipFiller? fuel (← skipComment? ('#' :: rest))
    | rest => some rest

/-! ## Strings -/

/-- A string between single quotes, from behind the first one. -/
def readLiteral? (s : List Char) : Option (List Char × List Char) :=
  match s.dropWhile (· ≠ '\'') with
  | [] => none
  | _ :: rest =>
    let inner := s.takeWhile (· ≠ '\'')
    if inner.any isControl then none else some (inner, rest)

/-- A string up to three single quotes. -/
def readLiteralLines? : List Char → Option (List Char × List Char)
  | [] => none
  | '\'' :: '\'' :: '\'' :: rest => some ([], rest)
  | c :: rest =>
    if isControl c && c != '\n' then none
    else (readLiteralLines? rest).map fun (inner, rest) => (c :: inner, rest)

/-- The value of hexadecimal digits. -/
def hexValue? : List Char → Option Nat
  | [] => some 0
  | c :: rest => do
    let d ←
      if c.isDigit then some (c.toNat - 48)
      else if 'a' ≤ c ∧ c ≤ 'f' then some (c.toNat - 87)
      else if 'A' ≤ c ∧ c ≤ 'F' then some (c.toNat - 55)
      else none
    return d * 16 ^ rest.length + (← hexValue? rest)

/-- The character for a code of so many hexadecimal digits at the start of a text. -/
def readCode? (width : Nat) (s : List Char) : Option (List Char × List Char) := do
  let digits := s.take width
  if digits.length ≠ width then none
  let n ← hexValue? digits
  if n.isValidChar then some ([Char.ofNat n], s.drop width) else none

/-- What an escape stands for, from behind the backslash. In a string of several lines, a backslash
at the end of a line leads over all white space that follows. -/
def readEscape? (lines : Bool) (s : List Char) : Option (List Char × List Char) :=
  match s with
  | [] => none
  | c :: rest =>
    if lines && (isBlank c || c == '\n') then
      match skipBlanks s with
      | [] => some ([], [])
      | '\n' :: rest => some ([], rest.dropWhile fun c => isBlank c || c == '\n')
      | _ => none
    else match c with
    | 'b' => some (['\x08'], rest)
    | 't' => some (['\t'], rest)
    | 'n' => some (['\n'], rest)
    | 'f' => some (['\x0c'], rest)
    | 'r' => some (['\r'], rest)
    | '"' => some (['"'], rest)
    | '\\' => some (['\\'], rest)
    | 'u' => readCode? 4 rest
    | 'U' => readCode? 8 rest
    | _ => none

/-- A string between double quotes, from behind the first one or three. -/
def readBasic? (lines : Bool) : Nat → List Char → Option (List Char × List Char)
  | 0, _ => none
  | fuel + 1, s =>
    match s with
    | [] => none
    | '"' :: rest =>
      if !lines then some ([], rest)
      else match after? ['"', '"'] rest with
      | some rest => some ([], rest)
      | none => (readBasic? lines fuel rest).map fun (inner, rest) => ('"' :: inner, rest)
    | '\\' :: rest => do
      let (c, rest) ← readEscape? lines rest
      let (inner, rest) ← readBasic? lines fuel rest
      return (c ++ inner, rest)
    | c :: rest =>
      if isControl c && !(lines && c == '\n') then none
      else (readBasic? lines fuel rest).map fun (inner, rest) => (c :: inner, rest)

/-- A text without a line feed at its start. -/
def skipLineFeed : List Char → List Char
  | '\n' :: rest => rest
  | s => s

/-- A string of several lines with up to two quotes more at its end, which belong to it. -/
def moreQuotes (quote : Char) (read : List Char × List Char) : List Char × List Char :=
  let (inner, rest) := read
  let extra := (rest.take 2).takeWhile (· == quote)
  (inner ++ extra, rest.drop extra.length)

/-- The string at the start of a text, of one line or of several. -/
def readString? (s : List Char) : Option (List Char × List Char) :=
  match s with
  | '"' :: '"' :: '"' :: rest =>
    (readBasic? true (s.length + 1) (skipLineFeed rest)).map (moreQuotes '"')
  | '"' :: rest => readBasic? false (s.length + 1) rest
  | '\'' :: '\'' :: '\'' :: rest => (readLiteralLines? (skipLineFeed rest)).map (moreQuotes '\'')
  | '\'' :: rest => readLiteral? rest
  | _ => none

/-! ## Keys -/

/-- The part of a key at the start of a text. -/
def readKeyPart? (s : List Char) : Option (String × List Char) :=
  match s with
  | '"' :: rest =>
    (readBasic? false (s.length + 1) rest).map fun (inner, rest) => (String.ofList inner, rest)
  | '\'' :: rest => (readLiteral? rest).map fun (inner, rest) => (String.ofList inner, rest)
  | s =>
    if (s.takeWhile isBare).isEmpty then none
    else some (String.ofList (s.takeWhile isBare), s.dropWhile isBare)

/-- The key at the start of a text, with blanks after it. -/
def readKey? : Nat → List Char → Option (Key × List Char)
  | 0, _ => none
  | fuel + 1, s => do
    let (part, rest) ← readKeyPart? s
    match skipBlanks rest with
    | '.' :: rest =>
      let (key, rest) ← readKey? fuel (skipBlanks rest)
      return (part :: key, rest)
    | rest => return ([part], rest)

/-! ## Numbers and dates -/

/-- The digits at the start of a text; a single underscore can stand between two of them. -/
def readDigits (isDigit : Char → Bool) : List Char → List Char × List Char
  | [] => ([], [])
  | '_' :: c :: rest =>
    if isDigit c then
      let (ds, rest) := readDigits isDigit rest
      (c :: ds, rest)
    else ([], '_' :: c :: rest)
  | c :: rest =>
    if isDigit c then
      let (ds, rest) := readDigits isDigit rest
      (c :: ds, rest)
    else ([], c :: rest)

/-- The digits at the start of a text, of which there must be one. -/
def readDigits? (isDigit : Char → Bool) (s : List Char) : Option (List Char × List Char) :=
  match s with
  | c :: _ => if isDigit c then some (readDigits isDigit s) else none
  | [] => none

/-- The characters of a hexadecimal number. -/
def isHexDigit (c : Char) : Bool :=
  c.isDigit || ('a' ≤ c && c ≤ 'f') || ('A' ≤ c && c ≤ 'F')

/-- An integer in another base, from behind the zero. -/
def readBased? (s : List Char) : Option (TomlValue × List Char) :=
  let read (base : Nat) (isDigit : Char → Bool) (s : List Char) :
      Option (TomlValue × List Char) := do
    let (ds, rest) ← readDigits? isDigit s
    let n := ds.foldl (fun n c => n * base + ((hexValue? [c]).getD 0)) 0
    return (.int n, rest)
  match s with
  | 'x' :: rest => read 16 isHexDigit rest
  | 'o' :: rest => read 8 (fun c => '0' ≤ c && c ≤ '7') rest
  | 'b' :: rest => read 2 (fun c => c == '0' || c == '1') rest
  | _ => none

/-- The digits before the point. There are no zeros in front of others. -/
def readWhole? : List Char → Option (List Char × List Char)
  | '0' :: rest => some (['0'], rest)
  | s => readDigits? Char.isDigit s

/-- The fraction at the start of a text; empty if there is none. -/
def readFraction (s : List Char) : List Char × List Char :=
  match s with
  | '.' :: rest => (readDigits? Char.isDigit rest).getD ([], s)
  | _ => ([], s)

/-- The exponent at the start of a text, if there is one. -/
def readExponent (s : List Char) : Option Int × List Char :=
  match s with
  | e :: rest =>
    let (negative, rest) := Decimal.sign rest
    match (if e = 'e' ∨ e = 'E' then readDigits? Char.isDigit rest else none) with
    | some (ds, rest) =>
      let n : Int := Decimal.ofDigits ds
      (some (if negative then -n else n), rest)
    | none => (none, s)
  | [] => (none, s)

/-- A decimal number. It is an integer unless it has a fraction or an exponent. -/
def readDecimal? (s : List Char) : Option (TomlValue × List Char) := do
  let (negative, rest) := Decimal.sign s
  let (whole, rest) ← readWhole? rest
  let (fraction, rest) := readFraction rest
  let (exponent, rest) := readExponent rest
  if fraction.isEmpty && exponent.isNone then
    let n : Int := Decimal.ofDigits whole
    return (.int (if negative then -n else n), rest)
  else
    let x := Decimal.ofParts whole fraction (exponent.getD 0)
    return (.float (if negative then -x else x), rest)

/-- The number at the start of a text. -/
def readNumber? (s : List Char) : Option (TomlValue × List Char) :=
  match s with
  | '0' :: rest => (readBased? rest).or (readDecimal? s)
  | s => readDecimal? s

/-- A number of so many digits within bounds. -/
def readField? (width low high : Nat) (s : List Char) : Option (Nat × List Char) :=
  let digits := s.take width
  let n := Decimal.ofDigits digits
  if digits.length = width ∧ digits.all Char.isDigit ∧ low ≤ n ∧ n ≤ high then
    some (n, s.drop width)
  else none

/-- The number of days of a month. -/
def daysIn (year month : Nat) : Nat :=
  if month = 2 then
    if year % 4 = 0 ∧ (year % 100 ≠ 0 ∨ year % 400 = 0) then 29 else 28
  else if month = 4 ∨ month = 6 ∨ month = 9 ∨ month = 11 then 30
  else 31

/-- What follows a date. -/
def afterDate? (s : List Char) : Option (List Char) := do
  let (year, rest) ← readField? 4 1 9999 s
  let (month, rest) ← readField? 2 1 12 (← after? ['-'] rest)
  let (_, rest) ← readField? 2 1 (daysIn year month) (← after? ['-'] rest)
  return rest

/-- What follows a time of day. -/
def afterTime? (s : List Char) : Option (List Char) := do
  let (_, rest) ← readField? 2 0 23 s
  let (_, rest) ← readField? 2 0 59 (← after? [':'] rest)
  let (_, rest) ← readField? 2 0 59 (← after? [':'] rest)
  match rest with
  | '.' :: c :: more => if c.isDigit then return more.dropWhile Char.isDigit else return rest
  | rest => return rest

/-- What follows the distance of a time from universal time. -/
def afterOffset? (s : List Char) : Option (List Char) :=
  match s with
  | c :: rest =>
    if c = 'Z' ∨ c = 'z' then some rest
    else if c = '+' ∨ c = '-' then do
      let (_, rest) ← readField? 2 0 23 rest
      let (_, rest) ← readField? 2 0 59 (← after? [':'] rest)
      return rest
    else none
  | [] => none

/-- What follows a date, with a time of day if there is one. -/
def afterDateTime? (s : List Char) : Option (List Char) := do
  let rest ← afterDate? s
  let time := match rest with
    | c :: rest => if c = 'T' ∨ c = 't' ∨ c = ' ' then afterTime? rest else none
    | [] => none
  match time with
  | some rest => return (afterOffset? rest).getD rest
  | none => return rest

/-- The date, the time or both at the start of a text. -/
def readMoment? (s : List Char) : Option (TomlValue × List Char) := do
  let rest ← (afterDateTime? s).or (afterTime? s)
  return (.moment (String.ofList (s.take (s.length - rest.length))), rest)

/-! ## Values and lines -/

/-- The words that stand for values. -/
def words : List (String × TomlValue) :=
  [("true", .bool true), ("false", .bool false), ("inf", .float Decimal.infinity),
   ("+inf", .float Decimal.infinity), ("-inf", .float (-Decimal.infinity)),
   ("nan", .float Decimal.nan), ("+nan", .float Decimal.nan), ("-nan", .float Decimal.nan)]

/-- The value of a word at the start of a text. -/
def readWord? (s : List Char) : Option (TomlValue × List Char) :=
  words.findSome? fun (word, v) => (after? word.toList s).map (v, ·)

mutual

/-- The value at the start of a text. -/
def readValue? : Nat → List Char → Option (TomlValue × List Char)
  | 0, _ => none
  | fuel + 1, s =>
    match s with
    | '[' :: rest => do
      match ← skipFiller? (rest.length + 1) rest with
      | ']' :: rest => return (.array [], rest)
      | rest =>
        let (items, rest) ← readItems? fuel rest
        return (.array items, rest)
    | '\x7b' :: rest =>
      match skipBlanks rest with
      | '\x7d' :: rest => some (.table [], rest)
      | rest => do
        let (pairs, rest) ← readPairs? fuel rest
        return (.table (← inlineTable? pairs), rest)
    | c :: _ =>
      if c = '"' ∨ c = '\'' then
        (readString? s).map fun (inner, rest) => (.str (String.ofList inner), rest)
      else (readWord? s).or ((readMoment? s).or (readNumber? s))
    | [] => none

/-- The items of an array up to its closing bracket. -/
def readItems? : Nat → List Char → Option (List TomlValue × List Char)
  | 0, _ => none
  | fuel + 1, s => do
    let (v, rest) ← readValue? fuel s
    match ← skipFiller? (rest.length + 1) rest with
    | ']' :: rest => return ([v], rest)
    | ',' :: rest =>
      match ← skipFiller? (rest.length + 1) rest with
      | ']' :: rest => return ([v], rest)
      | rest =>
        let (items, rest) ← readItems? fuel rest
        return (v :: items, rest)
    | _ => none

/-- The entries of an inline table up to its closing brace. -/
def readPairs? : Nat → List Char → Option (List (Key × TomlValue) × List Char)
  | 0, _ => none
  | fuel + 1, s => do
    let (key, rest) ← readKey? (s.length + 1) s
    let (v, rest) ← readValue? fuel (skipBlanks (← after? ['='] rest))
    match skipBlanks rest with
    | '\x7d' :: rest => return ([(key, v)], rest)
    | ',' :: rest =>
      let (pairs, rest) ← readPairs? fuel (skipBlanks rest)
      return ((key, v) :: pairs, rest)
    | _ => none

end

/-- A header from behind its opening brackets. -/
def readHeader? (closing : List Char) (s : List Char) : Option (Key × List Char) := do
  let (key, rest) ← readKey? (s.length + 1) (skipBlanks s)
  return (key, ← after? closing rest)

/-- What a line says, if it says anything, and the rest of the text. -/
def readLine? (s : List Char) : Option (List Line × List Char) :=
  match s with
  | [] => some ([], [])
  | '\n' :: _ => some ([], s)
  | '#' :: _ => some ([], s)
  | '[' :: '[' :: rest => (readHeader? [']', ']'] rest).map fun (key, rest) => ([.item key], rest)
  | '[' :: rest => (readHeader? [']'] rest).map fun (key, rest) => ([.table key], rest)
  | s => do
    let (key, rest) ← readKey? (s.length + 1) s
    let (v, rest) ← readValue? (s.length + 1) (skipBlanks (← after? ['='] rest))
    return ([.value key v], rest)

/-- The lines of a text. -/
def readLines? : Nat → List Char → Option (List Line)
  | 0, _ => none
  | fuel + 1, s => do
    let (line, rest) ← readLine? (skipBlanks s)
    match ← skipComment? (skipBlanks rest) with
    | [] => return line
    | '\n' :: rest => return line ++ (← readLines? fuel rest)
    | _ => none

/-- The table that a text stands for. -/
def read? (text : List Char) : Option Entries := do
  let s := unifyLines text
  Document.ofLines? (← readLines? (s.length + 1) s)

end Trigger.Toml
