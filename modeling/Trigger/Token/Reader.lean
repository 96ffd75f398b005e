import Trigger.Decimal.Numeral
import Trigger.Text.Space
import Trigger.Token.Basic

/-!
# Reading tokens

A text is read into tokens from the left. White space separates tokens and is dropped, and the
longest operator is read first. A pattern between tildes stands for a call of `regex` with the
pattern and its modes, all of whose tokens have the position of the first tilde.

Each reader for the inside of a token says how many characters it takes, so that the rest is
always a proper end of the text.
-/

namespace Trigger

open Text (isSpace)

/-- Why a text has no tokens. -/
inductive LexCause where
  | unexpectedCharacter (c : Char)
  | unterminatedString
  | unterminatedPattern
deriving DecidableEq, Repr

/-- The wording of a cause. -/
def LexCause.message : LexCause → String
  | .unexpectedCharacter c => "Unexpected character " ++ Text.quote (String.singleton c)
  | .unterminatedString => "Unterminated string literal"
  | .unterminatedPattern => "Unterminated regex literal"

/-- A cause and the position at which it was met. -/
structure LexError where
  cause : LexCause
  position : Nat
deriving DecidableEq, Repr

namespace Lexeme

/-- The digits of numbers in expressions, which are those of ASCII. -/
def isDigit (c : Char) : Bool := '0' ≤ c && c ≤ '9'

/-- The characters that a name can start with. -/
def startsName (c : Char) : Bool :=
  c == '_' || c == '$' || ('a' ≤ c && c ≤ 'z') || ('A' ≤ c && c ≤ 'Z')

/-- The characters that a name can go on with. -/
def continuesName (c : Char) : Bool := startsName c || isDigit c

/-- The letters that can follow a pattern between tildes. -/
def isMode (c : Char) : Bool := "gimsuvy".toList.contains c

/-- The character that an escaped one stands for in a string. -/
def unescape : Char → Char
  | 'n' => '\n'
  | 'r' => '\r'
  | 't' => '\t'
  | c => c

/-- The characters of a string up to its closing quote, and how many of the text that takes. -/
def readString (quote : Char) : List Char → Option (List Char × Nat)
  | [] => none
  | c :: rest =>
    if c = '\\' then
      match rest with
      | [] => none
      | d :: rest => (readString quote rest).map fun (s, n) => (unescape d :: s, n + 2)
    else if c = quote then some ([], 1)
    else (readString quote rest).map fun (s, n) => (c :: s, n + 1)

/-- The characters of a pattern up to its closing tilde, and how many of the text that takes. An
escaped tilde stands for itself, and all other escapes are left to the pattern. -/
def readPattern : List Char → Option (List Char × Nat)
  | [] => none
  | c :: rest =>
    if c = '~' then some ([], 1)
    else if c = '\\' then
      match rest with
      | [] => none
      | d :: rest =>
        (readPattern rest).map fun (s, n) => (if d = '~' then d :: s else c :: d :: s, n + 2)
    else (readPattern rest).map fun (s, n) => (c :: s, n + 1)

/-- The number at the start of a text, and how many characters it takes. A point belongs to it only
if a digit follows. -/
def readNumber (s : List Char) : Constant × Nat :=
  let whole := s.takeWhile isDigit
  match s.dropWhile isDigit with
  | '.' :: c :: rest =>
    if isDigit c then
      let fraction := (c :: rest).takeWhile isDigit
      (.float (Decimal.ofParts whole fraction 0), whole.length + 1 + fraction.length)
    else (.int (Decimal.ofDigits whole), whole.length)
  | _ => (.int (Decimal.ofDigits whole), whole.length)

/-- The operator of three or two characters at the start of a text. -/
def longOperator? : List Char → Option (Lexeme × Nat)
  | '=' :: '=' :: '=' :: _ => some (.operator .strictEq, 3)
  | '!' :: '=' :: '=' :: _ => some (.operator .strictNe, 3)
  | '&' :: '&' :: _ => some (.and, 2)
  | '|' :: '|' :: _ => some (.or, 2)
  | '=' :: '=' :: _ => some (.operator .looseEq, 2)
  | '!' :: '=' :: _ => some (.operator .looseNe, 2)
  | '<' :: '=' :: _ => some (.operator .le, 2)
  | '>' :: '=' :: _ => some (.operator .ge, 2)
  | '=' :: '>' :: _ => some (.doubleArrow, 2)
  | _ => none

/-- The lexeme of one character. A single equals sign is loose equality. -/
def ofChar? : Char → Option Lexeme
  | '+' => some (.operator .add)
  | '-' => some (.operator .sub)
  | '*' => some (.operator .mul)
  | '/' => some (.operator .div)
  | '%' => some (.operator .rem)
  | '<' => some (.operator .lt)
  | '>' => some (.operator .gt)
  | '=' => some (.operator .looseEq)
  | '!' => some .not
  | '(' => some .openRound
  | ')' => some .closeRound
  | '[' => some .openSquare
  | ']' => some .closeSquare
  | '.' => some .dot
  | ',' => some .comma
  | ':' => some .colon
  | _ => none

/-- The lexeme of a word. The words of logic are written in capitals, so that their small forms
stay free as names. -/
def ofWord : String → Lexeme
  | "true" => .constant (.bool true)
  | "false" => .constant (.bool false)
  | "null" => .constant .null
  | "undefined" => .constant .undefined
  | "AND" => .and
  | "OR" => .or
  | "NOT" => .not
  | "contains" => .keyword .contains "contains"
  | "includes" => .keyword .includes "includes"
  | "startsWith" => .keyword .startsWith "startsWith"
  | "starts" => .keyword .startsWith "starts"
  | "endsWith" => .keyword .endsWith "endsWith"
  | "ends" => .keyword .endsWith "ends"
  | "match" => .keyword .matches "match"
  | "regex" => .keyword .regex "regex"
  | "gt" => .keyword .gt "gt"
  | "lt" => .keyword .lt "lt"
  | "gte" => .keyword .gte "gte"
  | "lte" => .keyword .lte "lte"
  | word => .name word

/-- The lexemes of a call of `regex` with a pattern and its modes, if there are any. -/
def patternCall (pattern modes : List Char) : List Lexeme :=
  [.name "regex", .openRound, .constant (.str (String.ofList pattern))]
    ++ (if modes.isEmpty then [] else [.comma, .constant (.str (String.ofList modes))])
    ++ [.closeRound]

/-- Whether a number starts with a character: a digit, or a point that a digit follows. -/
def startsNumber (c : Char) (rest : List Char) : Bool :=
  isDigit c || (c == '.' && (rest.head?.map isDigit).getD false)

/-- The lexemes that start with a character that is no white space, and how many characters after
that one they take. -/
def readAt (c : Char) (rest : List Char) : Except LexCause (List Lexeme × Nat) :=
  if c = '~' then
    match readPattern rest with
    | none => .error .unterminatedPattern
    | some (pattern, n) =>
      let modes := (rest.drop n).takeWhile isMode
      .ok (patternCall pattern modes, n + modes.length)
  else match longOperator? (c :: rest) with
  | some (lexeme, n) => .ok ([lexeme], n - 1)
  | none =>
    if startsNumber c rest then
      let (number, n) := readNumber (c :: rest)
      .ok ([.constant number], n - 1)
    else match ofChar? c with
    | some lexeme => .ok ([lexeme], 0)
    | none =>
      if c = '\'' ∨ c = '"' then
        match readString c rest with
        | none => .error .unterminatedString
        | some (s, n) => .ok ([.constant (.str (String.ofList s))], n)
      else if startsName c then
        let more := rest.takeWhile continuesName
        .ok ([ofWord (String.ofList (c :: more))], more.length)
      else .error (.unexpectedCharacter c)

end Lexeme

namespace Token

/-- The tokens of a text whose first character has the given position. -/
def readFrom (position : Nat) (s : List Char) : Except LexError (List Token) :=
  match s with
  | [] => .ok []
  | c :: rest =>
    if isSpace c then readFrom (position + 1) rest
    else match Lexeme.readAt c rest with
    | .error cause => .error ⟨cause, position⟩
    | .ok (lexemes, n) => do
      let more ← readFrom (position + 1 + n) (rest.drop n)
      return lexemes.map (⟨·, position⟩) ++ more
termination_by s.length
decreasing_by
  · simp
  · simp only [List.length_drop, List.length_cons]; omega

/-- The tokens of a text. -/
def readAll (text : String) : Except LexError (List Token) := readFrom 0 text.toList

/-- The tokens of a text with its end behind them. -/
def row (text : String) : Except LexError (List Mark) := do
  let tokens ← readAll text
  return tokens.map .token ++ [.stop text.length]

end Token

end Trigger
