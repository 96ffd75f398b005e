import Trigger.Value.Basic
import Trigger.Value.Text

/-!
# Tokens

The pieces that an expression text is made of, each with the position of its first character. A
word that names a test of record queries is a token of its own kind that keeps its spelling, since
outside a query it is a plain name. The end of the text is not a token; where a token is missing,
the end stands in messages in its place. A row of tokens with the end behind them is one of marks.
-/

namespace Trigger

/-- A constant written in an expression. -/
inductive Constant where
  | int (n : Nat)
  | float (x : Float)
  | str (s : String)
  | bool (b : Bool)
  | null
  | undefined

/-- The value of a constant. -/
def Constant.value : Constant → Value
  | .int n => .int n
  | .float x => .float x
  | .str s => .str s
  | .bool b => .bool b
  | .null => .null
  | .undefined => .undefined

/-- The kind of a constant. -/
def Constant.kindName : Constant → String
  | .int _ => "NUM"
  | .float _ => "NUM"
  | .str _ => "STR"
  | .bool _ => "BOOL"
  | .null => "NULL"
  | .undefined => "UNDEFINED"

/-- What a token is, apart from its position. -/
inductive Lexeme where
  | constant (c : Constant)
  | name (x : String)
  /-- A word for a test of record queries, with its spelling. -/
  | keyword (op : QueryOperator) (spelling : String)
  | operator (op : BinaryOperator)
  | and
  | or
  | not
  | openRound
  | closeRound
  | openSquare
  | closeSquare
  | dot
  | comma
  | colon
  | doubleArrow

namespace Lexeme

/-- The kind of a token, as it stands in messages. -/
def kindName : Lexeme → String
  | .constant c => c.kindName
  | .name _ => "ID"
  | .keyword .. => "OPFUNC"
  | .operator _ => "OP"
  | .and => "AND"
  | .or => "OR"
  | .not => "NOT"
  | .openRound => "LPAREN"
  | .closeRound => "RPAREN"
  | .openSquare => "LBRACK"
  | .closeSquare => "RBRACK"
  | .dot => "DOT"
  | .comma => "COMMA"
  | .colon => "COLON"
  | .doubleArrow => "ARROW"

/-- The value of a token: that of a constant, or the canonical spelling. -/
def value : Lexeme → Value
  | .constant c => c.value
  | .name x => .str x
  | .keyword op _ => .str op.name
  | .operator op => .str op.spelling
  | .and => .str "&&"
  | .or => .str "||"
  | .not => .str "!"
  | .openRound => .str "("
  | .closeRound => .str ")"
  | .openSquare => .str "["
  | .closeSquare => .str "]"
  | .dot => .str "."
  | .comma => .str ","
  | .colon => .str ":"
  | .doubleArrow => .str "=>"

end Lexeme

/-- A lexeme at a position of the text, counted in characters. -/
structure Token where
  lexeme : Lexeme
  position : Nat

/-- The description of a token of a kind. -/
def describeToken (kind : String) (value : Value) (position : Nat) : String :=
  "Token(" ++ Text.quote kind ++ ", " ++ value.shown ++ ", pos=" ++ toString position ++ ")"

namespace Token

/-- The description of a token. -/
def describe (t : Token) : String := describeToken t.lexeme.kindName t.lexeme.value t.position

/-- The kind of the first token, or of the end where there is none. -/
def headKind : List Token → String
  | [] => "EOF"
  | t :: _ => t.lexeme.kindName

/-- The position of the first token, or of the end of the text where there is none. -/
def headPosition (stop : Nat) : List Token → Nat
  | [] => stop
  | t :: _ => t.position

end Token

/-- A token of a text, or the end of the text, which stands behind all tokens. -/
inductive Mark where
  | token (t : Token)
  | stop (position : Nat)

namespace Mark

/-- The kind of a mark, as it stands in messages. -/
def kindName : Mark → String
  | .token t => t.lexeme.kindName
  | .stop _ => "EOF"

/-- The value of a mark; the end has none. -/
def value : Mark → Value
  | .token t => t.lexeme.value
  | .stop _ => .null

/-- The position of a mark. -/
def position : Mark → Nat
  | .token t => t.position
  | .stop position => position

/-- The spelling of a mark, which only a word for a test keeps. -/
def spelling? : Mark → Option String
  | .token ⟨.keyword _ spelling, _⟩ => some spelling
  | _ => none

/-- The description of a mark. -/
def describe : Mark → String
  | .token t => t.describe
  | .stop position => describeToken "EOF" .null position

end Mark

end Trigger
