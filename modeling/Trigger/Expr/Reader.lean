import Trigger.Expr.Connective
import Trigger.Token.Reader

/-!
# Reading expressions

Tokens are read into a tree by recursive descent. Each reader takes the tokens that are left and
returns a tree with the tokens after it, which are fewer; this is why reading comes to an end. At
the end of the tokens, errors have the position of the end of the text.

A record query is a path of names and constants, a colon and a value. A word for a test straight
after the colon, or between a point and a colon, names the test; anywhere else it is a name.
-/

namespace Trigger

/-- The brackets that can enclose a list. -/
inductive Bracket where
  | round
  | square
deriving DecidableEq, Repr

/-- The kind of the closing bracket. -/
def Bracket.closingName : Bracket → String
  | .round => "RPAREN"
  | .square => "RBRACK"

/-- Whether a token is the closing bracket. -/
def Bracket.isClosedBy : Bracket → Lexeme → Bool
  | .round, .closeRound => true
  | .square, .closeSquare => true
  | _, _ => false

/-- Why tokens are no expression. The kind of a token, or of the end, is given where one was
found. -/
inductive ParseCause where
  | notClosed (bracket : Bracket) (found : String)
  | notAtEnd (found : String)
  | noPropertyName (found : String)
  | missingOperand
  | noOperand (found : String)
  | noFieldPath
deriving DecidableEq, Repr

/-- The wording of a cause. -/
def ParseCause.message : ParseCause → String
  | .notClosed bracket found => "Expected " ++ bracket.closingName ++ ", got " ++ found
  | .notAtEnd found => "Unexpected token after expression: " ++ found
  | .noPropertyName found => "Expected property name, got " ++ found
  | .missingOperand => "Unexpected end of expression"
  | .noOperand found => "Unexpected token " ++ found
  | .noFieldPath => "Left side of a query must be a field path"

/-- A cause and the position at which it was met. -/
structure ParseError where
  cause : ParseCause
  position : Nat
deriving DecidableEq, Repr

/-- Something read from tokens, with the tokens after it, of which there are fewer than a bound. -/
structure Parsed (α : Type) (bound : Nat) where
  result : α
  rest : List Token
  fewer : rest.length < bound

/-- What is within a bound is within every greater one. -/
def Parsed.widen {α : Type} {m n : Nat} (p : Parsed α m) (h : m ≤ n) : Parsed α n :=
  ⟨p.result, p.rest, Nat.lt_of_lt_of_le p.fewer h⟩

@[simp] theorem Parsed.widen_result {α : Type} {m n : Nat} (p : Parsed α m) (h : m ≤ n) :
    (p.widen h).result = p.result := rfl

@[simp] theorem Parsed.widen_rest {α : Type} {m n : Nat} (p : Parsed α m) (h : m ≤ n) :
    (p.widen h).rest = p.rest := rfl

/-- The result under a function. -/
def Parsed.map {α β : Type} {n : Nat} (f : α → β) (p : Parsed α n) : Parsed β n :=
  ⟨f p.result, p.rest, p.fewer⟩

@[simp] theorem Parsed.map_result {α β : Type} {n : Nat} (f : α → β) (p : Parsed α n) :
    (p.map f).result = f p.result := rfl

@[simp] theorem Parsed.map_rest {α β : Type} {n : Nat} (f : α → β) (p : Parsed α n) :
    (p.map f).rest = p.rest := rfl

namespace Expr

/-- The path that a tree is on the left side of a query: a name, followed by properties and by
constants in brackets. -/
def fieldPath? : Expr → Option String
  | .name x => some x
  | .member obj property => (fieldPath? obj).map (· ++ "." ++ property)
  | .index obj (.literal v) => (fieldPath? obj).map (· ++ "." ++ v.toText)
  | _ => none

/-- The path on the left side of a query whose mark is at a position. -/
def fieldPath (position : Nat) (e : Expr) : Except ParseError String :=
  match e.fieldPath? with
  | some path => .ok path
  | none => .error ⟨.noFieldPath, position⟩

/-- Whether a call can follow without a point. -/
def isName : Expr → Bool
  | .name _ => true
  | _ => false

variable (stop : Nat)

/-- The tokens after a closing bracket, which must come next. -/
def close (bracket : Bracket) : (tokens : List Token) → Except ParseError (Parsed Unit tokens.length)
  | [] => .error ⟨.notClosed bracket "EOF", stop⟩
  | t :: rest =>
    if bracket.isClosedBy t.lexeme then .ok ⟨(), rest, by simp⟩
    else .error ⟨.notClosed bracket t.lexeme.kindName, t.position⟩

mutual

/-- An expression whose outermost connectives are of a rank or of smaller ones. -/
def parseRank (rank : Nat) (tokens : List Token) :
    Except ParseError (Parsed Expr tokens.length) :=
  match rank with
  | 0 => parseUnary tokens
  | rank + 1 => do
    let left ← parseRank rank tokens
    have := left.fewer
    let all ← parseMore (rank + 1) left.result left.rest
    return all.widen this
termination_by (tokens.length, rank + 5)

/-- The rest of a row of operands between connectives of a rank. -/
def parseMore (rank : Nat) (left : Expr) (tokens : List Token) :
    Except ParseError (Parsed Expr (tokens.length + 1)) :=
  match tokens with
  | [] => .ok ⟨left, [], by simp⟩
  | t :: rest =>
    match t.lexeme.connective? with
    | none => .ok ⟨left, t :: rest, by simp⟩
    | some c =>
      if c.rank = rank then do
        let right ← parseRank (rank - 1) rest
        have := right.fewer
        let all ← parseMore rank (c.join left right.result) right.rest
        return all.widen (by simp only [List.length_cons]; omega)
      else .ok ⟨left, t :: rest, by simp⟩
termination_by (tokens.length, rank + 5)

/-- An operand with any number of signs in front. -/
def parseUnary (tokens : List Token) : Except ParseError (Parsed Expr tokens.length) :=
  match tokens with
  | [] => parsePostfix []
  | t :: rest =>
    match t.lexeme.unary? with
    | some op => do
      let operand ← parseUnary rest
      return (operand.map (.unary op)).widen (by simp)
    | none => parsePostfix (t :: rest)
termination_by (tokens.length, 4)

/-- A primary expression with members, calls and queries after it. -/
def parsePostfix (tokens : List Token) : Except ParseError (Parsed Expr tokens.length) := do
  let left ← parsePrimary tokens
  have := left.fewer
  let all ← parseSuffixes left.result left.rest
  return all.widen this
termination_by (tokens.length, 3)

/-- The members, calls and queries that follow an expression. -/
def parseSuffixes (left : Expr) (tokens : List Token) :
    Except ParseError (Parsed Expr (tokens.length + 1)) :=
  match tokens with
  | ⟨.colon, position⟩ :: ⟨.keyword op _, _⟩ :: rest => do
    let field ← left.fieldPath position
    let value ← parseUnary rest
    have := value.fewer
    let all ← parseSuffixes (.query field op value.result) value.rest
    return all.widen (Nat.le_trans this (Nat.le_add_right _ 3))
  | ⟨.colon, position⟩ :: rest => do
    let field ← left.fieldPath position
    let value ← parseUnary rest
    have := value.fewer
    let all ← parseSuffixes (.query field .equals value.result) value.rest
    return all.widen (Nat.le_trans this (Nat.le_add_right _ 2))
  | ⟨.dot, position⟩ :: ⟨.keyword op _, _⟩ :: ⟨.colon, _⟩ :: rest => do
    let field ← left.fieldPath position
    let value ← parseUnary rest
    have := value.fewer
    let all ← parseSuffixes (.query field op value.result) value.rest
    return all.widen (Nat.le_trans this (Nat.le_add_right _ 4))
  | ⟨.dot, _⟩ :: ⟨.keyword _ spelling, _⟩ :: rest => do
    let all ← parseProperty left spelling rest
    return all.widen (Nat.le_add_right _ 2)
  | ⟨.dot, _⟩ :: ⟨.name x, _⟩ :: rest => do
    let all ← parseProperty left x rest
    return all.widen (Nat.le_add_right _ 2)
  | ⟨.dot, _⟩ :: rest =>
    .error ⟨.noPropertyName (Token.headKind rest), Token.headPosition stop rest⟩
  | ⟨.openSquare, _⟩ :: rest => do
    let key ← parseRank Connective.loosest rest
    have inside := key.fewer
    let closed ← close stop .square key.rest
    have := closed.fewer
    let all ← parseSuffixes (.index left key.result) closed.rest
    return all.widen (Nat.le_trans this (Nat.le_trans (Nat.le_of_lt inside) (Nat.le_add_right _ 2)))
  | ⟨.openRound, position⟩ :: rest =>
    if left.isName then do
      let args ← parseList .round rest
      have := args.fewer
      let all ← parseSuffixes (.call left args.result) args.rest
      return all.widen (Nat.le_trans this (Nat.le_add_right _ 2))
    else .ok ⟨left, ⟨.openRound, position⟩ :: rest, by simp⟩
  | tokens => .ok ⟨left, tokens, by simp⟩
termination_by (tokens.length, 2)

/-- What follows a property of an expression, which may be called. -/
def parseProperty (obj : Expr) (property : String) (tokens : List Token) :
    Except ParseError (Parsed Expr (tokens.length + 1)) :=
  match tokens with
  | ⟨.openRound, _⟩ :: rest => do
    let args ← parseList .round rest
    have := args.fewer
    let all ← parseSuffixes (.call (.member obj property) args.result) args.rest
    return all.widen (Nat.le_trans this (Nat.le_add_right _ 2))
  | tokens => parseSuffixes (.member obj property) tokens
termination_by (tokens.length, 3)

/-- A constant, a name, an expression in round brackets or a list in square ones. -/
def parsePrimary (tokens : List Token) : Except ParseError (Parsed Expr tokens.length) :=
  match tokens with
  | [] => .error ⟨.missingOperand, stop⟩
  | ⟨.constant c, _⟩ :: rest => .ok ⟨.literal c.value, rest, by simp⟩
  | ⟨.name x, _⟩ :: rest => .ok ⟨.name x, rest, by simp⟩
  | ⟨.keyword _ spelling, _⟩ :: rest => .ok ⟨.name spelling, rest, by simp⟩
  | ⟨.openRound, _⟩ :: rest => do
    let inner ← parseRank Connective.loosest rest
    have := inner.fewer
    let closed ← close stop .round inner.rest
    return ⟨inner.result, closed.rest, by have := closed.fewer; simp only [List.length_cons]; omega⟩
  | ⟨.openSquare, _⟩ :: rest => do
    let items ← parseList .square rest
    return (items.map .list).widen (by simp)
  | t :: _ => .error ⟨.noOperand t.lexeme.kindName, t.position⟩
termination_by (tokens.length, 1)

/-- The expressions up to a closing bracket, separated by commas; there may be none. -/
def parseList (bracket : Bracket) (tokens : List Token) :
    Except ParseError (Parsed (List Expr) tokens.length) :=
  match tokens with
  | [] => parseItems bracket []
  | t :: rest =>
    if bracket.isClosedBy t.lexeme then .ok ⟨[], rest, by simp⟩
    else parseItems bracket (t :: rest)
termination_by (tokens.length, 14)

/-- One or more expressions up to a closing bracket. -/
def parseItems (bracket : Bracket) (tokens : List Token) :
    Except ParseError (Parsed (List Expr) tokens.length) := do
  let item ← parseItem bracket tokens
  have fewer := item.fewer
  match h : item.rest with
  | ⟨.comma, _⟩ :: rest =>
    have : rest.length < tokens.length := by simp only [h, List.length_cons] at fewer; omega
    let more ← parseItems bracket rest
    return (more.map (item.result :: ·)).widen (Nat.le_of_lt this)
  | rest =>
    let closed ← close stop bracket rest
    return ⟨[item.result], closed.rest, Nat.lt_trans closed.fewer (h ▸ fewer)⟩
termination_by (tokens.length, 13)

/-- An item between brackets. An argument of a call, which stands between round ones, can also be
an arrow function of one parameter. -/
def parseItem (bracket : Bracket) (tokens : List Token) :
    Except ParseError (Parsed Expr tokens.length) :=
  match bracket, tokens with
  | .round, ⟨.name x, _⟩ :: ⟨.doubleArrow, _⟩ :: rest => do
    let body ← parseRank Connective.loosest rest
    return (body.map (.arrow [x])).widen (by simp only [List.length_cons]; omega)
  | .round, ⟨.openRound, _⟩ :: ⟨.name x, _⟩ :: ⟨.closeRound, _⟩ :: ⟨.doubleArrow, _⟩ :: rest => do
    let body ← parseRank Connective.loosest rest
    return (body.map (.arrow [x])).widen (by simp only [List.length_cons]; omega)
  | _, tokens => parseRank Connective.loosest tokens
termination_by (tokens.length, 12)
decreasing_by
  · decreasing_tactic
  · decreasing_tactic
  · exact .right _ (by decide)

end

/-- The expression that all the given tokens make up, in a text that ends at `stop`. -/
def ofTokens (tokens : List Token) : Except ParseError Expr := do
  let e ← parseRank stop Connective.loosest tokens
  match e.rest with
  | [] => return e.result
  | t :: _ => throw ⟨.notAtEnd t.lexeme.kindName, t.position⟩

end Expr

/-- Why a text is no expression. -/
inductive ReadError where
  | lex (e : LexError)
  | parse (e : ParseError)
deriving DecidableEq, Repr

namespace ReadError

/-- The wording of an error without its position. -/
def text : ReadError → String
  | .lex e => e.cause.message
  | .parse e => e.cause.message

/-- The position of an error. -/
def position : ReadError → Nat
  | .lex e => e.position
  | .parse e => e.position

/-- The wording of an error. -/
def message (e : ReadError) : String := e.text ++ " at position " ++ toString e.position

end ReadError

/-- The expression that a text stands for. -/
def Expr.read (text : String) : Except ReadError Expr :=
  match Token.readAll text with
  | .error e => .error (.lex e)
  | .ok tokens =>
    match Expr.ofTokens text.length tokens with
    | .error e => .error (.parse e)
    | .ok e => .ok e

end Trigger
