import Trigger.Expr.Connective
import Trigger.Token.Reader

/-!
# Printing expressions

A tree is printed as a row of lexemes with single blanks between them. Round brackets stand around
an operand only if its outermost connective does not bind tightly enough for its place, around the
base of a member or of an index only if it is no chain, and around the value of a query without a
test if it starts with a word for a test. The path of a query is a name, followed by the rest of
the path in square brackets if there is one.

Well-formed trees are those that some text stands for in this form. Strings in them are arbitrary,
and so is the rest of the path of a query.
-/

namespace Trigger

/-- The characters of a string between double quotes. -/
def Lexeme.escaped (c : Char) : List Char := if c = '"' ∨ c = '\\' then ['\\', c] else [c]

/-- The text of a lexeme. Numbers with a point have none, since they are not printed. -/
def Lexeme.written : Lexeme → List Char
  | .constant (.int n) => Nat.toDigits 10 n
  | .constant (.float _) => []
  | .constant (.str s) => '"' :: s.toList.flatMap Lexeme.escaped ++ ['"']
  | .constant (.bool b) => if b then "true".toList else "false".toList
  | .constant .null => "null".toList
  | .constant .undefined => "undefined".toList
  | .name x => x.toList
  | .keyword _ spelling => spelling.toList
  | .operator op => op.spelling.toList
  | .and => "&&".toList
  | .or => "||".toList
  | .not => "!".toList
  | .openRound => "(".toList
  | .closeRound => ")".toList
  | .openSquare => "[".toList
  | .closeSquare => "]".toList
  | .dot => ".".toList
  | .comma => ",".toList
  | .colon => ":".toList
  | .doubleArrow => "=>".toList

/-- The text of lexemes with single blanks between them. -/
def Lexeme.spaced (xs : List Lexeme) : List Char := List.intercalate [' '] (xs.map Lexeme.written)

/-- Whether lexemes start with a word for a test. -/
def Lexeme.startsWithKeyword : List Lexeme → Bool
  | .keyword .. :: _ => true
  | _ => false

/-- Whether characters are those of a word: one that starts a name and any that go on with it. -/
def Lexeme.isWord : List Char → Bool
  | [] => false
  | c :: cs => Lexeme.startsName c && cs.all Lexeme.continuesName

/-- The lexeme of a sign. -/
def UnaryOperator.lexeme : UnaryOperator → Lexeme
  | .not => .not
  | .minus => .operator .sub
  | .plus => .operator .add
  | .other s => .name s

/-- The lexeme of a connective. -/
def Connective.lexeme : Connective → Lexeme
  | .binary op => .operator op
  | .logical .and => .and
  | .logical .or => .or
  | .logical (.other s) => .name s

/-- The lexeme of a constant, if there is one. -/
def Value.lexeme? : Value → Option Lexeme
  | .null => some (.constant .null)
  | .undefined => some (.constant .undefined)
  | .bool b => some (.constant (.bool b))
  | .int i => some (.constant (.int i.toNat))
  | .str s => some (.constant (.str s))
  | _ => none

namespace Expr

/-- The class of the outermost connective, and 0 if there is none. -/
def rank : Expr → Nat
  | .binary op _ _ => (Connective.binary op).rank
  | .logical op _ _ => (Connective.logical op).rank
  | _ => 0

/-- Whether members can follow a tree without brackets around it. -/
def isChain : Expr → Bool
  | .literal _ => true
  | .name _ => true
  | .member .. => true
  | .index .. => true
  | .call .. => true
  | .list _ => true
  | _ => false

/-- Lexemes with round brackets around them where these are needed. -/
def enclose (needed : Bool) (xs : List Lexeme) : List Lexeme :=
  if needed then .openRound :: xs ++ [.closeRound] else xs

/-- The lexemes of the path of a query. -/
def fieldLexemes (field : String) : List Lexeme :=
  let base := Lexeme.ofWord (String.ofList (field.toList.takeWhile (· ≠ '.')))
  match field.toList.dropWhile (· ≠ '.') with
  | [] => [base]
  | _ :: rest => [base, .openSquare, .constant (.str (String.ofList rest)), .closeSquare]

/-- The lexemes of the test of a query, which equality does without. -/
def testLexemes : QueryOperator → List Lexeme
  | .equals => []
  | op => [.keyword op op.name]

mutual

/-- The lexemes of a tree. -/
def lexemes : Expr → List Lexeme
  | .literal v => v.lexeme?.toList
  | .name x => [.ofWord x]
  | .member obj property => enclose (!obj.isChain) (lexemes obj) ++ [.dot, .ofWord property]
  | .index obj key =>
    enclose (!obj.isChain) (lexemes obj) ++ .openSquare :: lexemes key ++ [.closeSquare]
  | .call callee args => lexemes callee ++ .openRound :: lexemesAll args ++ [.closeRound]
  | .unary op operand => op.lexeme :: enclose (0 < operand.rank) (lexemes operand)
  | .binary op left right =>
    let rank := (Connective.binary op).rank
    enclose (rank < left.rank) (lexemes left)
      ++ (Connective.binary op).lexeme :: enclose (rank ≤ right.rank) (lexemes right)
  | .logical op left right =>
    let rank := (Connective.logical op).rank
    enclose (rank < left.rank) (lexemes left)
      ++ (Connective.logical op).lexeme :: enclose (rank ≤ right.rank) (lexemes right)
  | .arrow params body => params.map .ofWord ++ .doubleArrow :: lexemes body
  | .list items => .openSquare :: lexemesAll items ++ [.closeSquare]
  | .query field op value =>
    let captured := op = .equals ∧ Lexeme.startsWithKeyword (lexemes value)
    fieldLexemes field
      ++ .colon :: testLexemes op ++ enclose (0 < value.rank ∨ captured) (lexemes value)
  | .foreign _ => []

/-- The lexemes of trees with commas between them. -/
def lexemesAll : List Expr → List Lexeme
  | [] => []
  | [e] => lexemes e
  | e :: rest => lexemes e ++ .comma :: lexemesAll rest

end

/-- The lexemes of a list are those of its items between square brackets. -/
theorem lexemes_list (items : List Expr) :
    (Expr.list items).lexemes = .openSquare :: lexemesAll items ++ [.closeSquare] := by
  rw [lexemes]

/-- The text of a tree. -/
def print (e : Expr) : String := String.ofList (Lexeme.spaced e.lexemes)

/-- A word that can be a name: it does not stand for a constant or a word of logic. -/
structure IsName (x : String) : Prop where
  word : Lexeme.isWord x.toList = true
  free : x ∉ ["true", "false", "null", "undefined", "AND", "OR", "NOT"]

instance (x : String) : Decidable (IsName x) :=
  decidable_of_iff (_ ∧ _) ⟨fun h => ⟨h.1, h.2⟩, fun h => ⟨h.word, h.free⟩⟩

/-- Where a tree stands: anywhere, or as an argument of a call. -/
inductive Place where
  | anywhere
  | argument

/-- The trees that are printed so that they can be read back. Numbers have at most 4300 digits, an
arrow function is an argument of a call and has one parameter, which is no word for a test, and
only names and members are called. -/
inductive WellFormed : Place → Expr → Prop
  | null : WellFormed .anywhere (.literal .null)
  | undefined : WellFormed .anywhere (.literal .undefined)
  | bool (b : Bool) : WellFormed .anywhere (.literal (.bool b))
  | int (n : Nat) (hdigits : (Nat.toDigits 10 n).length ≤ 4300) :
      WellFormed .anywhere (.literal (.int n))
  | str (s : String) : WellFormed .anywhere (.literal (.str s))
  | name {x} (hname : IsName x) : WellFormed .anywhere (.name x)
  | member {obj p} (h : WellFormed .anywhere obj) (hname : IsName p) :
      WellFormed .anywhere (.member obj p)
  | index {obj key} (h : WellFormed .anywhere obj) (hkey : WellFormed .anywhere key) :
      WellFormed .anywhere (.index obj key)
  | call {f args} (hname : IsName f) (hargs : ∀ a ∈ args, WellFormed .argument a) :
      WellFormed .anywhere (.call (.name f) args)
  | method {obj p args} (h : WellFormed .anywhere obj) (hname : IsName p)
      (hargs : ∀ a ∈ args, WellFormed .argument a) :
      WellFormed .anywhere (.call (.member obj p) args)
  | unary {op e} (hop : ∀ s, op ≠ .other s) (h : WellFormed .anywhere e) :
      WellFormed .anywhere (.unary op e)
  | binary {op a b} (hop : ∀ s, op ≠ .other s) (hleft : WellFormed .anywhere a)
      (hright : WellFormed .anywhere b) : WellFormed .anywhere (.binary op a b)
  | logical {op a b} (hop : ∀ s, op ≠ .other s) (hleft : WellFormed .anywhere a)
      (hright : WellFormed .anywhere b) : WellFormed .anywhere (.logical op a b)
  | list {items} (h : ∀ e ∈ items, WellFormed .anywhere e) : WellFormed .anywhere (.list items)
  | query {base op v} (hop : ∀ s, op ≠ .other s) (hname : IsName base)
      (h : WellFormed .anywhere v) : WellFormed .anywhere (.query base op v)
  | queryPath {base op v} (hop : ∀ s, op ≠ .other s) (hname : IsName base) (rest : String)
      (h : WellFormed .anywhere v) : WellFormed .anywhere (.query (base ++ "." ++ rest) op v)
  | argument {e} (h : WellFormed .anywhere e) : WellFormed .argument e
  | arrow {x body} (hname : IsName x) (hplain : Lexeme.ofWord x = .name x)
      (h : WellFormed .anywhere body) : WellFormed .argument (.arrow [x] body)

end Expr

end Trigger
