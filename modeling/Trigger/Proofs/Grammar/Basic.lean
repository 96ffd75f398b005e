import Trigger.Expr.Reader

/-!
# The grammar of expressions

The grammar says which rows of lexemes make up which trees, without saying how they are read. Its
phrases are the rows of operands between connectives of each rank, chains of members and calls,
and the lists between brackets. A word for a test before or after the colon of a query is always
the test, so a chain that ends in such a property takes no colon, and a value after a bare colon
does not start with such a word.

Every phrase but the list has at least one lexeme, and its first one opens it.
-/

namespace Trigger.Grammar

/-- The lexemes that join two operands in each class of strength, with their connectives. -/
inductive Joins : Nat → Lexeme → Connective → Prop
  | multiplicative (op : BinaryOperator) (h : op ∈ [.mul, .div, .rem]) :
      Joins 1 (.operator op) (.binary op)
  | additive (op : BinaryOperator) (h : op ∈ [.add, .sub]) : Joins 2 (.operator op) (.binary op)
  | relational (op : BinaryOperator) (h : op ∈ [.lt, .le, .gt, .ge]) :
      Joins 3 (.operator op) (.binary op)
  | equality (op : BinaryOperator) (h : op ∈ [.looseEq, .looseNe, .strictEq, .strictNe]) :
      Joins 4 (.operator op) (.binary op)
  | and : Joins 5 .and (.logical .and)
  | or : Joins 6 .or (.logical .or)

/-- The lexemes that stand in front of an operand, with their signs. -/
inductive Signs : Lexeme → UnaryOperator → Prop
  | not : Signs .not .not
  | minus : Signs (.operator .sub) .minus
  | plus : Signs (.operator .add) .plus

/-- The lexemes that are names, with the names; a word for a test keeps its spelling. -/
inductive Names : Lexeme → String → Prop
  | name (x : String) : Names (.name x) x
  | keyword (op : QueryOperator) (spelling : String) : Names (.keyword op spelling) spelling

/-- The lexeme that closes a bracket. -/
def closing : Bracket → Lexeme
  | .round => .closeRound
  | .square => .closeSquare

/-- The lexemes end in a point and a word for a test. -/
def EndsInKeyword (xs : List Lexeme) : Prop :=
  ∃ ys op spelling, xs = ys ++ [.dot, .keyword op spelling]

/-- The lexemes start with a word for a test. -/
def StartsWithKeyword (xs : List Lexeme) : Prop := ∃ op spelling ys, xs = .keyword op spelling :: ys

/-- What lexemes can make up. A row of rank zero is an operand with signs in front. -/
inductive Phrase where
  | row (rank : Nat) (e : Expr)
  | postfixed (e : Expr)
  | chain (e : Expr)
  | primary (e : Expr)
  | list (bracket : Bracket) (es : List Expr)
  | items (bracket : Bracket) (es : List Expr)
  | item (bracket : Bracket) (e : Expr)

/-- The lexemes make up the phrase. -/
inductive Derives : List Lexeme → Phrase → Prop
  /-- A row of one operand. -/
  | operand {k xs e} (h : Derives xs (.row k e)) : Derives xs (.row (k + 1) e)
  /-- A row that grows on the right by one operand of the next smaller rank. -/
  | join {k xs x ys c a b} (hleft : Derives xs (.row (k + 1) a)) (hjoin : Joins (k + 1) x c)
      (hright : Derives ys (.row k b)) : Derives (xs ++ x :: ys) (.row (k + 1) (c.join a b))
  | sign {x op xs e} (hsign : Signs x op) (h : Derives xs (.row 0 e)) :
      Derives (x :: xs) (.row 0 (.unary op e))
  | unsigned {xs e} (h : Derives xs (.postfixed e)) : Derives xs (.row 0 e)
  | alone {xs e} (h : Derives xs (.chain e)) : Derives xs (.postfixed e)
  /-- A query without a test. -/
  | query {xs ys e field v} (hleft : Derives xs (.chain e)) (hend : ¬ EndsInKeyword xs)
      (hfield : e.fieldPath? = some field) (hright : Derives ys (.row 0 v))
      (hstart : ¬ StartsWithKeyword ys) :
      Derives (xs ++ .colon :: ys) (.postfixed (.query field .equals v))
  /-- A query with a test after the colon. -/
  | queryColon {xs ys e field op spelling v} (hleft : Derives xs (.chain e))
      (hend : ¬ EndsInKeyword xs) (hfield : e.fieldPath? = some field)
      (hright : Derives ys (.row 0 v)) :
      Derives (xs ++ .colon :: .keyword op spelling :: ys) (.postfixed (.query field op v))
  /-- A query with a test before the colon. -/
  | queryDot {xs ys e field op spelling v} (hleft : Derives xs (.chain e))
      (hfield : e.fieldPath? = some field) (hright : Derives ys (.row 0 v)) :
      Derives (xs ++ .dot :: .keyword op spelling :: .colon :: ys) (.postfixed (.query field op v))
  | start {xs e} (h : Derives xs (.primary e)) : Derives xs (.chain e)
  | property {xs x e p} (h : Derives xs (.chain e)) (hname : Names x p) :
      Derives (xs ++ [.dot, x]) (.chain (.member e p))
  | method {xs x ys e p es} (h : Derives xs (.chain e)) (hname : Names x p)
      (hargs : Derives ys (.list .round es)) :
      Derives (xs ++ .dot :: x :: .openRound :: ys ++ [.closeRound])
        (.chain (.call (.member e p) es))
  | index {xs ys e key} (h : Derives xs (.chain e)) (hkey : Derives ys (.row 6 key)) :
      Derives (xs ++ .openSquare :: ys ++ [.closeSquare]) (.chain (.index e key))
  /-- A call without a point, which only a name can have. -/
  | call {xs ys f es} (h : Derives xs (.chain (.name f))) (hargs : Derives ys (.list .round es)) :
      Derives (xs ++ .openRound :: ys ++ [.closeRound]) (.chain (.call (.name f) es))
  | constant (c : Constant) : Derives [.constant c] (.primary (.literal c.value))
  | name {x s} (hname : Names x s) : Derives [x] (.primary (.name s))
  | round {xs e} (h : Derives xs (.row 6 e)) :
      Derives (.openRound :: xs ++ [.closeRound]) (.primary e)
  | square {xs es} (h : Derives xs (.list .square es)) :
      Derives (.openSquare :: xs ++ [.closeSquare]) (.primary (.list es))
  | noItems (bracket : Bracket) : Derives [] (.list bracket [])
  | someItems {bracket xs es} (h : Derives xs (.items bracket es)) : Derives xs (.list bracket es)
  | lastItem {bracket xs e} (h : Derives xs (.item bracket e)) : Derives xs (.items bracket [e])
  | moreItems {bracket xs ys e es} (h : Derives xs (.item bracket e))
      (hrest : Derives ys (.items bracket es)) :
      Derives (xs ++ .comma :: ys) (.items bracket (e :: es))
  | plain {bracket xs e} (h : Derives xs (.row 6 e)) : Derives xs (.item bracket e)
  /-- An arrow function, which only an argument of a call can be. -/
  | arrow {x xs e} (h : Derives xs (.row 6 e)) :
      Derives (.name x :: .doubleArrow :: xs) (.item .round (.arrow [x] e))
  | arrowRound {x xs e} (h : Derives xs (.row 6 e)) :
      Derives (.openRound :: .name x :: .closeRound :: .doubleArrow :: xs)
        (.item .round (.arrow [x] e))

/-- A lexeme joins operands in a class exactly when it stands for a connective of that rank. -/
theorem joins_iff {k : Nat} {x : Lexeme} {c : Connective} :
    Joins k x c ↔ x.connective? = some c ∧ c.rank = k ∧ 0 < k := by
  constructor
  · intro h
    cases h with
    | multiplicative op hop | additive op hop | relational op hop | equality op hop =>
      simp only [List.mem_cons, List.not_mem_nil, or_false] at hop
      rcases hop with rfl | rfl | rfl | rfl <;> simp [Lexeme.connective?, Connective.rank]
    | and | or => simp [Lexeme.connective?, Connective.rank]
  · intro h
    obtain ⟨hx, rfl, hrank⟩ := h
    cases x with
    | operator op =>
      obtain rfl : Connective.binary op = c := Option.some.inj hx
      cases op with
      | mul | div | rem => exact .multiplicative _ (by simp)
      | add | sub => exact .additive _ (by simp)
      | lt | le | gt | ge => exact .relational _ (by simp)
      | looseEq | looseNe | strictEq | strictNe => exact .equality _ (by simp)
      | other s => simp [Connective.rank] at hrank
    | and => obtain rfl := Option.some.inj hx; exact .and
    | or => obtain rfl := Option.some.inj hx; exact .or
    | _ => simp [Lexeme.connective?] at hx

/-- A lexeme stands in front of an operand exactly when it stands for a sign. -/
theorem signs_iff {x : Lexeme} {op : UnaryOperator} : Signs x op ↔ x.unary? = some op := by
  constructor
  · intro h
    cases h <;> rfl
  · intro h
    cases x <;> simp only [Lexeme.unary?, Option.some.injEq, reduceCtorEq] at h
    case not => subst h; exact .not
    case operator b =>
      cases b <;> simp only [Option.some.injEq, reduceCtorEq] at h
      · subst h; exact .plus
      · subst h; exact .minus

/-- Whether a lexeme closes a bracket is whether it is the closing lexeme. -/
@[simp] theorem isClosedBy_iff {b : Bracket} {x : Lexeme} :
    b.isClosedBy x = true ↔ x = closing b := by
  cases b <;> cases x <;> simp [Bracket.isClosedBy, closing]

end Trigger.Grammar
