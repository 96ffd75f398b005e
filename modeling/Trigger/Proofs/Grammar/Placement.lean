import Trigger.Proofs.Grammar.Soundness
import Trigger.Proofs.Lexing.Placement

/-!
# Where reading stops

A reader goes on from token to token and never past the end: what it leaves is a last part of the
tokens that it was given, and if it fails, it does so at the first token of such a part, or at the
end of the text if nothing is left. The proof follows the recursion of the readers. With the places
of the tokens this gives the place at which a text is refused.
-/

namespace Trigger.Grammar

variable {stop : Nat} {α β : Type} {m n : Nat} {tokens rest : List Token}

/-- Reading stops within some tokens: it leaves a last part of them, or fails at the first token of
such a part or at the end of the text. -/
def Stays (stop : Nat) (tokens : List Token) : Except ParseError (Parsed α n) → Prop
  | .ok p => p.rest <:+ tokens
  | .error e => ∃ left, left <:+ tokens ∧ e.position = Token.headPosition stop left

/-- What stops within a last part of some tokens stops within the tokens. -/
theorem Stays.mono {x : Except ParseError (Parsed α n)} (h : Stays stop rest x)
    (hrest : rest <:+ tokens) : Stays stop tokens x := by
  cases x with
  | ok p => exact List.IsSuffix.trans h hrest
  | error e =>
    obtain ⟨left, hleft, hposition⟩ := h
    exact ⟨left, hleft.trans hrest, hposition⟩

/-- Reading some tokens and then what is left of them. -/
theorem Stays.bind {x : Except ParseError (Parsed α m)}
    {f : Parsed α m → Except ParseError (Parsed β n)} (h : Stays stop rest x)
    (hrest : rest <:+ tokens) (hf : ∀ p, p.rest <:+ tokens → Stays stop tokens (f p)) :
    Stays stop tokens (x >>= f) := by
  cases x with
  | ok p => exact hf p (List.IsSuffix.trans h hrest)
  | error e => exact (show Stays stop rest (.error e : Except _ (Parsed β n)) from h).mono hrest

/-- Reading some tokens last, whatever is made of the result. -/
theorem Stays.last {x : Except ParseError (Parsed α m)} {f : Parsed α m → Parsed β n}
    (h : Stays stop rest x) (hrest : rest <:+ tokens) (hf : ∀ p, (f p).rest = p.rest) :
    Stays stop tokens (x >>= fun p => .ok (f p)) :=
  h.bind hrest fun p hp => show (f p).rest <:+ tokens from (hf p).symm ▸ hp

/-- The path of a query is refused at the token of its mark. -/
theorem stays_fieldPath {e : Expr} {x : Lexeme} {position : Nat}
    {f : String → Except ParseError (Parsed β n)}
    (ht : ⟨x, position⟩ :: rest <:+ tokens) (hf : ∀ field, Stays stop tokens (f field)) :
    Stays stop tokens (e.fieldPath position >>= f) := by
  unfold Expr.fieldPath
  cases e.fieldPath? with
  | some field => exact hf field
  | none => exact ⟨_, ht, rfl⟩

/-- A closing bracket is asked for where it has to stand. -/
theorem stays_close (b : Bracket) (tokens : List Token) :
    Stays stop tokens (Expr.close stop b tokens) := by
  cases tokens with
  | nil => exact ⟨[], List.suffix_rfl, rfl⟩
  | cons t rest =>
    rw [Expr.close]
    split
    · exact List.suffix_cons t rest
    · exact ⟨t :: rest, List.suffix_rfl, rfl⟩

/-! ## What each reader keeps -/

variable (stop)

/-- The reader of rows stays within the tokens. -/
def RowStays (k : Nat) (tokens : List Token) : Prop :=
  Stays stop tokens (Expr.parseRank stop k tokens)

/-- The reader of the rest of a row stays within the tokens. -/
def MoreStays (k : Nat) (left : Expr) (tokens : List Token) : Prop :=
  Stays stop tokens (Expr.parseMore stop k left tokens)

/-- The reader of operands with signs stays within the tokens. -/
def UnaryStays (tokens : List Token) : Prop := Stays stop tokens (Expr.parseUnary stop tokens)

/-- The reader of operands stays within the tokens. -/
def PostfixStays (tokens : List Token) : Prop := Stays stop tokens (Expr.parsePostfix stop tokens)

/-- The reader of suffixes stays within the tokens. -/
def SuffixesStays (left : Expr) (tokens : List Token) : Prop :=
  Stays stop tokens (Expr.parseSuffixes stop left tokens)

/-- The reader of what follows a property stays within the tokens. -/
def PropertyStays (obj : Expr) (property : String) (tokens : List Token) : Prop :=
  Stays stop tokens (Expr.parseProperty stop obj property tokens)

/-- The reader of primary expressions stays within the tokens. -/
def PrimaryStays (tokens : List Token) : Prop := Stays stop tokens (Expr.parsePrimary stop tokens)

/-- The reader of lists stays within the tokens. -/
def ListStays (b : Bracket) (tokens : List Token) : Prop :=
  Stays stop tokens (Expr.parseList stop b tokens)

/-- The reader of items stays within the tokens. -/
def ItemsStays (b : Bracket) (tokens : List Token) : Prop :=
  Stays stop tokens (Expr.parseItems stop b tokens)

/-- The reader of an item stays within the tokens. -/
def ItemStays (b : Bracket) (tokens : List Token) : Prop :=
  Stays stop tokens (Expr.parseItem stop b tokens)

variable {stop}

/-! ## Rows and operands -/

/-- A row of a rank and what follows it. -/
theorem rowStays_succ {k : Nat} (h : RowStays stop k tokens)
    (hmore : ∀ left : Parsed Expr tokens.length, MoreStays stop (k + 1) left.result left.rest) :
    RowStays stop (k + 1) tokens := by
  unfold RowStays
  rw [Expr.parseRank]
  exact h.bind List.suffix_rfl fun left hleft => (hmore left).last hleft fun _ => rfl

/-- A connective, a row behind it and what follows the two. -/
theorem moreStays_join {left : Expr} {t : Token} {c : Connective}
    (hc : t.lexeme.connective? = some c) (h : RowStays stop (c.rank - 1) rest)
    (hmore : ∀ right : Parsed Expr rest.length,
      MoreStays stop c.rank (c.join left right.result) right.rest) :
    MoreStays stop c.rank left (t :: rest) := by
  unfold MoreStays
  rw [Expr.parseMore]
  simp only [hc, if_true]
  exact h.bind (List.suffix_cons t rest) fun right hright =>
    (hmore right).last hright fun _ => rfl

/-- A sign and an operand. -/
theorem unaryStays_sign {t : Token} {op : UnaryOperator} (hop : t.lexeme.unary? = some op)
    (h : UnaryStays stop rest) : UnaryStays stop (t :: rest) := by
  unfold UnaryStays
  rw [Expr.parseUnary]
  simp only [hop]
  exact h.last (List.suffix_cons t rest) fun _ => rfl

/-- A primary expression and what follows it. -/
theorem postfixStays (h : PrimaryStays stop tokens)
    (hmore : ∀ left : Parsed Expr tokens.length, SuffixesStays stop left.result left.rest) :
    PostfixStays stop tokens := by
  unfold PostfixStays
  rw [Expr.parsePostfix]
  exact h.bind List.suffix_rfl fun left hleft => (hmore left).last hleft fun _ => rfl

/-! ## Suffixes -/

/-- A query: its path, its value and what follows the value. -/
theorem stays_query {left : Expr} {x : Lexeme} {position : Nat} {op : QueryOperator}
    {more : List Token}
    {f : ∀ value : Parsed Expr rest.length, Parsed Expr (value.rest.length + 1) → Parsed Expr n}
    (ht : ⟨x, position⟩ :: more <:+ tokens) (hrest : rest <:+ tokens) (h : UnaryStays stop rest)
    (hmore : ∀ (field : String) (value : Parsed Expr rest.length),
      SuffixesStays stop (.query field op value.result) value.rest)
    (hf : ∀ value p, (f value p).rest = p.rest) :
    Stays stop tokens (do
      let field ← left.fieldPath position
      let value ← Expr.parseUnary stop rest
      let all ← Expr.parseSuffixes stop (.query field op value.result) value.rest
      return f value all) :=
  stays_fieldPath ht fun field => h.bind hrest fun value hvalue =>
    (hmore field value).last hvalue (hf value)

/-- A query with a test after the colon. -/
theorem suffixesStays_queryColon {left : Expr} {position position' : Nat} {op : QueryOperator}
    {spelling : String} (h : UnaryStays stop rest)
    (hmore : ∀ (field : String) (value : Parsed Expr rest.length),
      SuffixesStays stop (.query field op value.result) value.rest) :
    SuffixesStays stop left (⟨.colon, position⟩ :: ⟨.keyword op spelling, position'⟩ :: rest) := by
  unfold SuffixesStays
  rw [Expr.parseSuffixes]
  exact stays_query List.suffix_rfl ((List.suffix_cons _ _).trans (List.suffix_cons _ _)) h hmore
    fun _ _ => rfl

/-- A query without a test. -/
theorem suffixesStays_query {left : Expr} {position : Nat}
    (hrest : ∀ op spelling position rest', rest = ⟨.keyword op spelling, position⟩ :: rest' → False)
    (h : UnaryStays stop rest)
    (hmore : ∀ (field : String) (value : Parsed Expr rest.length),
      SuffixesStays stop (.query field .equals value.result) value.rest) :
    SuffixesStays stop left (⟨.colon, position⟩ :: rest) := by
  unfold SuffixesStays
  rw [Expr.parseSuffixes.eq_2 _ _ _ _ hrest]
  exact stays_query List.suffix_rfl (List.suffix_cons _ _) h hmore fun _ _ => rfl

/-- A query with a test before the colon. -/
theorem suffixesStays_queryDot {left : Expr} {position position' position'' : Nat}
    {op : QueryOperator} {spelling : String} (h : UnaryStays stop rest)
    (hmore : ∀ (field : String) (value : Parsed Expr rest.length),
      SuffixesStays stop (.query field op value.result) value.rest) :
    SuffixesStays stop left
      (⟨.dot, position⟩ :: ⟨.keyword op spelling, position'⟩ :: ⟨.colon, position''⟩ :: rest) := by
  unfold SuffixesStays
  rw [Expr.parseSuffixes]
  exact stays_query List.suffix_rfl (List.suffix_append [_, _, _] rest) h hmore fun _ _ => rfl

/-- A property whose name is a word for a test, which no colon follows. -/
theorem suffixesStays_keyword {left : Expr} {position position' : Nat} {op : QueryOperator}
    {spelling : String} (hrest : ∀ position rest', rest = ⟨.colon, position⟩ :: rest' → False)
    (h : PropertyStays stop left spelling rest) :
    SuffixesStays stop left (⟨.dot, position⟩ :: ⟨.keyword op spelling, position'⟩ :: rest) := by
  unfold SuffixesStays
  rw [Expr.parseSuffixes.eq_4 _ _ _ _ _ _ _ hrest]
  exact h.last (List.suffix_append [_, _] rest) fun _ => rfl

/-- A property with another name. -/
theorem suffixesStays_name {left : Expr} {position position' : Nat} {x : String}
    (h : PropertyStays stop left x rest) :
    SuffixesStays stop left (⟨.dot, position⟩ :: ⟨.name x, position'⟩ :: rest) := by
  unfold SuffixesStays
  rw [Expr.parseSuffixes]
  exact h.last (List.suffix_append [_, _] rest) fun _ => rfl

/-- A point without a name is refused at what stands there instead. -/
theorem suffixesStays_dot {left : Expr} {position : Nat}
    (h : ∀ op spelling position position' rest',
      rest = ⟨.keyword op spelling, position⟩ :: ⟨.colon, position'⟩ :: rest' → False)
    (h' : ∀ op spelling position rest', rest = ⟨.keyword op spelling, position⟩ :: rest' → False)
    (h'' : ∀ x position rest', rest = ⟨.name x, position⟩ :: rest' → False) :
    SuffixesStays stop left (⟨.dot, position⟩ :: rest) := by
  unfold SuffixesStays
  rw [Expr.parseSuffixes.eq_6 _ _ _ _ h h' h'']
  exact ⟨rest, List.suffix_cons _ _, rfl⟩

/-- A member whose key is computed. -/
theorem suffixesStays_index {left : Expr} {position : Nat}
    (h : RowStays stop Connective.loosest rest)
    (hmore : ∀ (key : Parsed Expr rest.length) (closed : Parsed Unit key.rest.length),
      SuffixesStays stop (.index left key.result) closed.rest) :
    SuffixesStays stop left (⟨.openSquare, position⟩ :: rest) := by
  unfold SuffixesStays
  rw [Expr.parseSuffixes]
  refine h.bind (List.suffix_cons _ _) fun key hkey => ?_
  refine (stays_close .square key.rest).bind hkey fun closed hclosed => ?_
  exact (hmore key closed).last hclosed fun _ => rfl

/-- A call of a name. -/
theorem suffixesStays_call {left : Expr} {position : Nat} (hname : left.isName = true)
    (h : ListStays stop .round rest)
    (hmore : ∀ args : Parsed (List Expr) rest.length,
      SuffixesStays stop (.call left args.result) args.rest) :
    SuffixesStays stop left (⟨.openRound, position⟩ :: rest) := by
  unfold SuffixesStays
  rw [Expr.parseSuffixes]
  simp only [hname, if_true]
  exact h.bind (List.suffix_cons _ _) fun args hargs => (hmore args).last hargs fun _ => rfl

/-- A property that is called. -/
theorem propertyStays_call {obj : Expr} {property : String} {position : Nat}
    (h : ListStays stop .round rest)
    (hmore : ∀ args : Parsed (List Expr) rest.length,
      SuffixesStays stop (.call (.member obj property) args.result) args.rest) :
    PropertyStays stop obj property (⟨.openRound, position⟩ :: rest) := by
  unfold PropertyStays
  rw [Expr.parseProperty]
  exact h.bind (List.suffix_cons _ _) fun args hargs => (hmore args).last hargs fun _ => rfl

/-! ## Primary expressions and lists -/

/-- An expression in round brackets. -/
theorem primaryStays_round {position : Nat} (h : RowStays stop Connective.loosest rest) :
    PrimaryStays stop (⟨.openRound, position⟩ :: rest) := by
  unfold PrimaryStays
  rw [Expr.parsePrimary]
  refine h.bind (List.suffix_cons _ _) fun inner hinner => ?_
  exact (stays_close .round inner.rest).bind hinner fun closed hclosed => hclosed

/-- A list in square brackets. -/
theorem primaryStays_square {position : Nat} (h : ListStays stop .square rest) :
    PrimaryStays stop (⟨.openSquare, position⟩ :: rest) := by
  unfold PrimaryStays
  rw [Expr.parsePrimary]
  exact h.last (List.suffix_cons _ _) fun _ => rfl

/-- An item, and more of them after a comma. -/
theorem itemsStays {b : Bracket} (h : ItemStays stop b tokens)
    (hmore : ∀ (item : Parsed Expr tokens.length) (position : Nat) (rest : List Token),
      item.rest = ⟨.comma, position⟩ :: rest → ItemsStays stop b rest) :
    ItemsStays stop b tokens := by
  unfold ItemsStays
  rw [Expr.parseItems]
  refine h.bind List.suffix_rfl fun item hitem => ?_
  split
  · rename_i position rest hrest
    have hsuffix : rest <:+ tokens := (List.suffix_cons _ _).trans (hrest ▸ hitem)
    exact (hmore item position rest hrest).last hsuffix fun _ => rfl
  · exact (stays_close b item.rest).bind hitem fun closed hclosed => hclosed

/-- An arrow function whose parameter has no brackets. -/
theorem itemStays_arrow {x : String} {p₁ p₂ : Nat} (h : RowStays stop Connective.loosest rest) :
    ItemStays stop .round (⟨.name x, p₁⟩ :: ⟨.doubleArrow, p₂⟩ :: rest) := by
  unfold ItemStays
  rw [Expr.parseItem]
  exact h.last (List.suffix_append [_, _] rest) fun _ => rfl

/-- An arrow function whose parameter stands in brackets. -/
theorem itemStays_arrowRound {x : String} {p₁ p₂ p₃ p₄ : Nat}
    (h : RowStays stop Connective.loosest rest) :
    ItemStays stop .round
      (⟨.openRound, p₁⟩ :: ⟨.name x, p₂⟩ :: ⟨.closeRound, p₃⟩ :: ⟨.doubleArrow, p₄⟩ :: rest) := by
  unfold ItemStays
  rw [Expr.parseItem]
  exact h.last (List.suffix_append [_, _, _, _] rest) fun _ => rfl

/-! ## All readers together -/

/-- Every row is read within the tokens. -/
theorem rowStays (k : Nat) (tokens : List Token) : RowStays stop k tokens := by
  refine (Expr.parseRank.mutual_induct (RowStays stop) (MoreStays stop) (UnaryStays stop)
    (PostfixStays stop) (SuffixesStays stop) (ListStays stop) (ItemsStays stop) (ItemStays stop)
    (PropertyStays stop) (PrimaryStays stop) ?_ ?_ ?_ ?_ ?_ ?_ ?_ ?_ ?_ ?_ ?_ ?_ ?_ ?_ ?_ ?_ ?_ ?_
    ?_ ?_ ?_ ?_ ?_ ?_ ?_ ?_ ?_ ?_ ?_ ?_ ?_ ?_ ?_ ?_ ?_ ?_).1 k tokens
  -- Rows and the rest of rows.
  · exact fun _ h => by rwa [RowStays, Expr.parseRank]
  · exact fun _ _ => rowStays_succ
  · exact fun _ _ => by rw [MoreStays, Expr.parseMore]; exact List.suffix_rfl
  · exact fun _ _ t rest ht => by
      rw [MoreStays, Expr.parseMore]; simp only [ht]; exact List.suffix_rfl
  · exact fun _ _ _ _ => moreStays_join
  · exact fun _ _ t rest c hc hrank => by
      rw [MoreStays, Expr.parseMore]; simp only [hc, hrank, if_false]; exact List.suffix_rfl
  -- Operands.
  · exact fun h => by rwa [UnaryStays, Expr.parseUnary]
  · exact fun _ _ _ => unaryStays_sign
  · exact fun t rest ht h => by rw [UnaryStays, Expr.parseUnary]; simp only [ht]; exact h
  · exact fun _ => postfixStays
  -- Suffixes.
  · exact fun _ _ _ _ _ _ => suffixesStays_queryColon
  · exact fun _ _ _ => suffixesStays_query
  · exact fun _ _ _ _ _ _ _ => suffixesStays_queryDot
  · exact fun _ _ _ _ _ _ => suffixesStays_keyword
  · exact fun _ _ _ _ _ => suffixesStays_name
  · exact fun _ _ _ => suffixesStays_dot
  · exact fun _ _ _ => suffixesStays_index
  · exact fun _ _ _ => suffixesStays_call
  · exact fun left position rest hname => by
      rw [SuffixesStays, Expr.parseSuffixes]
      simp only [hname, Bool.false_eq_true, if_false]
      exact List.suffix_rfl
  · exact fun left tokens h₁ h₂ h₃ h₄ h₅ h₆ h₇ h₈ => by
      rw [SuffixesStays, Expr.parseSuffixes.eq_9 _ _ _ h₁ h₂ h₃ h₄ h₅ h₆ h₇ h₈]
      exact List.suffix_rfl
  -- Lists.
  · exact fun _ h => by rwa [ListStays, Expr.parseList]
  · exact fun b t rest ht => by
      rw [ListStays, Expr.parseList]; simp only [ht, if_true]; exact List.suffix_cons t rest
  · exact fun b t rest ht h => by
      rw [ListStays, Expr.parseList]; simp only [ht, Bool.false_eq_true, if_false]; exact h
  · exact fun _ _ => itemsStays
  · exact fun _ _ _ _ => itemStays_arrow
  · exact fun _ _ _ _ _ _ => itemStays_arrowRound
  · exact fun b tokens h₁ h₂ h => by rwa [ItemStays, Expr.parseItem.eq_3 _ _ _ h₁ h₂]
  -- Properties.
  · exact fun _ _ _ _ => propertyStays_call
  · exact fun obj property tokens htokens h => by
      rwa [PropertyStays, Expr.parseProperty.eq_2 _ _ _ _ htokens]
  -- Primary expressions.
  · rw [PrimaryStays, Expr.parsePrimary]
    exact ⟨[], List.suffix_rfl, rfl⟩
  · exact fun _ _ _ => by rw [PrimaryStays, Expr.parsePrimary]; exact List.suffix_cons _ _
  · exact fun _ _ _ => by rw [PrimaryStays, Expr.parsePrimary]; exact List.suffix_cons _ _
  · exact fun _ _ _ _ => by rw [PrimaryStays, Expr.parsePrimary]; exact List.suffix_cons _ _
  · exact fun _ _ => primaryStays_round
  · exact fun _ _ => primaryStays_square
  · exact fun t rest h₁ h₂ h₃ h₄ h₅ => by
      rw [PrimaryStays, Expr.parsePrimary.eq_7 _ _ _ h₁ h₂ h₃ h₄ h₅]
      exact ⟨t :: rest, List.suffix_rfl, rfl⟩

/-- Tokens that make up no expression are refused at one of them, or at the end. -/
theorem position_of_ofTokens {error : ParseError} (h : Expr.ofTokens stop tokens = .error error) :
    ∃ left, left <:+ tokens ∧ error.position = Token.headPosition stop left := by
  have hrow : RowStays stop Connective.loosest tokens := rowStays _ tokens
  unfold RowStays at hrow
  rw [Expr.ofTokens] at h
  cases hread : Expr.parseRank stop Connective.loosest tokens with
  | error e =>
    rw [hread] at hrow h
    obtain rfl : e = error := Except.error.inj h
    exact hrow
  | ok p =>
    rw [hread] at hrow h
    dsimp only [bind, Except.bind] at h
    split at h
    · cases h
    · next t rest hrest =>
      cases h
      exact ⟨t :: rest, hrest ▸ hrow, rfl⟩

end Trigger.Grammar

namespace Trigger.Expr

open Grammar (Stays)

variable {text : String}

/-- A text has no tokens exactly if it is refused for the same reason. -/
theorem read_eq_lex_iff {error : LexError} :
    read text = .error (.lex error) ↔ Token.row text = .error error := by
  rw [Token.row_eq_error_iff, read]
  cases Token.readAll text with
  | error e => simp
  | ok tokens => cases htree : ofTokens text.length tokens <;> simp [htree]

/-- A text whose tokens make up no expression is refused at a mark of its row. -/
theorem mark_of_read_eq_parse {error : ParseError} (h : read text = .error (.parse error)) :
    ∃ marks, Token.row text = .ok marks ∧ ∃ m ∈ marks, m.position = error.position := by
  rw [read] at h
  cases htokens : Token.readAll text with
  | error e =>
    rw [htokens] at h
    cases h
  | ok tokens =>
    rw [htokens] at h
    dsimp only at h
    cases htree : ofTokens text.length tokens with
    | ok e =>
      rw [htree] at h
      cases h
    | error e =>
      rw [htree] at h
      cases h
      obtain ⟨left, hleft, hposition⟩ := Grammar.position_of_ofTokens htree
      refine ⟨_, Token.row_eq_ok_iff.mpr ⟨tokens, htokens, rfl⟩, ?_⟩
      cases left with
      | nil => exact ⟨.stop text.length, by simp, hposition.symm⟩
      | cons t left =>
        have ht : t ∈ tokens := hleft.subset List.mem_cons_self
        exact ⟨.token t, by simp [ht], hposition.symm⟩

/-- Every text is read as an expression or refused at a place of it. If it has tokens, they lie in
it in order with the end behind them, and wherever reading starts among them, it goes on no further
than to the end. If it has none, the error is at one of its characters, and the part in front of
that has tokens. If the tokens make up no expression, the error is at one of them or at the end. -/
theorem read_or_refused (text : String) :
    ((∃ e, read text = .ok e) ∨ (∃ error, read text = .error (.lex error)) ∨
      ∃ error, read text = .error (.parse error)) ∧
    (∀ marks, Token.row text = .ok marks → Token.Placed text marks) ∧
    (∀ rank tokens, Stays text.length tokens (parseRank text.length rank tokens)) ∧
    (∀ error, read text = .error (.lex error) →
      Token.row text = .error error ∧ error.position < text.length ∧
        ∃ marks, Token.row (String.ofList (text.toList.take error.position)) = .ok marks) ∧
    ∀ error, read text = .error (.parse error) → error.position ≤ text.length ∧
      ∃ marks, Token.row text = .ok marks ∧ ∃ m ∈ marks, m.position = error.position := by
  refine ⟨?_, fun _ => Token.placed_of_row, Grammar.rowStays,
    fun error h => ?_, fun error h => ?_⟩
  · cases read text with
    | ok e => exact .inl ⟨e, rfl⟩
    | error error =>
      cases error with
      | lex error => exact .inr (.inl ⟨error, rfl⟩)
      | parse error => exact .inr (.inr ⟨error, rfl⟩)
  · have hrow := read_eq_lex_iff.mp h
    exact ⟨hrow, Token.row_eq_error hrow⟩
  · obtain ⟨marks, hmarks, m, hm, hposition⟩ := mark_of_read_eq_parse h
    exact ⟨hposition ▸ (Token.placed_of_row hmarks).position_le hm, marks, hmarks, m, hm, hposition⟩

end Trigger.Expr
