import Trigger.Proofs.Grammar.Basic
import Trigger.Proofs.Outcome

/-!
# Trees that are read are derived

What each reader takes from the tokens makes up the tree that it returns, as the phrase that the
reader is for. The proof follows the recursion of the readers. The readers that go on from a tree
to their left are given a derivation of that tree and extend it.

A value of a query is followed by nothing that could extend it, so the query is not extended
either, although the reader of suffixes goes on after it.
-/

namespace Trigger.Grammar

/-- The tokens before the rest, which are some first ones of all, have lexemes with a property. -/
def Took (tokens rest : List Token) (P : List Lexeme → Prop) : Prop :=
  ∃ used, tokens = used ++ rest ∧ P (used.map (·.lexeme))

/-- No token that goes on with every chain comes next. -/
def Settled : List Token → Prop
  | [] => True
  | t :: _ => t.lexeme ≠ .colon ∧ t.lexeme ≠ .dot ∧ t.lexeme ≠ .openSquare

/-- A colon comes next. -/
def ColonNext : List Token → Prop
  | [] => False
  | t :: _ => t.lexeme = .colon

/-- Taking nothing. -/
theorem Took.none {tokens : List Token} {P : List Lexeme → Prop} (h : P []) :
    Took tokens tokens P :=
  ⟨[], rfl, h⟩

/-- Taking one token and then others. -/
theorem Took.cons {t : Token} {tokens rest : List Token} {P : List Lexeme → Prop}
    (h : Took tokens rest fun xs => P (t.lexeme :: xs)) : Took (t :: tokens) rest P := by
  obtain ⟨used, rfl, hP⟩ := h
  exact ⟨t :: used, rfl, hP⟩

/-- Taking some tokens and then others. -/
theorem Took.bind {tokens middle rest : List Token} {P Q : List Lexeme → Prop}
    (h : Took tokens middle P) (h' : ∀ xs, P xs → Took middle rest fun ys => Q (xs ++ ys)) :
    Took tokens rest Q := by
  obtain ⟨used, rfl, hP⟩ := h
  obtain ⟨more, rfl, hQ⟩ := h' _ hP
  exact ⟨used ++ more, by simp, by rwa [List.map_append]⟩

/-- The lexemes of what was taken have every property that follows from the known one. -/
theorem Took.mono {tokens rest : List Token} {P Q : List Lexeme → Prop} (h : Took tokens rest P)
    (himp : ∀ xs, P xs → Q xs) : Took tokens rest Q := by
  obtain ⟨used, rfl, hP⟩ := h
  exact ⟨used, rfl, himp _ hP⟩

variable {stop : Nat}

/-- A closing bracket that was asked for has been taken. -/
theorem took_of_close {b : Bracket} {tokens : List Token} {p : Parsed Unit tokens.length}
    (h : Expr.close stop b tokens = .ok p) : Took tokens p.rest (· = [closing b]) := by
  cases tokens with
  | nil => simp [Expr.close] at h
  | cons t rest =>
    rw [Expr.close] at h
    split at h
    · rename_i hclosed
      obtain rfl := Except.ok.inj h
      exact ⟨[t], rfl, by simpa using hclosed⟩
    · simp at h

/-- The path of a query is that of the tree to its left. -/
theorem fieldPath_eq_ok {position : Nat} {e : Expr} {field : String}
    (h : e.fieldPath position = .ok field) : e.fieldPath? = some field := by
  unfold Expr.fieldPath at h
  split at h
  · simp_all
  · simp at h

/-- Lexemes whose last one is no word for a test do not end in a point and such a word. -/
theorem not_endsInKeyword_concat {xs : List Lexeme} {x : Lexeme} (hx : ¬ StartsWithKeyword [x]) :
    ¬ EndsInKeyword (xs ++ [x]) := by
  intro hends
  obtain ⟨ys, op, spelling, h⟩ := hends
  have hlast : x = .keyword op spelling := by simpa using congrArg List.getLast? h
  exact hx ⟨op, spelling, [], by rw [hlast]⟩

/-- Lexemes that end in a bracket do not end in a point and a word for a test. -/
theorem not_endsInKeyword_closing {xs : List Lexeme} (bracket : Bracket) :
    ¬ EndsInKeyword (xs ++ [closing bracket]) := by
  refine not_endsInKeyword_concat fun hstarts => ?_
  obtain ⟨op, spelling, ys, h⟩ := hstarts
  cases bracket <;> exact nomatch h

/-- One lexeme does not end in a point and a word for a test. -/
theorem not_endsInKeyword_singleton (x : Lexeme) : ¬ EndsInKeyword [x] := by
  intro hends
  obtain ⟨ys, op, spelling, h⟩ := hends
  simpa using congrArg List.length h

/-- A primary expression does not end in a property. -/
theorem not_endsInKeyword_of_primary {xs : List Lexeme} {e : Expr} (h : Derives xs (.primary e)) :
    ¬ EndsInKeyword xs := by
  cases h with
  | constant c => exact not_endsInKeyword_singleton _
  | name => exact not_endsInKeyword_singleton _
  | round h => exact not_endsInKeyword_closing .round
  | square h => exact not_endsInKeyword_closing .square

/-- A tree that is no name has no suffix where no token goes on with every chain. -/
theorem parseSuffixes_of_settled {left : Expr} {tokens : List Token} (hname : left.isName = false)
    (h : Settled tokens) :
    Expr.parseSuffixes stop left tokens = .ok ⟨left, tokens, Nat.lt_succ_self _⟩ := by
  unfold Expr.parseSuffixes
  split <;> simp_all [Settled]

/-! ## What each reader keeps -/

variable (stop)

/-- The reader of rows takes rows. -/
def RowSound (k : Nat) (tokens : List Token) : Prop :=
  ∀ p, Expr.parseRank stop k tokens = .ok p → Took tokens p.rest (Derives · (.row k p.result))

/-- The reader of the rest of a row extends a row. -/
def MoreSound (k : Nat) (left : Expr) (tokens : List Token) : Prop :=
  ∀ xs, 0 < k → Derives xs (.row k left) → ∀ p, Expr.parseMore stop k left tokens = .ok p →
    Took tokens p.rest (fun ys => Derives (xs ++ ys) (.row k p.result))

/-- The reader of operands with signs takes them, and nothing that goes on with them is left. -/
def UnarySound (tokens : List Token) : Prop :=
  ∀ p, Expr.parseUnary stop tokens = .ok p →
    Settled p.rest ∧ Took tokens p.rest (Derives · (.row 0 p.result))

/-- The reader of operands takes them, and nothing that goes on with them is left. -/
def PostfixSound (tokens : List Token) : Prop :=
  ∀ p, Expr.parsePostfix stop tokens = .ok p →
    Settled p.rest ∧ Took tokens p.rest (Derives · (.postfixed p.result))

/-- The reader of suffixes extends a chain that may be extended by what comes next. -/
def SuffixesSound (left : Expr) (tokens : List Token) : Prop :=
  ∀ p, Expr.parseSuffixes stop left tokens = .ok p → Settled p.rest ∧
    ∀ xs, Derives xs (.chain left) → (EndsInKeyword xs → ¬ ColonNext tokens) →
      Took tokens p.rest fun ys => Derives (xs ++ ys) (.postfixed p.result)

/-- The reader of what follows a property extends the chain with the property. -/
def PropertySound (obj : Expr) (property : String) (tokens : List Token) : Prop :=
  ∀ p, Expr.parseProperty stop obj property tokens = .ok p → Settled p.rest ∧
    ∀ xs x, Derives xs (.chain obj) → Names x property →
      (StartsWithKeyword [x] → ¬ ColonNext tokens) →
        Took tokens p.rest fun ys => Derives (xs ++ .dot :: x :: ys) (.postfixed p.result)

/-- The reader of primary expressions takes them. -/
def PrimarySound (tokens : List Token) : Prop :=
  ∀ p, Expr.parsePrimary stop tokens = .ok p → Took tokens p.rest (Derives · (.primary p.result))

/-- The reader of lists takes a list and the closing bracket. -/
def ListSound (b : Bracket) (tokens : List Token) : Prop :=
  ∀ p, Expr.parseList stop b tokens = .ok p →
    Took tokens p.rest (∃ zs, · = zs ++ [closing b] ∧ Derives zs (.list b p.result))

/-- The reader of items takes some items and the closing bracket. -/
def ItemsSound (b : Bracket) (tokens : List Token) : Prop :=
  ∀ p, Expr.parseItems stop b tokens = .ok p →
    Took tokens p.rest (∃ zs, · = zs ++ [closing b] ∧ Derives zs (.items b p.result))

/-- The reader of an item takes one. -/
def ItemSound (b : Bracket) (tokens : List Token) : Prop :=
  ∀ p, Expr.parseItem stop b tokens = .ok p → Took tokens p.rest (Derives · (.item b p.result))

variable {stop}

/-! ## Rows -/

/-- Rows of rank zero are operands with signs. -/
theorem rowSound_zero {tokens : List Token} (h : UnarySound stop tokens) :
    RowSound stop 0 tokens := by
  intro p hp
  rw [Expr.parseRank] at hp
  exact (h p hp).2

/-- A row starts with a row of the next smaller rank. -/
theorem rowSound_succ {k : Nat} {tokens : List Token} (h : RowSound stop k tokens)
    (hmore : ∀ left : Parsed Expr tokens.length, MoreSound stop (k + 1) left.result left.rest) :
    RowSound stop (k + 1) tokens := by
  intro p hp
  rw [Expr.parseRank] at hp
  obtain ⟨left, hleft, hp⟩ := bind_eq_ok_iff.mp hp
  obtain ⟨all, hall, hp⟩ := bind_eq_ok_iff.mp hp
  obtain rfl := Except.ok.inj hp
  exact (h left hleft).bind fun xs hxs => hmore left xs (Nat.succ_pos k) (.operand hxs) all hall

/-- A row ends where no connective comes next. -/
theorem moreSound_of_stop {k : Nat} {left : Expr} {tokens : List Token}
    (h : Expr.parseMore stop k left tokens = .ok ⟨left, tokens, Nat.lt_succ_self _⟩) :
    MoreSound stop k left tokens := by
  intro xs _ hxs p hp
  obtain rfl := Except.ok.inj (h.symm.trans hp)
  exact Took.none (by simpa using hxs)

/-- A row grows by a connective of its rank and a row of the rank before. -/
theorem derives_join {k : Nat} {xs ys : List Lexeme} {x : Lexeme} {c : Connective} {a b : Expr}
    (hleft : Derives xs (.row k a)) (hjoin : Joins k x c) (hright : Derives ys (.row (k - 1) b)) :
    Derives (xs ++ x :: ys) (.row k (c.join a b)) := by
  obtain ⟨k, rfl⟩ : ∃ j, k = j + 1 := ⟨k - 1, by have := (joins_iff.mp hjoin).2.2; omega⟩
  exact .join hleft hjoin hright

/-- A row goes on with a connective of its rank and an operand. -/
theorem moreSound_join {left : Expr} {t : Token} {rest : List Token} {c : Connective}
    (hc : t.lexeme.connective? = some c) (h : RowSound stop (c.rank - 1) rest)
    (hmore : ∀ right : Parsed Expr rest.length,
      MoreSound stop c.rank (c.join left right.result) right.rest) :
    MoreSound stop c.rank left (t :: rest) := by
  intro xs hrank hxs p hp
  rw [Expr.parseMore] at hp
  simp only [hc, if_true] at hp
  obtain ⟨right, hright, hp⟩ := bind_eq_ok_iff.mp hp
  obtain ⟨all, hall, hp⟩ := bind_eq_ok_iff.mp hp
  obtain rfl := Except.ok.inj hp
  have hjoin : Joins c.rank t.lexeme c := joins_iff.mpr ⟨hc, rfl, hrank⟩
  refine Took.cons ((h right hright).bind fun ys hys => ?_)
  simpa using hmore right _ hrank (derives_join hxs hjoin hys) all hall

/-! ## Operands -/

/-- A sign in front of an operand. -/
theorem unarySound_sign {t : Token} {rest : List Token} {op : UnaryOperator}
    (hop : t.lexeme.unary? = some op) (h : UnarySound stop rest) : UnarySound stop (t :: rest) := by
  intro p hp
  rw [Expr.parseUnary] at hp
  simp only [hop] at hp
  obtain ⟨operand, hoperand, hp⟩ := bind_eq_ok_iff.mp hp
  obtain rfl := Except.ok.inj hp
  obtain ⟨hsettled, htook⟩ := h operand hoperand
  exact ⟨hsettled, Took.cons (htook.mono fun _ hxs => .sign (signs_iff.mpr hop) hxs)⟩

/-- An operand without a sign. -/
theorem unarySound_of_postfix {tokens : List Token} (h : PostfixSound stop tokens)
    (heq : Expr.parseUnary stop tokens = Expr.parsePostfix stop tokens) :
    UnarySound stop tokens := by
  intro p hp
  obtain ⟨hsettled, htook⟩ := h p (heq ▸ hp)
  exact ⟨hsettled, htook.mono fun _ => .unsigned⟩

/-- An operand is a primary expression with suffixes. -/
theorem postfixSound {tokens : List Token} (h : PrimarySound stop tokens)
    (hsuffixes : ∀ left : Parsed Expr tokens.length, SuffixesSound stop left.result left.rest) :
    PostfixSound stop tokens := by
  intro p hp
  rw [Expr.parsePostfix] at hp
  obtain ⟨left, hleft, hp⟩ := bind_eq_ok_iff.mp hp
  obtain ⟨all, hall, hp⟩ := bind_eq_ok_iff.mp hp
  obtain rfl := Except.ok.inj hp
  obtain ⟨hsettled, hmore⟩ := hsuffixes left all hall
  exact ⟨hsettled, (h left hleft).bind fun xs hxs =>
    hmore xs (.start hxs) (absurd · (not_endsInKeyword_of_primary hxs))⟩

/-! ## Suffixes -/

/-- A chain to which nothing is added is an operand. -/
theorem suffixesSound_of_stop {left : Expr} {tokens : List Token}
    (h : Expr.parseSuffixes stop left tokens = .ok ⟨left, tokens, Nat.lt_succ_self _⟩)
    (hsettled : Settled tokens) : SuffixesSound stop left tokens := by
  intro p hp
  obtain rfl := Except.ok.inj (h.symm.trans hp)
  exact ⟨hsettled, fun xs hxs _ => Took.none (.alone (by simpa using hxs))⟩

/-- What the value of a query leaves is left when the query has been read. -/
theorem took_queryValue {field : String} {op : QueryOperator} {rest : List Token}
    (h : UnarySound stop rest) {value : Parsed Expr rest.length}
    (hvalue : Expr.parseUnary stop rest = .ok value) {all : Parsed Expr (value.rest.length + 1)}
    (hall : Expr.parseSuffixes stop (.query field op value.result) value.rest = .ok all) :
    all.result = .query field op value.result ∧ Settled all.rest ∧
      Took rest all.rest (Derives · (.row 0 value.result)) := by
  obtain ⟨hsettled, htook⟩ := h value hvalue
  rw [parseSuffixes_of_settled rfl hsettled] at hall
  obtain rfl := Except.ok.inj hall
  exact ⟨rfl, hsettled, htook⟩

/-- A query with a test after the colon. -/
theorem suffixesSound_queryColon {left : Expr} {position position' : Nat} {op : QueryOperator}
    {spelling : String} {rest : List Token} (h : UnarySound stop rest) :
    SuffixesSound stop left (⟨.colon, position⟩ :: ⟨.keyword op spelling, position'⟩ :: rest) := by
  intro p hp
  rw [Expr.parseSuffixes] at hp
  obtain ⟨field, hfield, hp⟩ := bind_eq_ok_iff.mp hp
  obtain ⟨value, hvalue, hp⟩ := bind_eq_ok_iff.mp hp
  obtain ⟨all, hall, hp⟩ := bind_eq_ok_iff.mp hp
  obtain rfl := Except.ok.inj hp
  obtain ⟨hresult, hsettled, htook⟩ := took_queryValue h hvalue hall
  refine ⟨hsettled, fun xs hxs hend => Took.cons (Took.cons (htook.mono fun ys hys => ?_))⟩
  exact hresult ▸ .queryColon hxs (hend · rfl) (fieldPath_eq_ok hfield) hys

/-- A query without a test. -/
theorem suffixesSound_query {left : Expr} {position : Nat} {rest : List Token}
    (hrest : ∀ op spelling position rest', rest = ⟨.keyword op spelling, position⟩ :: rest' → False)
    (h : UnarySound stop rest) : SuffixesSound stop left (⟨.colon, position⟩ :: rest) := by
  intro p hp
  rw [Expr.parseSuffixes.eq_2 _ _ _ _ hrest] at hp
  obtain ⟨field, hfield, hp⟩ := bind_eq_ok_iff.mp hp
  obtain ⟨value, hvalue, hp⟩ := bind_eq_ok_iff.mp hp
  obtain ⟨all, hall, hp⟩ := bind_eq_ok_iff.mp hp
  obtain rfl := Except.ok.inj hp
  obtain ⟨hresult, hsettled, used, hused, hys⟩ := took_queryValue h hvalue hall
  have hstart : ¬ StartsWithKeyword (used.map (·.lexeme)) := by
    intro hstarts
    obtain ⟨op, spelling, ys, hmap⟩ := hstarts
    obtain ⟨t, used, rfl, ht, -⟩ := List.map_eq_cons_iff.mp hmap
    exact hrest op spelling t.position (used ++ all.rest) (hused.trans (by rw [← ht]; rfl))
  refine ⟨hsettled, fun xs hxs hend => Took.cons ⟨used, hused, ?_⟩⟩
  exact hresult ▸ .query hxs (hend · rfl) (fieldPath_eq_ok hfield) hys hstart

/-- A query with a test before the colon. -/
theorem suffixesSound_queryDot {left : Expr} {position position' position'' : Nat}
    {op : QueryOperator} {spelling : String} {rest : List Token} (h : UnarySound stop rest) :
    SuffixesSound stop left
      (⟨.dot, position⟩ :: ⟨.keyword op spelling, position'⟩ :: ⟨.colon, position''⟩ :: rest) := by
  intro p hp
  rw [Expr.parseSuffixes] at hp
  obtain ⟨field, hfield, hp⟩ := bind_eq_ok_iff.mp hp
  obtain ⟨value, hvalue, hp⟩ := bind_eq_ok_iff.mp hp
  obtain ⟨all, hall, hp⟩ := bind_eq_ok_iff.mp hp
  obtain rfl := Except.ok.inj hp
  obtain ⟨hresult, hsettled, htook⟩ := took_queryValue h hvalue hall
  refine ⟨hsettled, fun xs hxs _ => Took.cons (Took.cons (Took.cons (htook.mono fun ys hys => ?_)))⟩
  exact hresult ▸ .queryDot hxs (fieldPath_eq_ok hfield) hys

/-- A property whose name is a word for a test, which no colon follows. -/
theorem suffixesSound_keyword {left : Expr} {position position' : Nat} {op : QueryOperator}
    {spelling : String} {rest : List Token}
    (hrest : ∀ position rest', rest = ⟨.colon, position⟩ :: rest' → False)
    (h : PropertySound stop left spelling rest) :
    SuffixesSound stop left (⟨.dot, position⟩ :: ⟨.keyword op spelling, position'⟩ :: rest) := by
  intro p hp
  rw [Expr.parseSuffixes.eq_4 _ _ _ _ _ _ _ hrest] at hp
  obtain ⟨all, hall, hp⟩ := bind_eq_ok_iff.mp hp
  obtain rfl := Except.ok.inj hp
  have hcolon : ¬ ColonNext rest := by
    intro hnext
    cases rest with
    | nil => exact hnext
    | cons t rest => exact hrest t.position rest (by rw [← hnext])
  obtain ⟨hsettled, hmore⟩ := h all hall
  exact ⟨hsettled, fun xs hxs _ =>
    Took.cons (Took.cons (hmore xs _ hxs (.keyword op spelling) fun _ => hcolon))⟩

/-- A property with another name. -/
theorem suffixesSound_name {left : Expr} {position position' : Nat} {x : String}
    {rest : List Token} (h : PropertySound stop left x rest) :
    SuffixesSound stop left (⟨.dot, position⟩ :: ⟨.name x, position'⟩ :: rest) := by
  intro p hp
  rw [Expr.parseSuffixes] at hp
  obtain ⟨all, hall, hp⟩ := bind_eq_ok_iff.mp hp
  obtain rfl := Except.ok.inj hp
  obtain ⟨hsettled, hmore⟩ := h all hall
  have hx : ¬ StartsWithKeyword [Lexeme.name x] := by simp [StartsWithKeyword]
  exact ⟨hsettled, fun xs hxs _ => Took.cons (Took.cons (hmore xs _ hxs (.name x) (absurd · hx)))⟩

/-- A point without a name is read as nothing. -/
theorem suffixesSound_dot {left : Expr} {position : Nat} {rest : List Token}
    (h : ∀ op spelling position position' rest',
      rest = ⟨.keyword op spelling, position⟩ :: ⟨.colon, position'⟩ :: rest' → False)
    (h' : ∀ op spelling position rest', rest = ⟨.keyword op spelling, position⟩ :: rest' → False)
    (h'' : ∀ x position rest', rest = ⟨.name x, position⟩ :: rest' → False) :
    SuffixesSound stop left (⟨.dot, position⟩ :: rest) := by
  intro p hp
  rw [Expr.parseSuffixes.eq_6 _ _ _ _ h h' h''] at hp
  cases hp

/-- A member whose key is computed. -/
theorem suffixesSound_index {left : Expr} {position : Nat} {rest : List Token}
    (h : RowSound stop Connective.loosest rest)
    (hmore : ∀ (key : Parsed Expr rest.length) (closed : Parsed Unit key.rest.length),
      SuffixesSound stop (.index left key.result) closed.rest) :
    SuffixesSound stop left (⟨.openSquare, position⟩ :: rest) := by
  intro p hp
  rw [Expr.parseSuffixes] at hp
  obtain ⟨key, hkey, hp⟩ := bind_eq_ok_iff.mp hp
  obtain ⟨closed, hclosed, hp⟩ := bind_eq_ok_iff.mp hp
  obtain ⟨all, hall, hp⟩ := bind_eq_ok_iff.mp hp
  obtain rfl := Except.ok.inj hp
  obtain ⟨hsettled, hmore⟩ := hmore key closed all hall
  refine ⟨hsettled, fun xs hxs _ => Took.cons ((h key hkey).bind fun ys hys => ?_)⟩
  refine (took_of_close hclosed).bind fun zs hzs => ?_
  have hend : ¬ EndsInKeyword (xs ++ .openSquare :: ys ++ [.closeSquare]) :=
    not_endsInKeyword_closing .square
  simpa [hzs, closing] using hmore _ (.index hxs hys) (absurd · hend)

/-- A call of a name. -/
theorem suffixesSound_call {left : Expr} {position : Nat} {rest : List Token}
    (hname : left.isName = true) (h : ListSound stop .round rest)
    (hmore : ∀ args : Parsed (List Expr) rest.length,
      SuffixesSound stop (.call left args.result) args.rest) :
    SuffixesSound stop left (⟨.openRound, position⟩ :: rest) := by
  intro p hp
  rw [Expr.parseSuffixes] at hp
  simp only [hname, if_true] at hp
  obtain ⟨args, hargs, hp⟩ := bind_eq_ok_iff.mp hp
  obtain ⟨all, hall, hp⟩ := bind_eq_ok_iff.mp hp
  obtain rfl := Except.ok.inj hp
  obtain ⟨hsettled, hmore⟩ := hmore args all hall
  refine ⟨hsettled, fun xs hxs _ => Took.cons ((h args hargs).bind ?_)⟩
  intro zs hzs
  obtain ⟨ys, rfl, hys⟩ := hzs
  have hend : ¬ EndsInKeyword (xs ++ .openRound :: ys ++ [.closeRound]) :=
    not_endsInKeyword_closing .round
  cases left with
  | name f => simpa [closing] using hmore _ (.call hxs hys) (absurd · hend)
  | _ => simp [Expr.isName] at hname

/-- A property that is called. -/
theorem propertySound_call {obj : Expr} {property : String} {position : Nat} {rest : List Token}
    (h : ListSound stop .round rest)
    (hmore : ∀ args : Parsed (List Expr) rest.length,
      SuffixesSound stop (.call (.member obj property) args.result) args.rest) :
    PropertySound stop obj property (⟨.openRound, position⟩ :: rest) := by
  intro p hp
  rw [Expr.parseProperty] at hp
  obtain ⟨args, hargs, hp⟩ := bind_eq_ok_iff.mp hp
  obtain ⟨all, hall, hp⟩ := bind_eq_ok_iff.mp hp
  obtain rfl := Except.ok.inj hp
  obtain ⟨hsettled, hmore⟩ := hmore args all hall
  refine ⟨hsettled, fun xs x hxs hx _ => Took.cons ((h args hargs).bind ?_)⟩
  intro zs hzs
  obtain ⟨ys, rfl, hys⟩ := hzs
  have hend : ¬ EndsInKeyword (xs ++ .dot :: x :: .openRound :: ys ++ [.closeRound]) :=
    not_endsInKeyword_closing .round
  simpa [closing] using hmore _ (.method hxs hx hys) (absurd · hend)

/-- A property that is not called. -/
theorem propertySound_of_suffixes {obj : Expr} {property : String} {tokens : List Token}
    (htokens : ∀ position rest, tokens = ⟨.openRound, position⟩ :: rest → False)
    (h : SuffixesSound stop (.member obj property) tokens) :
    PropertySound stop obj property tokens := by
  intro p hp
  rw [Expr.parseProperty.eq_2 _ _ _ _ htokens] at hp
  obtain ⟨hsettled, hmore⟩ := h p hp
  refine ⟨hsettled, fun xs x hxs hx hcolon => ?_⟩
  have hend (h : EndsInKeyword (xs ++ [.dot, x])) : ¬ ColonNext tokens := by
    obtain ⟨ys, op, spelling, h⟩ := h
    have hlast : x = .keyword op spelling := by simpa using congrArg List.getLast? h
    exact hcolon ⟨op, spelling, [], by rw [hlast]⟩
  simpa using hmore _ (.property hxs hx) hend

/-! ## Primary expressions and lists -/

/-- A primary expression of one lexeme. -/
theorem primarySound_single {t : Token} {rest : List Token} {e : Expr}
    (h : Derives [t.lexeme] (.primary e))
    (heq : Expr.parsePrimary stop (t :: rest) = .ok ⟨e, rest, Nat.lt_succ_self _⟩) :
    PrimarySound stop (t :: rest) := by
  intro p hp
  obtain rfl := Except.ok.inj (heq.symm.trans hp)
  exact Took.cons (Took.none h)

/-- An expression in round brackets. -/
theorem primarySound_round {position : Nat} {rest : List Token}
    (h : RowSound stop Connective.loosest rest) :
    PrimarySound stop (⟨.openRound, position⟩ :: rest) := by
  intro p hp
  rw [Expr.parsePrimary] at hp
  obtain ⟨inner, hinner, hp⟩ := bind_eq_ok_iff.mp hp
  obtain ⟨closed, hclosed, hp⟩ := bind_eq_ok_iff.mp hp
  obtain rfl := Except.ok.inj hp
  refine Took.cons ((h inner hinner).bind fun ys hys => (took_of_close hclosed).mono ?_)
  intro zs hzs
  subst hzs
  exact .round hys

/-- A list in square brackets. -/
theorem primarySound_square {position : Nat} {rest : List Token} (h : ListSound stop .square rest) :
    PrimarySound stop (⟨.openSquare, position⟩ :: rest) := by
  intro p hp
  rw [Expr.parsePrimary] at hp
  obtain ⟨items, hitems, hp⟩ := bind_eq_ok_iff.mp hp
  obtain rfl := Except.ok.inj hp
  refine Took.cons ((h items hitems).mono ?_)
  intro zs hzs
  obtain ⟨ys, rfl, hys⟩ := hzs
  exact .square hys

/-- A list without items. -/
theorem listSound_closed {b : Bracket} {t : Token} {rest : List Token}
    (ht : b.isClosedBy t.lexeme = true) : ListSound stop b (t :: rest) := by
  intro p hp
  rw [Expr.parseList] at hp
  simp only [ht, if_true] at hp
  obtain rfl := Except.ok.inj hp
  exact Took.cons (Took.none ⟨[], by simpa using ht, .noItems b⟩)

/-- A list with items. -/
theorem listSound_of_items {b : Bracket} {tokens : List Token} (h : ItemsSound stop b tokens)
    (heq : Expr.parseList stop b tokens = Expr.parseItems stop b tokens) :
    ListSound stop b tokens := by
  intro p hp
  refine (h p (heq ▸ hp)).mono ?_
  intro zs hzs
  obtain ⟨ys, rfl, hys⟩ := hzs
  exact ⟨ys, rfl, .someItems hys⟩

/-- An item, and more of them after a comma. -/
theorem itemsSound {b : Bracket} {tokens : List Token} (h : ItemSound stop b tokens)
    (hmore : ∀ (item : Parsed Expr tokens.length) (position : Nat) (rest : List Token),
      item.rest = ⟨.comma, position⟩ :: rest → ItemsSound stop b rest) :
    ItemsSound stop b tokens := by
  intro p hp
  rw [Expr.parseItems] at hp
  obtain ⟨item, hitem, hp⟩ := bind_eq_ok_iff.mp hp
  refine (h item hitem).bind fun xs hxs => ?_
  split at hp
  · rename_i position rest hrest
    obtain ⟨more, hmore', hp⟩ := bind_eq_ok_iff.mp hp
    obtain rfl := Except.ok.inj hp
    obtain ⟨used, hused, ys, hmap, hys⟩ := hmore item position rest hrest more hmore'
    refine ⟨⟨.comma, position⟩ :: used, hrest.trans (congrArg _ hused), ?_⟩
    exact ⟨xs ++ .comma :: ys, by simp [hmap], .moreItems hxs hys⟩
  · obtain ⟨closed, hclosed, hp⟩ := bind_eq_ok_iff.mp hp
    obtain rfl := Except.ok.inj hp
    refine (took_of_close hclosed).mono ?_
    intro zs hzs
    subst hzs
    exact ⟨xs, rfl, .lastItem hxs⟩

/-- An item that is a row. -/
theorem itemSound_of_row {b : Bracket} {tokens : List Token}
    (h : RowSound stop Connective.loosest tokens)
    (heq : Expr.parseItem stop b tokens = Expr.parseRank stop Connective.loosest tokens) :
    ItemSound stop b tokens := by
  intro p hp
  exact (h p (heq ▸ hp)).mono fun _ => .plain

/-- An arrow function whose parameter has no brackets. -/
theorem itemSound_arrow {x : String} {p₁ p₂ : Nat} {rest : List Token}
    (h : RowSound stop Connective.loosest rest) :
    ItemSound stop .round (⟨.name x, p₁⟩ :: ⟨.doubleArrow, p₂⟩ :: rest) := by
  intro p hp
  rw [Expr.parseItem] at hp
  obtain ⟨body, hbody, hp⟩ := bind_eq_ok_iff.mp hp
  obtain rfl := Except.ok.inj hp
  exact Took.cons (Took.cons ((h body hbody).mono fun _ => .arrow))

/-- An arrow function whose parameter stands in brackets. -/
theorem itemSound_arrowRound {x : String} {p₁ p₂ p₃ p₄ : Nat} {rest : List Token}
    (h : RowSound stop Connective.loosest rest) :
    ItemSound stop .round
      (⟨.openRound, p₁⟩ :: ⟨.name x, p₂⟩ :: ⟨.closeRound, p₃⟩ :: ⟨.doubleArrow, p₄⟩ :: rest) := by
  intro p hp
  rw [Expr.parseItem] at hp
  obtain ⟨body, hbody, hp⟩ := bind_eq_ok_iff.mp hp
  obtain rfl := Except.ok.inj hp
  exact Took.cons (Took.cons (Took.cons (Took.cons ((h body hbody).mono fun _ => .arrowRound))))

/-! ## All readers together -/

/-- Every row that is read is derived. -/
theorem rowSound (k : Nat) (tokens : List Token) : RowSound stop k tokens := by
  refine (Expr.parseRank.mutual_induct (RowSound stop) (MoreSound stop) (UnarySound stop)
    (PostfixSound stop) (SuffixesSound stop) (ListSound stop) (ItemsSound stop) (ItemSound stop)
    (PropertySound stop) (PrimarySound stop) ?_ ?_ ?_ ?_ ?_ ?_ ?_ ?_ ?_ ?_ ?_ ?_ ?_ ?_ ?_ ?_ ?_ ?_
    ?_ ?_ ?_ ?_ ?_ ?_ ?_ ?_ ?_ ?_ ?_ ?_ ?_ ?_ ?_ ?_ ?_ ?_).1 k tokens
  -- Rows and the rest of rows.
  · exact fun _ => rowSound_zero
  · exact fun _ _ => rowSound_succ
  · exact fun _ _ => moreSound_of_stop (by rw [Expr.parseMore])
  · exact fun _ _ t rest ht => moreSound_of_stop (by rw [Expr.parseMore]; simp only [ht])
  · exact fun _ _ _ _ => moreSound_join
  · exact fun _ _ t rest c hc hrank =>
      moreSound_of_stop (by rw [Expr.parseMore]; simp only [hc, hrank, if_false])
  -- Operands.
  · exact fun h => unarySound_of_postfix h (by rw [Expr.parseUnary])
  · exact fun _ _ _ => unarySound_sign
  · exact fun t rest ht h => unarySound_of_postfix h (by rw [Expr.parseUnary]; simp only [ht])
  · exact fun _ => postfixSound
  -- Suffixes.
  · exact fun _ _ _ _ _ _ h _ => suffixesSound_queryColon h
  · exact fun _ _ _ hrest h _ => suffixesSound_query hrest h
  · exact fun _ _ _ _ _ _ _ h _ => suffixesSound_queryDot h
  · exact fun _ _ _ _ _ _ => suffixesSound_keyword
  · exact fun _ _ _ _ _ => suffixesSound_name
  · exact fun _ _ _ => suffixesSound_dot
  · exact fun _ _ _ => suffixesSound_index
  · exact fun _ _ _ => suffixesSound_call
  · exact fun left position rest hname =>
      suffixesSound_of_stop
        (by rw [Expr.parseSuffixes]; simp only [hname, Bool.false_eq_true, if_false])
        (by simp [Settled])
  · intro left tokens h₁ h₂ h₃ h₄ h₅ h₆ h₇ h₈
    refine suffixesSound_of_stop (Expr.parseSuffixes.eq_9 _ _ _ h₁ h₂ h₃ h₄ h₅ h₆ h₇ h₈) ?_
    cases tokens with
    | nil => trivial
    | cons t rest =>
      exact ⟨fun h => h₂ t.position rest (by rw [← h]), fun h => h₆ t.position rest (by rw [← h]),
        fun h => h₇ t.position rest (by rw [← h])⟩
  -- Lists.
  · exact fun _ h => listSound_of_items h (by rw [Expr.parseList])
  · exact fun _ _ _ => listSound_closed
  · exact fun b t rest ht h =>
      listSound_of_items h
        (by rw [Expr.parseList]; simp only [ht, Bool.false_eq_true, if_false])
  · exact fun _ _ => itemsSound
  · exact fun _ _ _ _ => itemSound_arrow
  · exact fun _ _ _ _ _ _ => itemSound_arrowRound
  · exact fun b tokens h₁ h₂ h => itemSound_of_row h (Expr.parseItem.eq_3 _ _ _ h₁ h₂)
  -- Properties.
  · exact fun _ _ _ _ => propertySound_call
  · exact fun _ _ _ => propertySound_of_suffixes
  -- Primary expressions.
  · intro p hp
    rw [Expr.parsePrimary] at hp
    cases hp
  · exact fun c position rest => primarySound_single (.constant c) (by rw [Expr.parsePrimary])
  · exact fun x position rest => primarySound_single (.name (.name x)) (by rw [Expr.parsePrimary])
  · exact fun op spelling position rest =>
      primarySound_single (.name (.keyword op spelling)) (by rw [Expr.parsePrimary])
  · exact fun _ _ => primarySound_round
  · exact fun _ _ => primarySound_square
  · intro t rest h₁ h₂ h₃ h₄ h₅ p hp
    rw [Expr.parsePrimary.eq_7 _ _ _ h₁ h₂ h₃ h₄ h₅] at hp
    cases hp

/-- Tokens that are read as an expression derive it. -/
theorem derives_of_ofTokens {tokens : List Token} {e : Expr}
    (h : Expr.ofTokens stop tokens = .ok e) : Derives (tokens.map (·.lexeme)) (.row 6 e) := by
  rw [Expr.ofTokens] at h
  obtain ⟨p, hp, h⟩ := bind_eq_ok_iff.mp h
  obtain ⟨used, htokens, hused⟩ := rowSound _ tokens p hp
  split at h
  · rename_i hrest
    obtain rfl := Except.ok.inj h
    rw [hrest, List.append_nil] at htokens
    exact htokens ▸ hused
  · cases h

end Trigger.Grammar
