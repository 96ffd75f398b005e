import Trigger.Proofs.Grammar.Soundness

/-!
# Trees that are derived are read

Every phrase that lexemes derive is read from tokens with these lexemes, wherever they stand: the
readers take exactly the tokens of the phrase, provided that the token behind them does not go on
with it. A row and a chain can be extended, so for these the statement is that reading them and
what follows comes to reading what follows with the tree of the row or chain to the left.

An item of a list that is no arrow function is not mistaken for one, because its first name or its
first name in brackets would be read alone, and an arrow would then be left behind the item.
-/

namespace Trigger.Grammar

/-- A reader returns a result and leaves the given rest. -/
def Yields {α : Type} {n : Nat} (x : Except ParseError (Parsed α n)) (a : α) (rest : List Token) :
    Prop :=
  ∃ hfewer, x = .ok ⟨a, rest, hfewer⟩

/-- A bracket opens next. -/
def OpenNext : List Token → Prop
  | [] => False
  | t :: _ => t.lexeme = .openRound

/-- The next token neither goes on with a chain nor joins operands in a class up to a rank. -/
def Halts (k : Nat) : List Token → Prop
  | [] => True
  | t :: rest => Settled (t :: rest) ∧ t.lexeme ≠ .openRound ∧
      ∀ j ≤ k, ∀ c, ¬ Joins j t.lexeme c

/-- The lexemes that a primary expression can start with. -/
def Opens : Lexeme → Prop
  | .constant _ => True
  | .name _ => True
  | .keyword .. => True
  | .openRound => True
  | .openSquare => True
  | _ => False

/-- There is a first lexeme, and it has a property. -/
def HeadIs (P : Lexeme → Prop) : List Lexeme → Prop
  | [] => False
  | x :: _ => P x

/-- The lexemes of a phrase, unless it is a list, start with one that can open it. -/
def StartsRight : Phrase → List Lexeme → Prop
  | .list .. => fun _ => True
  | .row .. | .items .. | .item .. => HeadIs fun x => Opens x ∨ x.unary?.isSome
  | .postfixed _ | .chain _ | .primary _ => HeadIs Opens

variable {stop : Nat}

/-! ## Results of readers -/

/-- A reader has one result and leaves one rest. -/
theorem Yields.unique {α : Type} {n : Nat} {x : Except ParseError (Parsed α n)} {a b : α}
    {r r' : List Token} (h : Yields x a r) (h' : Yields x b r') : a = b ∧ r = r' := by
  obtain ⟨_, rfl⟩ := h
  obtain ⟨_, h'⟩ := h'
  simpa using h'

/-- A result that is returned. -/
theorem Yields.pure {α : Type} {n : Nat} (p : Parsed α n) :
    Yields (Pure.pure p) p.result p.rest :=
  ⟨p.fewer, rfl⟩

/-- A reader that goes on after another one. -/
theorem Yields.bind {α β : Type} {m n : Nat} {x : Except ParseError (Parsed α m)} {a : α}
    {r r' : List Token} {f : Parsed α m → Except ParseError (Parsed β n)} {b : β}
    (h : Yields x a r) (hf : ∀ hfewer, Yields (f ⟨a, r, hfewer⟩) b r') : Yields (x >>= f) b r' := by
  obtain ⟨hfewer, rfl⟩ := h
  exact hf hfewer

/-- A closing bracket is taken. -/
theorem yields_close {b : Bracket} {position : Nat} {rest : List Token} :
    Yields (Expr.close stop b (⟨closing b, position⟩ :: rest)) () rest := by
  rw [Expr.close, if_pos (by simp)]
  exact ⟨_, rfl⟩

/-! ## Where readers stop -/

/-- Where a row of some rank stops, a row of a smaller rank does too. -/
theorem Halts.mono {j k : Nat} {rest : List Token} (h : Halts k rest) (hjk : j ≤ k) :
    Halts j rest := by
  cases rest with
  | nil => trivial
  | cons t rest => exact ⟨h.1, h.2.1, fun i hi => h.2.2 i (Nat.le_trans hi hjk)⟩

/-- A token that joins nothing and goes on with no chain ends every row. -/
theorem halts_of_connective_eq_none {t : Token} {rest : List Token} (k : Nat)
    (hsettled : Settled (t :: rest)) (hround : t.lexeme ≠ .openRound)
    (h : t.lexeme.connective? = none) : Halts k (t :: rest) :=
  ⟨hsettled, hround, fun _ _ _ hjoin => by simp [(joins_iff.mp hjoin).1] at h⟩

/-- A row of some rank ends before a connective of the next rank. -/
theorem halts_of_joins {k : Nat} {t : Token} {rest : List Token} {c : Connective}
    (h : Joins (k + 1) t.lexeme c) : Halts k (t :: rest) := by
  obtain ⟨hc, hrank, -⟩ := joins_iff.mp h
  have hkind : Settled (t :: rest) ∧ t.lexeme ≠ .openRound := by
    obtain ⟨x, position⟩ := t
    cases h <;> simp [Settled]
  refine ⟨hkind.1, hkind.2, fun j hj c' hjoin => ?_⟩
  obtain ⟨hc', hrank', -⟩ := joins_iff.mp hjoin
  obtain rfl : c = c' := Option.some.inj (hc.symm.trans hc')
  omega

/-- No row of a rank goes on where such rows halt. -/
theorem yields_parseMore_of_halts {k : Nat} {left : Expr} {rest : List Token}
    (h : Halts (k + 1) rest) : Yields (Expr.parseMore stop (k + 1) left rest) left rest := by
  cases rest with
  | nil => rw [Expr.parseMore]; exact ⟨_, rfl⟩
  | cons t rest =>
    rw [Expr.parseMore]
    split
    · exact ⟨_, rfl⟩
    · rename_i c hc
      have hrank : c.rank ≠ k + 1 := fun hrank =>
        h.2.2 (k + 1) (Nat.le_refl _) c (joins_iff.mpr ⟨hc, hrank, Nat.succ_pos k⟩)
      rw [if_neg hrank]
      exact ⟨_, rfl⟩

/-- No chain goes on where rows halt. -/
theorem yields_parseSuffixes_of_halts {k : Nat} {left : Expr} {rest : List Token}
    (h : Halts k rest) : Yields (Expr.parseSuffixes stop left rest) left rest := by
  unfold Expr.parseSuffixes
  split
  case h_9 => exact ⟨_, rfl⟩
  all_goals simp [Halts, Settled] at h

/-- A row of a greater rank starts with a row of the rank before. -/
theorem yields_parseRank_succ {k : Nat} {tokens rest rest' : List Token} {a b : Expr}
    (h : Yields (Expr.parseRank stop k tokens) a rest)
    (hmore : Yields (Expr.parseMore stop (k + 1) a rest) b rest') :
    Yields (Expr.parseRank stop (k + 1) tokens) b rest' := by
  rw [Expr.parseRank]
  exact h.bind fun _ => hmore.bind fun _ => Yields.pure _

/-- A primary expression is read together with its suffixes. -/
theorem yields_parsePostfix {tokens rest rest' : List Token} {a b : Expr}
    (h : Yields (Expr.parsePrimary stop tokens) a rest)
    (hmore : Yields (Expr.parseSuffixes stop a rest) b rest') :
    Yields (Expr.parsePostfix stop tokens) b rest' := by
  rw [Expr.parsePostfix]
  exact h.bind fun _ => hmore.bind fun _ => Yields.pure _

/-- Without a sign in front, an operand is read as a primary expression with suffixes. -/
theorem parseUnary_of_unsigned {tokens : List Token}
    (h : ∀ t rest, tokens = t :: rest → t.lexeme.unary? = none) :
    Expr.parseUnary stop tokens = Expr.parsePostfix stop tokens := by
  cases tokens with
  | nil => rw [Expr.parseUnary]
  | cons t rest => rw [Expr.parseUnary]; simp only [h t rest rfl]

/-- A primary expression is a row of every rank if rows of the rank halt behind it. -/
theorem yields_parseRank_of_primary {tokens rest : List Token} {e : Expr}
    (h : Yields (Expr.parsePrimary stop tokens) e rest)
    (hsign : ∀ t rest, tokens = t :: rest → t.lexeme.unary? = none) :
    ∀ {k : Nat}, Halts k rest → Yields (Expr.parseRank stop k tokens) e rest
  | 0, hhalts => by
    rw [Expr.parseRank, parseUnary_of_unsigned hsign]
    exact yields_parsePostfix h (yields_parseSuffixes_of_halts hhalts)
  | k + 1, hhalts =>
    yields_parseRank_succ (yields_parseRank_of_primary h hsign (hhalts.mono (Nat.le_succ k)))
      (yields_parseMore_of_halts hhalts)

/-- A row goes on with an operand behind a connective of its rank. -/
theorem yields_parseMore_join {k : Nat} {left b e : Expr} {t : Token} {c : Connective}
    {tokens rest rest' : List Token} (hjoin : Joins (k + 1) t.lexeme c)
    (h : Yields (Expr.parseRank stop k tokens) b rest)
    (hmore : Yields (Expr.parseMore stop (k + 1) (c.join left b) rest) e rest') :
    Yields (Expr.parseMore stop (k + 1) left (t :: tokens)) e rest' := by
  obtain ⟨hc, hrank, -⟩ := joins_iff.mp hjoin
  rw [Expr.parseMore]
  simp only [hc, hrank, if_true]
  exact h.bind fun _ => hmore.bind fun _ => Yields.pure _

/-! ## Queries, members and calls -/

/-- The path on the left side of a query is found. -/
theorem fieldPath_bind {β : Type} {position : Nat} {e : Expr} {field : String}
    {f : String → Except ParseError β} (h : e.fieldPath? = some field) :
    (e.fieldPath position >>= f) = f field := by
  unfold Expr.fieldPath
  rw [h]
  rfl

/-- A query without a test is read. -/
theorem yields_query {e v : Expr} {field : String} {position : Nat} {tokens rest : List Token}
    (hfield : e.fieldPath? = some field)
    (hstart : ∀ op spelling p tokens', tokens = ⟨.keyword op spelling, p⟩ :: tokens' → False)
    (h : Yields (Expr.parseUnary stop tokens) v rest) (hhalts : Halts 0 rest) :
    Yields (Expr.parseSuffixes stop e (⟨.colon, position⟩ :: tokens)) (.query field .equals v)
      rest := by
  rw [Expr.parseSuffixes.eq_2 _ _ _ _ hstart, fieldPath_bind hfield]
  exact h.bind fun _ => (yields_parseSuffixes_of_halts hhalts).bind fun _ => Yields.pure _

/-- A query with a test after the colon is read. -/
theorem yields_queryColon {e v : Expr} {field spelling : String} {op : QueryOperator}
    {p₁ p₂ : Nat} {tokens rest : List Token} (hfield : e.fieldPath? = some field)
    (h : Yields (Expr.parseUnary stop tokens) v rest) (hhalts : Halts 0 rest) :
    Yields (Expr.parseSuffixes stop e (⟨.colon, p₁⟩ :: ⟨.keyword op spelling, p₂⟩ :: tokens))
      (.query field op v) rest := by
  rw [Expr.parseSuffixes, fieldPath_bind hfield]
  exact h.bind fun _ => (yields_parseSuffixes_of_halts hhalts).bind fun _ => Yields.pure _

/-- A query with a test before the colon is read. -/
theorem yields_queryDot {e v : Expr} {field spelling : String} {op : QueryOperator}
    {p₁ p₂ p₃ : Nat} {tokens rest : List Token} (hfield : e.fieldPath? = some field)
    (h : Yields (Expr.parseUnary stop tokens) v rest) (hhalts : Halts 0 rest) :
    Yields (Expr.parseSuffixes stop e
      (⟨.dot, p₁⟩ :: ⟨.keyword op spelling, p₂⟩ :: ⟨.colon, p₃⟩ :: tokens))
      (.query field op v) rest := by
  rw [Expr.parseSuffixes, fieldPath_bind hfield]
  exact h.bind fun _ => (yields_parseSuffixes_of_halts hhalts).bind fun _ => Yields.pure _

/-- A property is read with what follows it, unless it is the test of a query. -/
theorem yields_property {e b : Expr} {x : Lexeme} {property : String} {p₁ p₂ : Nat}
    {tokens rest : List Token} (hx : Names x property)
    (hcolon : StartsWithKeyword [x] → ¬ ColonNext tokens)
    (h : Yields (Expr.parseProperty stop e property tokens) b rest) :
    Yields (Expr.parseSuffixes stop e (⟨.dot, p₁⟩ :: ⟨x, p₂⟩ :: tokens)) b rest := by
  cases hx with
  | name =>
    rw [Expr.parseSuffixes]
    exact h.bind fun _ => Yields.pure _
  | keyword op =>
    rw [Expr.parseSuffixes.eq_4]
    · exact h.bind fun _ => Yields.pure _
    · intro p tokens htokens
      subst htokens
      exact hcolon ⟨op, property, [], rfl⟩ rfl

/-- A property that is not called is a member. -/
theorem yields_parseProperty {e b : Expr} {property : String} {tokens rest : List Token}
    (hopen : ¬ OpenNext tokens)
    (h : Yields (Expr.parseSuffixes stop (.member e property) tokens) b rest) :
    Yields (Expr.parseProperty stop e property tokens) b rest := by
  rw [Expr.parseProperty.eq_2]
  · exact h
  · intro p tokens htokens
    subst htokens
    exact hopen rfl

/-- A property with arguments is a call of a member. -/
theorem yields_parseProperty_call {e b : Expr} {es : List Expr} {property : String} {position : Nat}
    {tokens middle rest : List Token} (hargs : Yields (Expr.parseList stop .round tokens) es middle)
    (h : Yields (Expr.parseSuffixes stop (.call (.member e property) es) middle) b rest) :
    Yields (Expr.parseProperty stop e property (⟨.openRound, position⟩ :: tokens)) b rest := by
  rw [Expr.parseProperty]
  exact hargs.bind fun _ => h.bind fun _ => Yields.pure _

/-- A name with arguments is a call. -/
theorem yields_call {b : Expr} {es : List Expr} {f : String} {position : Nat}
    {tokens middle rest : List Token} (hargs : Yields (Expr.parseList stop .round tokens) es middle)
    (h : Yields (Expr.parseSuffixes stop (.call (.name f) es) middle) b rest) :
    Yields (Expr.parseSuffixes stop (.name f) (⟨.openRound, position⟩ :: tokens)) b rest := by
  rw [Expr.parseSuffixes]
  simp only [Expr.isName, if_true]
  exact hargs.bind fun _ => h.bind fun _ => Yields.pure _

/-- A key in square brackets is read up to the closing bracket. -/
theorem yields_index {e key b : Expr} {p₁ p₂ : Nat} {tokens middle rest : List Token}
    (hkey : Yields (Expr.parseRank stop 6 tokens) key (⟨.closeSquare, p₂⟩ :: middle))
    (h : Yields (Expr.parseSuffixes stop (.index e key) middle) b rest) :
    Yields (Expr.parseSuffixes stop e (⟨.openSquare, p₁⟩ :: tokens)) b rest := by
  rw [Expr.parseSuffixes]
  exact hkey.bind fun _ => (yields_close (b := .square)).bind fun _ => h.bind fun _ => Yields.pure _

/-! ## Brackets -/

/-- An expression in round brackets is read up to the closing bracket. -/
theorem yields_round {e : Expr} {p₁ p₂ : Nat} {tokens rest : List Token}
    (h : Yields (Expr.parseRank stop 6 tokens) e (⟨.closeRound, p₂⟩ :: rest)) :
    Yields (Expr.parsePrimary stop (⟨.openRound, p₁⟩ :: tokens)) e rest := by
  rw [Expr.parsePrimary]
  exact h.bind fun _ => (yields_close (b := .round)).bind fun _ => Yields.pure _

/-- A lexeme that is a name is read as one. -/
theorem yields_name {x : Lexeme} {s : String} {position : Nat} {rest : List Token}
    (hx : Names x s) : Yields (Expr.parsePrimary stop (⟨x, position⟩ :: rest)) (.name s) rest := by
  cases hx <;> (rw [Expr.parsePrimary]; exact ⟨_, rfl⟩)

/-- A name is read alone where rows halt behind it. -/
theorem yields_parseRank_name {x : String} {position : Nat} {rest : List Token}
    (hhalts : Halts 6 rest) :
    Yields (Expr.parseRank stop 6 (⟨.name x, position⟩ :: rest)) (.name x) rest :=
  yields_parseRank_of_primary (yields_name (.name x)) (fun t rest ht => by cases ht; rfl) hhalts

/-- An item is read as a row unless an arrow follows the row. -/
theorem parseItem_of_yields {b : Bracket} {e : Expr} {tokens rest : List Token} {t : Token}
    (h : Yields (Expr.parseRank stop 6 tokens) e (t :: rest)) (ht : t.lexeme ≠ .doubleArrow) :
    Expr.parseItem stop b tokens = Expr.parseRank stop 6 tokens := by
  have harrow (p : Nat) (rest' : List Token) : Halts 6 (⟨.doubleArrow, p⟩ :: rest') :=
    halts_of_connective_eq_none 6 (by simp [Settled]) (by simp) rfl
  have hclose (p : Nat) (rest' : List Token) : Halts 6 (⟨.closeRound, p⟩ :: rest') :=
    halts_of_connective_eq_none 6 (by simp [Settled]) (by simp) rfl
  refine Expr.parseItem.eq_3 _ _ _ ?_ ?_
  · intro x p₁ p₂ rest' _ htokens
    subst htokens
    have hname := h.unique (yields_parseRank_name (harrow p₂ rest'))
    exact ht (by rw [(List.cons.inj hname.2).1])
  · intro p₁ x p₂ p₃ p₄ rest' _ htokens
    subst htokens
    have hname : Yields (Expr.parseRank stop 6 (⟨.name x, p₂⟩ :: ⟨.closeRound, p₃⟩ ::
        ⟨.doubleArrow, p₄⟩ :: rest')) (.name x)
        (⟨.closeRound, p₃⟩ :: ⟨.doubleArrow, p₄⟩ :: rest') :=
      yields_parseRank_name (hclose p₃ (⟨.doubleArrow, p₄⟩ :: rest'))
    have hround := h.unique (yields_parseRank_of_primary (yields_round hname)
      (fun t rest ht => by cases ht; rfl) (harrow p₄ rest'))
    exact ht (by rw [(List.cons.inj hround.2).1])

/-- The last item of a list is followed by the closing bracket. -/
theorem yields_lastItem {b : Bracket} {e : Expr} {position : Nat} {tokens rest : List Token}
    (h : Yields (Expr.parseItem stop b tokens) e (⟨closing b, position⟩ :: rest)) :
    Yields (Expr.parseItems stop b tokens) [e] rest := by
  rw [Expr.parseItems]
  refine h.bind fun hfewer => ?_
  split
  · rename_i p rest' heq
    cases b <;> simp [closing] at heq
  · exact yields_close.bind fun _ => ⟨_, rfl⟩

/-- Other items of a list are followed by a comma. -/
theorem yields_moreItems {b : Bracket} {e : Expr} {es : List Expr} {position : Nat}
    {tokens middle rest : List Token}
    (h : Yields (Expr.parseItem stop b tokens) e (⟨.comma, position⟩ :: middle))
    (hmore : Yields (Expr.parseItems stop b middle) es rest) :
    Yields (Expr.parseItems stop b tokens) (e :: es) rest := by
  rw [Expr.parseItems]
  refine h.bind fun hfewer => ?_
  split
  · rename_i p rest' heq
    obtain ⟨-, rfl⟩ := List.cons.inj heq
    exact hmore.bind fun _ => Yields.pure _
  · rename_i hcomma
    exact absurd rfl (hcomma position middle)

/-! ## How phrases start -/

/-- A first lexeme is still the first one with more behind it. -/
theorem HeadIs.append {P : Lexeme → Prop} {xs : List Lexeme} (h : HeadIs P xs) (ys : List Lexeme) :
    HeadIs P (xs ++ ys) := by
  cases xs with
  | nil => exact h.elim
  | cons x xs => exact h

/-- Every phrase but a list starts with a lexeme that can open it. -/
theorem startsRight {xs : List Lexeme} {p : Phrase} (h : Derives xs p) : StartsRight p xs := by
  induction h with
  | operand h ih | lastItem h ih | plain h ih | alone h ih | start h ih => exact ih
  | join hleft hjoin hright ih => exact HeadIs.append ih _
  | sign hsign h ih => exact .inr (by rw [signs_iff.mp hsign]; rfl)
  | @unsigned xs e h ih =>
    cases xs with
    | nil => exact ih.elim
    | cons x xs => exact .inl ih
  | query h hend hfield hright hstart ih => exact HeadIs.append ih _
  | queryColon h hend hfield hright ih | queryDot h hfield hright ih => exact HeadIs.append ih _
  | property h hname ih | moreItems h hrest ih => exact HeadIs.append ih _
  | method h hname hargs ih => exact (HeadIs.append ih _).append _
  | index h hkey ih | call h hargs ih => exact (HeadIs.append ih _).append _
  | constant c | round h | square h | noItems b | someItems h => trivial
  | name hname => cases hname <;> trivial
  | arrow h | arrowRound h => exact .inl trivial

/-! ## All phrases together -/

variable (stop)

/-- The tokens with the given lexemes are read as the phrase. -/
def ReadAs (xs : List Lexeme) : Phrase → Prop
  | .row 0 e => ∀ ts rest, ts.map (·.lexeme) = xs → Halts 0 rest →
      Yields (Expr.parseRank stop 0 (ts ++ rest)) e rest
  | .row (k + 1) e => ∀ ts rest e' rest', ts.map (·.lexeme) = xs → Halts k rest →
      Yields (Expr.parseMore stop (k + 1) e rest) e' rest' →
        Yields (Expr.parseRank stop (k + 1) (ts ++ rest)) e' rest'
  | .postfixed e => ∀ ts rest, ts.map (·.lexeme) = xs → Halts 0 rest →
      Yields (Expr.parsePostfix stop (ts ++ rest)) e rest
  | .chain e => ∀ ts rest e' rest', ts.map (·.lexeme) = xs → (EndsInKeyword xs → ¬ ColonNext rest) →
      (OpenNext rest → e.isName = true) → Yields (Expr.parseSuffixes stop e rest) e' rest' →
        Yields (Expr.parsePostfix stop (ts ++ rest)) e' rest'
  | .primary e => ∀ ts rest, ts.map (·.lexeme) = xs →
      Yields (Expr.parsePrimary stop (ts ++ rest)) e rest
  | .list b es => ∀ ts position rest, ts.map (·.lexeme) = xs →
      Yields (Expr.parseList stop b (ts ++ ⟨closing b, position⟩ :: rest)) es rest
  | .items b es => ∀ ts position rest, ts.map (·.lexeme) = xs →
      Yields (Expr.parseItems stop b (ts ++ ⟨closing b, position⟩ :: rest)) es rest
  | .item b e => ∀ ts t rest, ts.map (·.lexeme) = xs → t.lexeme = .comma ∨ t.lexeme = closing b →
      Yields (Expr.parseItem stop b (ts ++ t :: rest)) e (t :: rest)

variable {stop}

/-- A row that nothing goes on with is read. -/
theorem ReadAs.yields_row {xs : List Lexeme} {k : Nat} {e : Expr} (h : ReadAs stop xs (.row k e))
    {ts rest : List Token} (hts : ts.map (·.lexeme) = xs) (hhalts : Halts k rest) :
    Yields (Expr.parseRank stop k (ts ++ rest)) e rest := by
  cases k with
  | zero => exact h ts rest hts hhalts
  | succ k =>
    exact h ts rest e rest hts (hhalts.mono (Nat.le_succ k)) (yields_parseMore_of_halts hhalts)

/-- An operand that nothing goes on with is read. -/
theorem ReadAs.yields_unary {xs : List Lexeme} {e : Expr} (h : ReadAs stop xs (.row 0 e))
    {ts rest : List Token} (hts : ts.map (·.lexeme) = xs) (hhalts : Halts 0 rest) :
    Yields (Expr.parseUnary stop (ts ++ rest)) e rest := by
  have hrow := h ts rest hts hhalts
  rwa [Expr.parseRank] at hrow

/-- A comma and a closing bracket end every row. -/
theorem halts_of_separator {b : Bracket} {t : Token} {rest : List Token}
    (h : t.lexeme = .comma ∨ t.lexeme = closing b) : Halts 6 (t :: rest) := by
  have hkind : Settled (t :: rest) ∧ t.lexeme ≠ .openRound ∧ t.lexeme.connective? = none := by
    rcases h with h | h
    · simp [Settled, h, Lexeme.connective?]
    · cases b <;> simp [Settled, h, closing, Lexeme.connective?]
  exact halts_of_connective_eq_none 6 hkind.1 hkind.2.1 hkind.2.2

/-- An operand that no sign stands in front of does not start with one. -/
theorem parseUnary_append {xs : List Lexeme} {e : Expr} (h : Derives xs (.postfixed e))
    {ts rest : List Token} (hts : ts.map (·.lexeme) = xs) :
    Expr.parseUnary stop (ts ++ rest) = Expr.parsePostfix stop (ts ++ rest) := by
  have hstarts : HeadIs Opens xs := startsRight h
  subst hts
  cases ts with
  | nil => exact hstarts.elim
  | cons t ts =>
    refine parseUnary_of_unsigned fun t' rest' heq => ?_
    obtain ⟨rfl, -⟩ := List.cons.inj heq
    obtain ⟨x, position⟩ := t
    cases x <;> first | rfl | exact hstarts.elim

/-- A list that has items does not start with the closing bracket. -/
theorem parseList_append {b : Bracket} {xs : List Lexeme} {es : List Expr}
    (h : Derives xs (.items b es)) {ts rest : List Token} (hts : ts.map (·.lexeme) = xs) :
    Expr.parseList stop b (ts ++ rest) = Expr.parseItems stop b (ts ++ rest) := by
  have hstarts : HeadIs (fun x => Opens x ∨ x.unary?.isSome) xs := startsRight h
  subst hts
  cases ts with
  | nil => exact hstarts.elim
  | cons t ts =>
    rw [List.cons_append, Expr.parseList, if_neg]
    rw [isClosedBy_iff]
    intro ht
    have hfirst : Opens (closing b) ∨ (closing b).unary?.isSome := ht ▸ hstarts
    cases b <;> simp [closing, Opens, Lexeme.unary?] at hfirst

/-- A value of a query without a test does not start with a word for one. -/
theorem not_keyword_append {xs : List Lexeme} {e : Expr} (h : Derives xs (.row 0 e))
    (hstart : ¬ StartsWithKeyword xs) {ts rest : List Token} (hts : ts.map (·.lexeme) = xs)
    (op : QueryOperator) (spelling : String) (position : Nat) (rest' : List Token) :
    ts ++ rest = ⟨.keyword op spelling, position⟩ :: rest' → False := by
  have hstarts : HeadIs (fun x => Opens x ∨ x.unary?.isSome) xs := startsRight h
  subst hts
  intro heq
  cases ts with
  | nil => exact hstarts
  | cons t ts =>
    obtain ⟨rfl, -⟩ := List.cons.inj heq
    exact hstart ⟨op, spelling, _, rfl⟩

/-- A row of one operand is read. -/
theorem readAs_operand {k : Nat} {xs : List Lexeme} {e : Expr} (h : ReadAs stop xs (.row k e)) :
    ReadAs stop xs (.row (k + 1) e) := by
  intro ts rest e' rest' hts hhalts hmore
  exact yields_parseRank_succ (h.yields_row hts hhalts) hmore

/-- A row that grows on the right is read. -/
theorem readAs_join {k : Nat} {xs ys : List Lexeme} {x : Lexeme} {c : Connective} {a b : Expr}
    (hleft : ReadAs stop xs (.row (k + 1) a)) (hjoin : Joins (k + 1) x c)
    (hright : ReadAs stop ys (.row k b)) :
    ReadAs stop (xs ++ x :: ys) (.row (k + 1) (c.join a b)) := by
  intro ts rest e' rest' hts hhalts hmore
  obtain ⟨l, r, rfl, hl, hr₁⟩ := List.map_eq_append_iff.mp hts
  obtain ⟨t, r, rfl, rfl, hr₂⟩ := List.map_eq_cons_iff.mp hr₁
  rw [List.append_assoc]
  exact hleft l _ e' rest' hl (halts_of_joins hjoin)
    (yields_parseMore_join hjoin (hright.yields_row hr₂ hhalts) hmore)

/-- A sign with its operand is read. -/
theorem readAs_sign {x : Lexeme} {op : UnaryOperator} {xs : List Lexeme} {e : Expr}
    (hsign : Signs x op) (h : ReadAs stop xs (.row 0 e)) :
    ReadAs stop (x :: xs) (.row 0 (.unary op e)) := by
  intro ts rest hts hhalts
  obtain ⟨t, ts, rfl, rfl, hts₁⟩ := List.map_eq_cons_iff.mp hts
  rw [Expr.parseRank, List.cons_append, Expr.parseUnary]
  simp only [signs_iff.mp hsign]
  exact (h.yields_unary hts₁ hhalts).bind fun _ => Yields.pure _

/-- An operand without a sign is read. -/
theorem readAs_unsigned {xs : List Lexeme} {e : Expr} (hderives : Derives xs (.postfixed e))
    (h : ReadAs stop xs (.postfixed e)) : ReadAs stop xs (.row 0 e) := by
  intro ts rest hts hhalts
  rw [Expr.parseRank, parseUnary_append hderives hts]
  exact h ts rest hts hhalts

/-- A chain that nothing goes on with is read. -/
theorem readAs_alone {xs : List Lexeme} {e : Expr} (h : ReadAs stop xs (.chain e)) :
    ReadAs stop xs (.postfixed e) := by
  intro ts rest hts hhalts
  refine h ts rest e rest hts ?_ ?_ (yields_parseSuffixes_of_halts hhalts)
  · intro _ hcolon
    cases rest with
    | nil => exact hcolon
    | cons t rest => exact hhalts.1.1 hcolon
  · intro hopen
    cases rest with
    | nil => exact hopen.elim
    | cons t rest => exact absurd hopen hhalts.2.1

/-- A query without a test is read. -/
theorem readAs_query {xs ys : List Lexeme} {e v : Expr} {field : String}
    (hleft : ReadAs stop xs (.chain e)) (hend : ¬ EndsInKeyword xs)
    (hfield : e.fieldPath? = some field) (hderives : Derives ys (.row 0 v))
    (hright : ReadAs stop ys (.row 0 v)) (hstart : ¬ StartsWithKeyword ys) :
    ReadAs stop (xs ++ .colon :: ys) (.postfixed (.query field .equals v)) := by
  intro ts rest hts hhalts
  obtain ⟨l, r, rfl, hl, hr₁⟩ := List.map_eq_append_iff.mp hts
  obtain ⟨⟨x, position⟩, r, rfl, rfl, hr₂⟩ := List.map_eq_cons_iff.mp hr₁
  rw [List.append_assoc]
  exact hleft l _ _ rest hl (absurd · hend) (fun hx => nomatch hx)
    (yields_query hfield (not_keyword_append hderives hstart hr₂) (hright.yields_unary hr₂ hhalts)
      hhalts)

/-- A query with a test after the colon is read. -/
theorem readAs_queryColon {xs ys : List Lexeme} {e v : Expr} {field spelling : String}
    {op : QueryOperator} (hleft : ReadAs stop xs (.chain e)) (hend : ¬ EndsInKeyword xs)
    (hfield : e.fieldPath? = some field) (hright : ReadAs stop ys (.row 0 v)) :
    ReadAs stop (xs ++ .colon :: .keyword op spelling :: ys) (.postfixed (.query field op v)) := by
  intro ts rest hts hhalts
  obtain ⟨l, r, rfl, hl, hr₁⟩ := List.map_eq_append_iff.mp hts
  obtain ⟨⟨x, p₁⟩, r, rfl, rfl, hr₂⟩ := List.map_eq_cons_iff.mp hr₁
  obtain ⟨⟨x, p₂⟩, r, rfl, rfl, hr₃⟩ := List.map_eq_cons_iff.mp hr₂
  rw [List.append_assoc]
  exact hleft l _ _ rest hl (absurd · hend) (fun hx => nomatch hx)
    (yields_queryColon hfield (hright.yields_unary hr₃ hhalts) hhalts)

/-- A query with a test before the colon is read. -/
theorem readAs_queryDot {xs ys : List Lexeme} {e v : Expr} {field spelling : String}
    {op : QueryOperator} (hleft : ReadAs stop xs (.chain e)) (hfield : e.fieldPath? = some field)
    (hright : ReadAs stop ys (.row 0 v)) :
    ReadAs stop (xs ++ .dot :: .keyword op spelling :: .colon :: ys)
      (.postfixed (.query field op v)) := by
  intro ts rest hts hhalts
  obtain ⟨l, r, rfl, hl, hr₁⟩ := List.map_eq_append_iff.mp hts
  obtain ⟨⟨x, p₁⟩, r, rfl, rfl, hr₂⟩ := List.map_eq_cons_iff.mp hr₁
  obtain ⟨⟨x, p₂⟩, r, rfl, rfl, hr₃⟩ := List.map_eq_cons_iff.mp hr₂
  obtain ⟨⟨x, p₃⟩, r, rfl, rfl, hr₄⟩ := List.map_eq_cons_iff.mp hr₃
  rw [List.append_assoc]
  exact hleft l _ _ rest hl (fun _ hx => nomatch hx) (fun hx => nomatch hx)
    (yields_queryDot hfield (hright.yields_unary hr₄ hhalts) hhalts)

/-- A primary expression is read as a chain. -/
theorem readAs_start {xs : List Lexeme} {e : Expr} (h : ReadAs stop xs (.primary e)) :
    ReadAs stop xs (.chain e) := by
  intro ts rest e' rest' hts _ _ hmore
  exact yields_parsePostfix (h ts rest hts) hmore

/-- A member of a chain is read. -/
theorem readAs_property {xs : List Lexeme} {x : Lexeme} {e : Expr} {p : String}
    (h : ReadAs stop xs (.chain e)) (hname : Names x p) :
    ReadAs stop (xs ++ [.dot, x]) (.chain (.member e p)) := by
  intro ts rest e' rest' hts hcolon hopen hmore
  obtain ⟨l, r, rfl, hl, hr₁⟩ := List.map_eq_append_iff.mp hts
  obtain ⟨⟨d, p₁⟩, r, rfl, rfl, hr₂⟩ := List.map_eq_cons_iff.mp hr₁
  obtain ⟨⟨x, p₂⟩, r, rfl, rfl, hr₃⟩ := List.map_eq_cons_iff.mp hr₂
  obtain rfl := List.map_eq_nil_iff.mp hr₃
  rw [List.append_assoc]
  refine h l _ e' rest' hl (fun _ hx => nomatch hx) (fun hx => nomatch hx) (yields_property hname ?_ ?_)
  · intro hstarts
    obtain ⟨op, spelling, ys, hx⟩ := hstarts
    obtain ⟨rfl, -⟩ := List.cons.inj hx
    exact hcolon ⟨xs, op, spelling, rfl⟩
  · exact yields_parseProperty (fun h => by simpa [Expr.isName] using hopen h) hmore

/-- A call of a member is read. -/
theorem readAs_method {xs ys : List Lexeme} {x : Lexeme} {e : Expr} {p : String} {es : List Expr}
    (h : ReadAs stop xs (.chain e)) (hname : Names x p) (hargs : ReadAs stop ys (.list .round es)) :
    ReadAs stop (xs ++ .dot :: x :: .openRound :: ys ++ [.closeRound])
      (.chain (.call (.member e p) es)) := by
  intro ts rest e' rest' hts _ _ hmore
  obtain ⟨ts, l', rfl, hts₁, hl'⟩ := List.map_eq_append_iff.mp hts
  obtain ⟨⟨_, p₄⟩, _, rfl, rfl, hr₁⟩ := List.map_eq_cons_iff.mp hl'
  obtain rfl := List.map_eq_nil_iff.mp hr₁
  obtain ⟨l, r, rfl, hl, hr₂⟩ := List.map_eq_append_iff.mp hts₁
  obtain ⟨⟨d, p₁⟩, r, rfl, rfl, hr₃⟩ := List.map_eq_cons_iff.mp hr₂
  obtain ⟨⟨x, p₂⟩, r, rfl, rfl, hr₄⟩ := List.map_eq_cons_iff.mp hr₃
  obtain ⟨⟨_, p₃⟩, r, rfl, rfl, hr₅⟩ := List.map_eq_cons_iff.mp hr₄
  rw [List.append_assoc, List.append_assoc]
  exact h l _ e' rest' hl (fun _ hx => nomatch hx) (fun hx => nomatch hx)
    (yields_property hname (fun _ hx => nomatch hx)
      (yields_parseProperty_call (hargs r p₄ rest hr₅) hmore))

/-- A computed member of a chain is read. -/
theorem readAs_index {xs ys : List Lexeme} {e key : Expr} (h : ReadAs stop xs (.chain e))
    (hkey : ReadAs stop ys (.row 6 key)) :
    ReadAs stop (xs ++ .openSquare :: ys ++ [.closeSquare]) (.chain (.index e key)) := by
  intro ts rest e' rest' hts _ _ hmore
  obtain ⟨ts, l', rfl, hts₁, hl'⟩ := List.map_eq_append_iff.mp hts
  obtain ⟨⟨_, p₂⟩, _, rfl, rfl, hr₁⟩ := List.map_eq_cons_iff.mp hl'
  obtain rfl := List.map_eq_nil_iff.mp hr₁
  obtain ⟨l, r, rfl, hl, hr₂⟩ := List.map_eq_append_iff.mp hts₁
  obtain ⟨⟨_, p₁⟩, r, rfl, rfl, hr₃⟩ := List.map_eq_cons_iff.mp hr₂
  rw [List.append_assoc, List.append_assoc]
  exact h l _ e' rest' hl (fun _ hx => nomatch hx) (fun hx => nomatch hx)
    (yields_index (hkey.yields_row hr₃ (halts_of_separator (b := .square) (.inr rfl))) hmore)

/-- A call of a name is read. -/
theorem readAs_call {xs ys : List Lexeme} {f : String} {es : List Expr}
    (h : ReadAs stop xs (.chain (.name f))) (hargs : ReadAs stop ys (.list .round es)) :
    ReadAs stop (xs ++ .openRound :: ys ++ [.closeRound]) (.chain (.call (.name f) es)) := by
  intro ts rest e' rest' hts _ _ hmore
  obtain ⟨ts, l', rfl, hts₁, hl'⟩ := List.map_eq_append_iff.mp hts
  obtain ⟨⟨_, p₂⟩, _, rfl, rfl, hr₁⟩ := List.map_eq_cons_iff.mp hl'
  obtain rfl := List.map_eq_nil_iff.mp hr₁
  obtain ⟨l, r, rfl, hl, hr₂⟩ := List.map_eq_append_iff.mp hts₁
  obtain ⟨⟨_, p₁⟩, r, rfl, rfl, hr₃⟩ := List.map_eq_cons_iff.mp hr₂
  rw [List.append_assoc, List.append_assoc]
  exact h l _ e' rest' hl (fun _ hx => nomatch hx) (fun _ => rfl)
    (yields_call (hargs r p₂ rest hr₃) hmore)

/-- A constant is read. -/
theorem readAs_constant (c : Constant) :
    ReadAs stop [.constant c] (.primary (.literal c.value)) := by
  intro ts rest hts
  obtain ⟨⟨x, position⟩, r, rfl, rfl, hr⟩ := List.map_eq_cons_iff.mp hts
  obtain rfl := List.map_eq_nil_iff.mp hr
  rw [List.cons_append, Expr.parsePrimary]
  exact ⟨_, rfl⟩

/-- A name is read. -/
theorem readAs_name {x : Lexeme} {s : String} (hname : Names x s) :
    ReadAs stop [x] (.primary (.name s)) := by
  intro ts rest hts
  obtain ⟨⟨x, position⟩, r, rfl, rfl, hr⟩ := List.map_eq_cons_iff.mp hts
  obtain rfl := List.map_eq_nil_iff.mp hr
  exact yields_name hname

/-- An expression in round brackets is read. -/
theorem readAs_round {xs : List Lexeme} {e : Expr} (h : ReadAs stop xs (.row 6 e)) :
    ReadAs stop (.openRound :: xs ++ [.closeRound]) (.primary e) := by
  intro ts rest hts
  obtain ⟨l, r, rfl, hl, hr⟩ := List.map_eq_append_iff.mp hts
  obtain ⟨⟨_, p₂⟩, r, rfl, rfl, hr'⟩ := List.map_eq_cons_iff.mp hr
  obtain rfl := List.map_eq_nil_iff.mp hr'
  obtain ⟨⟨_, p₁⟩, l, rfl, rfl, hl'⟩ := List.map_eq_cons_iff.mp hl
  rw [List.append_assoc]
  exact yields_round (h.yields_row hl' (halts_of_separator (b := .round) (.inr rfl)))

/-- A list in square brackets is read. -/
theorem readAs_square {xs : List Lexeme} {es : List Expr} (h : ReadAs stop xs (.list .square es)) :
    ReadAs stop (.openSquare :: xs ++ [.closeSquare]) (.primary (.list es)) := by
  intro ts rest hts
  obtain ⟨l, r, rfl, hl, hr⟩ := List.map_eq_append_iff.mp hts
  obtain ⟨⟨_, p₂⟩, r, rfl, rfl, hr'⟩ := List.map_eq_cons_iff.mp hr
  obtain rfl := List.map_eq_nil_iff.mp hr'
  obtain ⟨⟨_, p₁⟩, l, rfl, rfl, hl'⟩ := List.map_eq_cons_iff.mp hl
  rw [List.append_assoc, List.cons_append, Expr.parsePrimary]
  exact (h l p₂ rest hl').bind fun _ => Yields.pure _

/-- A list without items is read. -/
theorem readAs_noItems (b : Bracket) : ReadAs stop [] (.list b []) := by
  intro ts position rest hts
  obtain rfl := List.map_eq_nil_iff.mp hts
  rw [List.nil_append, Expr.parseList, if_pos (by simp)]
  exact ⟨_, rfl⟩

/-- A list with items is read. -/
theorem readAs_someItems {b : Bracket} {xs : List Lexeme} {es : List Expr}
    (hderives : Derives xs (.items b es)) (h : ReadAs stop xs (.items b es)) :
    ReadAs stop xs (.list b es) := by
  intro ts position rest hts
  rw [parseList_append hderives hts]
  exact h ts position rest hts

/-- The last item of a list is read. -/
theorem readAs_lastItem {b : Bracket} {xs : List Lexeme} {e : Expr}
    (h : ReadAs stop xs (.item b e)) : ReadAs stop xs (.items b [e]) := by
  intro ts position rest hts
  exact yields_lastItem (h ts ⟨closing b, position⟩ rest hts (.inr rfl))

/-- An item of a list is read together with the ones after it. -/
theorem readAs_moreItems {b : Bracket} {xs ys : List Lexeme} {e : Expr} {es : List Expr}
    (h : ReadAs stop xs (.item b e)) (hrest : ReadAs stop ys (.items b es)) :
    ReadAs stop (xs ++ .comma :: ys) (.items b (e :: es)) := by
  intro ts position rest hts
  obtain ⟨l, r, rfl, hl, hr⟩ := List.map_eq_append_iff.mp hts
  obtain ⟨⟨_, p⟩, r, rfl, rfl, hr'⟩ := List.map_eq_cons_iff.mp hr
  rw [List.append_assoc]
  exact yields_moreItems (h l ⟨.comma, p⟩ _ hl (.inl rfl)) (hrest r position rest hr')

/-- An item that is a row is read. -/
theorem readAs_plain {b : Bracket} {xs : List Lexeme} {e : Expr} (h : ReadAs stop xs (.row 6 e)) :
    ReadAs stop xs (.item b e) := by
  intro ts t rest hts ht
  have hhalts : Halts 6 (t :: rest) := halts_of_separator ht
  have hrow := h.yields_row hts hhalts
  have harrow : t.lexeme ≠ .doubleArrow := by
    rcases ht with ht | ht
    · simp [ht]
    · cases b <;> simp [ht, closing]
  rwa [parseItem_of_yields hrow harrow]

/-- An arrow function is read. -/
theorem readAs_arrow {x : String} {xs : List Lexeme} {e : Expr} (h : ReadAs stop xs (.row 6 e)) :
    ReadAs stop (.name x :: .doubleArrow :: xs) (.item .round (.arrow [x] e)) := by
  intro ts t rest hts ht
  obtain ⟨⟨_, p₁⟩, r, rfl, rfl, hr⟩ := List.map_eq_cons_iff.mp hts
  obtain ⟨⟨_, p₂⟩, r, rfl, rfl, hr'⟩ := List.map_eq_cons_iff.mp hr
  rw [List.cons_append, List.cons_append, Expr.parseItem]
  exact (h.yields_row hr' (halts_of_separator ht)).bind fun _ => Yields.pure _

/-- An arrow function whose parameter stands in brackets is read. -/
theorem readAs_arrowRound {x : String} {xs : List Lexeme} {e : Expr}
    (h : ReadAs stop xs (.row 6 e)) :
    ReadAs stop (.openRound :: .name x :: .closeRound :: .doubleArrow :: xs)
      (.item .round (.arrow [x] e)) := by
  intro ts t rest hts ht
  obtain ⟨⟨_, p₁⟩, r, rfl, rfl, hr₁⟩ := List.map_eq_cons_iff.mp hts
  obtain ⟨⟨_, p₂⟩, r, rfl, rfl, hr₂⟩ := List.map_eq_cons_iff.mp hr₁
  obtain ⟨⟨_, p₃⟩, r, rfl, rfl, hr₃⟩ := List.map_eq_cons_iff.mp hr₂
  obtain ⟨⟨_, p₄⟩, r, rfl, rfl, hr₄⟩ := List.map_eq_cons_iff.mp hr₃
  rw [List.cons_append, List.cons_append, List.cons_append, List.cons_append, Expr.parseItem]
  exact (h.yields_row hr₄ (halts_of_separator ht)).bind fun _ => Yields.pure _

/-- Every phrase that is derived is read. -/
theorem readAs_of_derives {xs : List Lexeme} {p : Phrase} (h : Derives xs p) :
    ReadAs stop xs p := by
  induction h with
  | operand h ih => exact readAs_operand ih
  | join hleft hjoin hright ihleft ihright => exact readAs_join ihleft hjoin ihright
  | sign hsign h ih => exact readAs_sign hsign ih
  | unsigned h ih => exact readAs_unsigned h ih
  | alone h ih => exact readAs_alone ih
  | query hleft hend hfield hright hstart ihleft ihright =>
    exact readAs_query ihleft hend hfield hright ihright hstart
  | queryColon hleft hend hfield hright ihleft ihright =>
    exact readAs_queryColon ihleft hend hfield ihright
  | queryDot hleft hfield hright ihleft ihright => exact readAs_queryDot ihleft hfield ihright
  | start h ih => exact readAs_start ih
  | property h hname ih => exact readAs_property ih hname
  | method h hname hargs ih ihargs => exact readAs_method ih hname ihargs
  | index h hkey ih ihkey => exact readAs_index ih ihkey
  | call h hargs ih ihargs => exact readAs_call ih ihargs
  | constant c => exact readAs_constant c
  | name hname => exact readAs_name hname
  | round h ih => exact readAs_round ih
  | square h ih => exact readAs_square ih
  | noItems b => exact readAs_noItems b
  | someItems h ih => exact readAs_someItems h ih
  | lastItem h ih => exact readAs_lastItem ih
  | moreItems h hrest ih ihrest => exact readAs_moreItems ih ihrest
  | plain h ih => exact readAs_plain ih
  | arrow h ih => exact readAs_arrow ih
  | arrowRound h ih => exact readAs_arrowRound ih

/-! ## Whole rows of tokens -/

/-- Tokens that derive an expression are read as it. -/
theorem ofTokens_of_derives {tokens : List Token} {e : Expr}
    (h : Derives (tokens.map (·.lexeme)) (.row 6 e)) : Expr.ofTokens stop tokens = .ok e := by
  have hread : ReadAs stop (tokens.map (·.lexeme)) (.row 6 e) := readAs_of_derives h
  have hrow : Yields (Expr.parseRank stop 6 (tokens ++ [])) e [] := hread.yields_row rfl trivial
  rw [List.append_nil] at hrow
  obtain ⟨hfewer, hrow⟩ := hrow
  rw [Expr.ofTokens, show Expr.parseRank stop Connective.loosest tokens = _ from hrow]
  rfl

/-- The trees that tokens are read as are exactly those that the grammar derives from their
lexemes, and tokens that derive no tree are refused with the position of an error. -/
theorem ofTokens_iff_derives (stop : Nat) (tokens : List Token) :
    (∀ e, Expr.ofTokens stop tokens = .ok e ↔ Derives (tokens.map (·.lexeme)) (.row 6 e)) ∧
      ((∃ error, Expr.ofTokens stop tokens = .error error) ↔
        ¬ ∃ e, Derives (tokens.map (·.lexeme)) (.row 6 e)) := by
  have hok (e : Expr) :
      Expr.ofTokens stop tokens = .ok e ↔ Derives (tokens.map (·.lexeme)) (.row 6 e) :=
    ⟨derives_of_ofTokens, ofTokens_of_derives⟩
  refine ⟨hok, ?_⟩
  simp only [← hok]
  cases Expr.ofTokens stop tokens with
  | ok e => simp
  | error error => simp

end Trigger.Grammar
