import Trigger.Proofs.Callback.Text

/-!
# Arguments with a second test

A reader of items stops behind the first item, and if neither a comma nor the closing bracket comes
next, the whole text around it is refused. A path that ends in a word for a test is followed by its
colon and the value, so a second word for a test is that value, and the constant behind it is left
over. Such a query is no argument of a method, and the body of an arrow function that is one can be
no such query either.
-/

namespace Trigger

namespace Grammar

variable {α β : Type} {m n stop : Nat} {b : Bracket} {xs : List Lexeme} {e a : Expr}
variable {t : Token} {tokens ts rest : List Token}

/-- A reader refuses its tokens. -/
def Refuses (x : Except ParseError α) : Prop := ∃ error, x = .error error

/-- What would follow a reader that refuses is not reached. -/
theorem Refuses.bind {x : Except ParseError α} (h : Refuses x) (f : α → Except ParseError β) :
    Refuses (x >>= f) := by
  obtain ⟨error, rfl⟩ := h
  exact ⟨error, rfl⟩

/-- A reader that refuses behind another one. -/
theorem Yields.bind_refuses {x : Except ParseError (Parsed α m)} {v : α}
    {f : Parsed α m → Except ParseError β} (h : Yields x v rest)
    (hf : ∀ hfewer, Refuses (f ⟨v, rest, hfewer⟩)) : Refuses (x >>= f) := by
  obtain ⟨hfewer, rfl⟩ := h
  exact hf hfewer

/-- An item is read up to any token that goes on with no row and is no arrow. -/
theorem yields_item (h : Derives xs (.item b e)) (hts : ts.map (·.lexeme) = xs)
    (hhalts : Halts 6 (t :: rest)) (harrow : t.lexeme ≠ .doubleArrow) :
    Yields (Expr.parseItem stop b (ts ++ t :: rest)) e (t :: rest) := by
  cases h with
  | plain h =>
    have hrow : Yields (Expr.parseRank stop 6 (ts ++ t :: rest)) e (t :: rest) :=
      (readAs_of_derives h).yields_row hts hhalts
    rwa [parseItem_of_yields hrow harrow]
  | arrow h =>
    obtain ⟨⟨_, p₁⟩, r, rfl, rfl, hr⟩ := List.map_eq_cons_iff.mp hts
    obtain ⟨⟨_, p₂⟩, r, rfl, rfl, hr'⟩ := List.map_eq_cons_iff.mp hr
    rw [List.cons_append, List.cons_append, Expr.parseItem]
    exact ((readAs_of_derives h).yields_row hr' hhalts).bind fun _ => Yields.pure _
  | arrowRound h =>
    obtain ⟨⟨_, p₁⟩, r, rfl, rfl, hr₁⟩ := List.map_eq_cons_iff.mp hts
    obtain ⟨⟨_, p₂⟩, r, rfl, rfl, hr₂⟩ := List.map_eq_cons_iff.mp hr₁
    obtain ⟨⟨_, p₃⟩, r, rfl, rfl, hr₃⟩ := List.map_eq_cons_iff.mp hr₂
    obtain ⟨⟨_, p₄⟩, r, rfl, rfl, hr₄⟩ := List.map_eq_cons_iff.mp hr₃
    rw [List.cons_append, List.cons_append, List.cons_append, List.cons_append, Expr.parseItem]
    exact ((readAs_of_derives h).yields_row hr₄ hhalts).bind fun _ => Yields.pure _

/-- Items with neither a comma nor the closing bracket behind the first one are refused. -/
theorem refuses_parseItems (h : Yields (Expr.parseItem stop b tokens) e (t :: rest))
    (hcomma : t.lexeme ≠ .comma) (hclose : t.lexeme ≠ closing b) :
    Refuses (Expr.parseItems stop b tokens) := by
  rw [Expr.parseItems]
  refine h.bind_refuses fun hfewer => ?_
  split
  · rename_i p rest' heq
    obtain ⟨rfl, -⟩ := List.cons.inj heq
    exact absurd rfl hcomma
  · refine Refuses.bind ?_ _
    rw [Expr.close, if_neg (by simpa using hclose)]
    exact ⟨_, rfl⟩

/-- A list whose items are refused is refused. -/
theorem refuses_parseList (h : Derives xs (.item b e)) (hts : ts.map (·.lexeme) = xs)
    (hitems : Refuses (Expr.parseItems stop b (ts ++ rest))) :
    Refuses (Expr.parseList stop b (ts ++ rest)) := by
  rwa [parseList_append (.lastItem h) hts]

/-- A method with arguments that are refused. -/
theorem refuses_parseSuffixes {x : Lexeme} {p : String} {p₁ p₂ p₃ : Nat} (hx : Names x p)
    (hargs : Refuses (Expr.parseList stop .round tokens)) :
    Refuses (Expr.parseSuffixes stop e
      (⟨.dot, p₁⟩ :: ⟨x, p₂⟩ :: ⟨.openRound, p₃⟩ :: tokens)) := by
  have hproperty : Refuses (Expr.parseProperty stop e p (⟨.openRound, p₃⟩ :: tokens)) := by
    rw [Expr.parseProperty]
    exact hargs.bind _
  cases hx with
  | name =>
    rw [Expr.parseSuffixes]
    exact hproperty.bind _
  | keyword op =>
    rw [Expr.parseSuffixes.eq_4 _ _ _ _ _ _ _ (by simp)]
    exact hproperty.bind _

/-- A row that starts with a name is refused if what follows the name is. -/
theorem refuses_parseRank {x : Lexeme} {s : String} {position : Nat} (hx : Names x s)
    (h : Refuses (Expr.parseSuffixes stop (.name s) tokens)) (k : Nat) :
    Refuses (Expr.parseRank stop k (⟨x, position⟩ :: tokens)) := by
  induction k with
  | zero =>
    have hsign (t : Token) (rest : List Token) (ht : ⟨x, position⟩ :: tokens = t :: rest) :
        t.lexeme.unary? = none := by
      obtain ⟨rfl, -⟩ := List.cons.inj ht
      cases hx <;> rfl
    rw [Expr.parseRank, parseUnary_of_unsigned hsign, Expr.parsePostfix]
    exact (yields_name hx).bind_refuses fun _ => h.bind _
  | succ k ih =>
    rw [Expr.parseRank]
    exact ih.bind _

/-- Tokens that are refused as a row are no expression. -/
theorem refuses_ofTokens (h : Refuses (Expr.parseRank stop 6 tokens)) :
    Refuses (Expr.ofTokens stop tokens) := by
  rw [Expr.ofTokens]
  exact h.bind _

/-- A call of a method makes up no expression if a constant is left over behind its argument. -/
theorem not_derives_method {x y : Lexeme} {s p : String} (hx : Names x s) (hy : Names y p)
    (h : Derives xs (.item .round a)) (c : Constant) :
    ¬Derives (x :: .dot :: y :: .openRound :: (xs ++ [.constant c, .closeRound])) (.row 6 e) := by
  intro hderives
  let ts := xs.map (Token.mk · 0)
  let left : List Token := [⟨.constant c, 0⟩, ⟨.closeRound, 0⟩]
  let tokens : List Token := ⟨x, 0⟩ :: ⟨.dot, 0⟩ :: ⟨y, 0⟩ :: ⟨.openRound, 0⟩ :: (ts ++ left)
  have hts : ts.map (·.lexeme) = xs := by simp [ts, Function.comp_def]
  have hhalts : Halts 6 left :=
    halts_of_connective_eq_none 6 (by simp [Settled]) (by simp) rfl
  have hitem : Yields (Expr.parseItem 0 .round (ts ++ left)) a left :=
    yields_item h hts hhalts (by simp)
  have hargs : Refuses (Expr.parseList 0 .round (ts ++ left)) :=
    refuses_parseList h hts (refuses_parseItems hitem (by simp) (by simp [closing]))
  have hrow : Refuses (Expr.parseRank 0 6 tokens) :=
    refuses_parseRank hx (refuses_parseSuffixes hy hargs) 6
  obtain ⟨error, herror⟩ := refuses_ofTokens hrow
  have hlexemes : tokens.map (·.lexeme) =
      x :: .dot :: y :: .openRound :: (xs ++ [.constant c, .closeRound]) := by
    simp [tokens, left, hts]
  rw [ofTokens_of_derives (hlexemes ▸ hderives)] at herror
  cases herror

end Grammar

namespace Lexeme

/-- A text is made up of one row of lexemes. -/
theorem Spells.unique {s : List Char} {xs ys : List Lexeme} (h : Spells s xs) (h' : Spells s ys) :
    xs = ys := by
  obtain ⟨tokens, htokens, rfl⟩ := h
  obtain ⟨others, hothers, rfl⟩ := h'
  rw [Except.ok.inj (htokens.symm.trans hothers)]

end Lexeme

namespace Expr

open Grammar (Derives)
open Lexeme (Spells)

variable {receiver name argument path last word other i v : String} {op op' : QueryOperator}
variable {c : Constant} {zs : List Lexeme} {A : Expr}

/-- A call of a method is refused if a constant is left over behind its first argument. -/
theorem read_method_ne_ok (hreceiver : IsName receiver) (hname : IsName name)
    (hspells : Spells argument.toList (zs ++ [.constant c])) (hitem : Derives zs (.item .round A))
    (e : Expr) : Expr.read (receiver ++ "." ++ name ++ "(" ++ argument ++ ")") ≠ .ok e := by
  intro hread
  obtain ⟨xs, htext, hderives⟩ := read_eq_ok_iff.mp hread
  obtain rfl := htext.unique (spells_method hreceiver hname hspells)
  rw [List.append_assoc] at hderives
  exact Grammar.not_derives_method hreceiver.names hname.names hitem c hderives

/-- Behind a path that ends in a word for a test and a colon, a second word for a test is the value
of the query, and the constant behind it is left over. -/
theorem IsDotted.exists_left_over (h : IsDotted path last) (hword : op.IsSpelled word)
    (hother : op'.IsSpelled other) (hv : Spells v.toList [.constant c]) :
    ∃ zs e, Derives zs (.row 6 e) ∧
      Spells (path ++ "." ++ word ++ (": " ++ other ++ " ") ++ v).toList (zs ++ [.constant c]) := by
  obtain ⟨xs, e, hchain, hfield, -, hspells⟩ := h.exists_chain
  have hsecond := hv.blank.word hother.isName (by simp; decide)
  have hcolon := hsecond.blank.cons (c := ':') (x := .colon) (by decide) rfl
  have hmember := hcolon.member hword.isName (by simp; decide)
  rw [show Lexeme.ofWord word = .keyword op word from hword] at hmember
  have hvalue : Derives [.ofWord other] (.row 0 (.name other)) :=
    .unsigned (.alone (.start (.name hother.isName.names)))
  have hquery : Derives (xs ++ [.dot, .keyword op word, .colon, .ofWord other])
      (.postfixed (.query path op (.name other))) := .queryDot hchain hfield hvalue
  refine ⟨_, _, derives_row_mono (.unsigned hquery) (Nat.zero_le 6), ?_⟩
  simpa using hspells _ _ hmember (by simp; decide)

/-- A path that ends in a word for a test takes no other test behind its colon, be it an argument of
a method or the body of one. -/
theorem IsDotted.read_second_test_ne_ok (h : IsDotted path last) (hword : op.IsSpelled word)
    (hother : op'.IsSpelled other) (hv : Spells v.toList [.constant c])
    (hreceiver : IsName receiver) (hname : IsName name) (hi : IsName i)
    (hparam : Lexeme.ofWord i = .name i) (e : Expr) :
    Expr.read (receiver ++ "." ++ name ++ "(" ++
        (path ++ "." ++ word ++ (": " ++ other ++ " ") ++ v) ++ ")") ≠ .ok e ∧
      Expr.read (receiver ++ "." ++ name ++ "(" ++ (i ++ " => " ++
        (i ++ "." ++ (path ++ "." ++ word) ++ (": " ++ other ++ " ") ++ v)) ++ ")") ≠ .ok e := by
  constructor
  · obtain ⟨zs, A, hA, hzs⟩ := h.exists_left_over hword hother hv
    exact read_method_ne_ok hreceiver hname hzs (.plain hA) e
  · obtain ⟨zs, B, hB, hzs⟩ := (h.cons hi).exists_left_over hword hother hv
    have hitem : Derives (.name i :: .doubleArrow :: zs) (.item .round (.arrow [i] B)) := .arrow hB
    refine read_method_ne_ok (c := c) hreceiver hname ?_ hitem e
    simpa only [String.append_assoc, List.cons_append] using spells_arrow hi hparam hzs

end Expr

end Trigger
