import Trigger.Compile
import Trigger.Proofs.Grammar.Text

/-!
# Texts that can be read compile

The lexemes of a text name no operators but those that exist, and the grammar makes nothing but
checked trees of such lexemes. Hence the check of a tree that was read never fails, and whether a
text compiles depends on nothing but the text.
-/

namespace Trigger

namespace Lexeme

/-- A word for a test names a test that exists. -/
def IsKnown : Lexeme → Prop
  | .keyword (.other _) _ => False
  | _ => True

/-- The long operators are known. -/
theorem isKnown_of_longOperator? {s : List Char} {x : Lexeme} {n : Nat}
    (h : longOperator? s = some (x, n)) : x.IsKnown := by
  unfold longOperator? at h
  split at h <;> cases h <;> trivial

/-- The lexemes of one character are known. -/
theorem isKnown_of_ofChar? {c : Char} {x : Lexeme} (h : ofChar? c = some x) : x.IsKnown := by
  unfold ofChar? at h
  split at h <;> cases h <;> trivial

/-- What a word stands for is known. -/
theorem isKnown_ofWord (word : String) : (ofWord word).IsKnown := by
  unfold ofWord
  split <;> trivial

/-- The lexemes of a pattern between tildes are known. -/
theorem isKnown_patternCall (pattern modes : List Char) :
    ∀ x ∈ patternCall pattern modes, x.IsKnown := by
  intro x hx
  unfold patternCall at hx
  split at hx <;> simp at hx
  · rcases hx with rfl | rfl | rfl | rfl <;> trivial
  · rcases hx with rfl | rfl | rfl | rfl | rfl | rfl <;> trivial

/-- The lexemes that start with a character are known. -/
theorem isKnown_of_readAt {c : Char} {rest : List Char} {xs : List Lexeme} {n : Nat}
    (h : readAt c rest = .ok (xs, n)) : ∀ x ∈ xs, x.IsKnown := by
  revert h
  fun_cases readAt c rest
  case case1 | case6 | case9 =>
    intro h
    cases h
  case case2 pattern m _ modes =>
    rintro ⟨⟩
    exact isKnown_patternCall pattern modes
  case case3 x m hx =>
    rintro ⟨⟩
    exact List.forall_mem_singleton.mpr (isKnown_of_longOperator? hx)
  case case5 x hx =>
    rintro ⟨⟩
    exact List.forall_mem_singleton.mpr (isKnown_of_ofChar? hx)
  case case8 =>
    rintro ⟨⟩
    exact List.forall_mem_singleton.mpr (isKnown_ofWord _)
  case case4 | case7 =>
    rintro ⟨⟩
    exact List.forall_mem_singleton.mpr trivial

end Lexeme

/-- What holds of all lexemes that start with a character holds of all lexemes of a text. -/
theorem Token.forall_of_readFrom {P : Lexeme → Prop}
    (hP : ∀ {c rest xs n}, Lexeme.readAt c rest = .ok (xs, n) → ∀ x ∈ xs, P x) {position : Nat}
    {s : List Char} {tokens : List Token} (h : readFrom position s = .ok tokens) :
    ∀ t ∈ tokens, P t.lexeme := by
  fun_induction readFrom position s generalizing tokens with
  | case1 =>
    cases h
    exact fun t ht => absurd ht List.not_mem_nil
  | case2 position c s hspace ih => exact ih h
  | case3 => cases h
  | case4 position c s hspace xs n hat ih =>
    obtain ⟨more, hmore, heq⟩ := bind_eq_ok_iff.mp h
    cases heq
    intro t ht
    obtain hfirst | hlater := List.mem_append.mp ht
    · obtain ⟨x, hx, rfl⟩ := List.mem_map.mp hfirst
      exact hP hat x hx
    · exact ih hmore t hlater

/-- The lexemes of a text are known. -/
theorem Token.isKnown_of_readFrom {position : Nat} {s : List Char} {tokens : List Token}
    (h : readFrom position s = .ok tokens) : ∀ t ∈ tokens, t.lexeme.IsKnown :=
  forall_of_readFrom Lexeme.isKnown_of_readAt h

namespace Expr

variable {a b : Expr}

/-- A sign that exists in front of a tree that passes the check. -/
theorem check_unary {op : UnaryOperator} (hop : ∀ s, op ≠ .other s) (h : a.check = .ok ()) :
    (unary op a).check = .ok () := by
  cases op with
  | other s => exact absurd rfl (hop s)
  | _ =>
    simp only [check, h]
    rfl

/-- A connective that has a class of strength between trees that pass the check. -/
theorem check_join {c : Connective} (hrank : c.rank ≠ 0) (ha : a.check = .ok ())
    (hb : b.check = .ok ()) : (c.join a b).check = .ok () := by
  cases c with
  | binary op =>
    cases op with
    | other s => exact absurd rfl hrank
    | _ =>
      simp only [Connective.join, check, ha, hb]
      rfl
  | logical op =>
    cases op with
    | other s => exact absurd rfl hrank
    | _ =>
      simp only [Connective.join, check, ha, hb]
      rfl

/-- A query with a test that exists for a value that passes the check. -/
theorem check_query {field : String} {op : QueryOperator} (hop : ∀ s, op ≠ .other s)
    (h : a.check = .ok ()) : (query field op a).check = .ok () := by
  cases op with
  | other s => exact absurd rfl (hop s)
  | _ => simpa only [check] using h

/-- A tree that passes the check indexed by one that does. -/
theorem check_index (ha : a.check = .ok ()) (hb : b.check = .ok ()) :
    (index a b).check = .ok () := by
  simp only [check, ha]
  exact hb

/-- A call of a tree that passes the check with arguments that do. -/
theorem check_call {args : List Expr} (h : a.check = .ok ()) (hargs : checkAll args = .ok ()) :
    (call a args).check = .ok () := by
  simp only [check, hargs]
  exact h

/-- One tree more that passes the check. -/
theorem checkAll_cons {es : List Expr} (h : a.check = .ok ()) (hes : checkAll es = .ok ()) :
    checkAll (a :: es) = .ok () := by
  simp only [checkAll, h]
  exact hes

end Expr

namespace Grammar

/-- The trees in a phrase pass the check. -/
def Phrase.Checks : Phrase → Prop
  | .row _ e => e.check = .ok ()
  | .postfixed e => e.check = .ok ()
  | .chain e => e.check = .ok ()
  | .primary e => e.check = .ok ()
  | .list _ es => Expr.checkAll es = .ok ()
  | .items _ es => Expr.checkAll es = .ok ()
  | .item _ e => e.check = .ok ()

/-- A sign is one that exists. -/
theorem Signs.ne_other {x : Lexeme} {op : UnaryOperator} (h : Signs x op) (s : String) :
    op ≠ .other s := by
  cases h <;> simp

/-- A word for a test that is known names a test that exists. -/
theorem ne_other_of_isKnown {op : QueryOperator} {spelling : String}
    (h : (Lexeme.keyword op spelling).IsKnown) (s : String) : op ≠ .other s := by
  rintro rfl
  exact h

/-- What known lexemes make up passes the check. -/
theorem checks_of_derives {xs : List Lexeme} {p : Phrase} (h : Derives xs p)
    (hxs : ∀ x ∈ xs, x.IsKnown) : p.Checks := by
  induction h with
  | constant c => rfl
  | name _ => rfl
  | noItems => rfl
  | operand _ ih | unsigned _ ih | alone _ ih | start _ ih | someItems _ ih | plain _ ih =>
    exact ih hxs
  | join _ hjoin _ ihleft ihright =>
    simp only [List.forall_mem_append, List.forall_mem_cons] at hxs
    obtain ⟨-, hrank, hpos⟩ := joins_iff.mp hjoin
    exact Expr.check_join (by omega) (ihleft hxs.1) (ihright hxs.2.2)
  | sign hsign _ ih =>
    rw [List.forall_mem_cons] at hxs
    exact Expr.check_unary hsign.ne_other (ih hxs.2)
  | query _ _ _ _ _ _ ihvalue =>
    simp only [List.forall_mem_append, List.forall_mem_cons] at hxs
    exact Expr.check_query (by simp) (ihvalue hxs.2.2)
  | queryColon _ _ _ _ _ ihvalue =>
    simp only [List.forall_mem_append, List.forall_mem_cons] at hxs
    exact Expr.check_query (ne_other_of_isKnown hxs.2.2.1) (ihvalue hxs.2.2.2)
  | queryDot _ _ _ _ ihvalue =>
    simp only [List.forall_mem_append, List.forall_mem_cons] at hxs
    exact Expr.check_query (ne_other_of_isKnown hxs.2.2.1) (ihvalue hxs.2.2.2.2)
  | property _ _ ih =>
    simp only [List.forall_mem_append] at hxs
    exact ih hxs.1
  | method _ _ _ ih ihargs =>
    simp only [List.forall_mem_append, List.forall_mem_cons] at hxs
    exact Expr.check_call (ih hxs.1.1) (ihargs hxs.1.2.2.2.2)
  | index _ _ ih ihkey =>
    simp only [List.forall_mem_append, List.forall_mem_cons] at hxs
    exact Expr.check_index (ih hxs.1.1) (ihkey hxs.1.2.2)
  | call _ _ ih ihargs =>
    simp only [List.forall_mem_append, List.forall_mem_cons] at hxs
    exact Expr.check_call (ih hxs.1.1) (ihargs hxs.1.2.2)
  | round _ ih | square _ ih =>
    simp only [List.cons_append, List.forall_mem_append, List.forall_mem_cons] at hxs
    exact ih hxs.2.1
  | lastItem _ ih => exact Expr.checkAll_cons (ih hxs) rfl
  | moreItems _ _ ih ihrest =>
    simp only [List.forall_mem_append, List.forall_mem_cons] at hxs
    exact Expr.checkAll_cons (ih hxs.1) (ihrest hxs.2.2)
  | arrow _ ih =>
    simp only [List.forall_mem_cons] at hxs
    exact ih hxs.2.2
  | arrowRound _ ih =>
    simp only [List.forall_mem_cons] at hxs
    exact ih hxs.2.2.2.2

end Grammar

/-! ## Compiling texts -/

/-- What is read from a text passes the check. -/
theorem Expr.check_of_read {text : String} {e : Expr} (h : Expr.read text = .ok e) :
    e.check = .ok () := by
  obtain ⟨tokens, htokens, hderives⟩ := read_eq_ok_iff_derives.mp h
  refine Grammar.checks_of_derives hderives fun x hx => ?_
  obtain ⟨t, ht, rfl⟩ := List.mem_map.mp hx
  exact Token.isKnown_of_readFrom htokens t ht

namespace Evaluator

variable {text : String} {body : Expr} {room : Option Nat}

/-- A text that can be read compiles to what was read, if that can be compiled with so many nested
calls. -/
theorem ofText_of_fits (h : Expr.read text = .ok body) (hroom : body.fits room = true)
    (context : ContextKind) (target : Option String) :
    ofText text context target room = .ok ⟨text, context, target, body⟩ := by
  unfold ofText ofTree
  simp only [h, Expr.check_of_read h, hroom, if_true]

/-- A text that can be read compiles to what was read where nested calls are not limited. -/
theorem ofText_of_read (h : Expr.read text = .ok body) (context : ContextKind)
    (target : Option String) :
    ofText text context target = .ok ⟨text, context, target, body⟩ :=
  ofText_of_fits h rfl context target

/-- A text that can be read does not compile if that takes more nested calls. -/
theorem ofText_of_not_fits (h : Expr.read text = .ok body) (hroom : body.fits room = false)
    (context : ContextKind) (target : Option String) :
    ofText text context target room = .error .tooDeep := by
  unfold ofText
  simp only [h, hroom, Bool.false_eq_true, if_false]

/-- A text that cannot be read does not compile, for the same reason. -/
theorem ofText_of_error {error : ReadError} (h : Expr.read text = .error error)
    (context : ContextKind) (target : Option String) :
    ofText text context target room = .error (.read error) := by
  unfold ofText
  simp only [h]

/-- Where nested calls are not limited, there are never too many. -/
theorem ofText_ne_tooDeep (text : String) (context : ContextKind) (target : Option String) :
    ofText text context target ≠ .error .tooDeep := by
  intro h
  cases hread : Expr.read text with
  | ok body => exact nomatch (ofText_of_read hread context target).symm.trans h
  | error error => exact nomatch (ofText_of_error hread context target).symm.trans h

end Evaluator

end Trigger
