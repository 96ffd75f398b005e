import Trigger.Proofs.Composition.Basic
import Trigger.Proofs.Lookup.Path
import Trigger.Proofs.Validity.Basic

/-!
# Queries as arguments of methods

A query on a path of names can be handed to a method as it is, or as the body of an arrow function
whose parameter, with a point behind it, stands in front of the path. The texts of both calls are
read, and the paths of the two queries differ by the parameter.

Behind a point a word for a test that a colon follows is always the test. So a path of several names
in front of a colon does not end in such a word: the word is the test of a query on the names before
it, and then no second test can stand behind the colon.
-/

namespace Trigger

/-- A word stands for a test. -/
def QueryOperator.IsSpelled (op : QueryOperator) (word : String) : Prop :=
  Lexeme.ofWord word = .keyword op word

/-- A word for a test can be a name. -/
theorem QueryOperator.IsSpelled.isName {op : QueryOperator} {word : String}
    (h : op.IsSpelled word) : Expr.IsName word := by
  unfold IsSpelled Lexeme.ofWord at h
  split at h
  case h_20 => exact nomatch h
  all_goals first | decide | exact nomatch h

namespace Lexeme

variable {s rest : List Char} {xs ys : List Lexeme} {x : String}

/-- A name in front of a text that does not go on with it. -/
theorem Spells.word (h : Spells rest ys) (hx : Expr.IsName x)
    (hstop : ∀ c ∈ rest.head?, continuesName c = false) :
    Spells (x.toList ++ rest) (ofWord x :: ys) := by
  obtain ⟨c, cs, hchars, hc, hcs⟩ := hx.shape
  have hword : String.ofList (c :: cs) = x := by rw [← hchars, String.ofList_toList]
  have hspace : Text.isSpace c = false := isSpace_eq_false (continuesName_of_startsName hc)
  obtain ⟨more, hmore, rfl⟩ := h.readFrom (0 + 1 + cs.length)
  refine ⟨⟨ofWord x, 0⟩ :: more, ?_, rfl⟩
  rw [hchars, List.cons_append, Token.readFrom, hspace, readAt_word hc hcs hstop, hword]
  simp only [Bool.false_eq_true, if_false, List.drop_left, hmore]
  rfl

/-- A point and a name in front of a text that does not go on with the name. -/
theorem Spells.member (h : Spells rest ys) (hx : Expr.IsName x)
    (hstop : ∀ c ∈ rest.head?, continuesName c = false) :
    Spells ('.' :: (x.toList ++ rest)) (.dot :: ofWord x :: ys) := by
  refine (h.word hx hstop).cons (by decide) ?_
  -- no number starts with the point, because a name starts with no digit
  obtain ⟨c, cs, hchars, hc, -⟩ := hx.shape
  have hlong : longOperator? ('.' :: c :: (cs ++ rest)) = none := rfl
  have hnumber : startsNumber '.' (c :: (cs ++ rest)) = false :=
    isDigit_eq_false_of_startsName hc
  rw [hchars, List.cons_append, readAt, if_neg (by decide)]
  simp only [hlong, hnumber, ofChar?, Bool.false_eq_true, if_false]

/-- The sign of an arrow function between blanks. -/
theorem Spells.doubleArrow (h : Spells rest ys) :
    Spells (' ' :: '=' :: '>' :: ' ' :: rest) (.doubleArrow :: ys) := by
  have hsign : Spells ['=', '>'] [.doubleArrow] := spells_singleton (by decide) rfl
  exact (hsign.append h.blank ⟨by decide, by decide⟩).blank

end Lexeme

namespace Expr

open Grammar (Derives EndsInKeyword StartsWithKeyword)
open Lexeme (Spells continuesName)

variable {path tail field last x i v word receiver name argument : String} {op : QueryOperator}
variable {c : Constant} {xs ys zs : List Lexeme} {e A B : Expr}

/-! ## Paths of names -/

/-- A path of names with points between them, and its last name. -/
inductive IsDotted : String → String → Prop
  | name {x : String} (hx : IsName x) : IsDotted x x
  | member {path last x : String} (h : IsDotted path last) (hx : IsName x) :
      IsDotted (path ++ "." ++ x) x

/-- A name in front of a path of names. -/
theorem IsDotted.cons (h : IsDotted path last) (hi : IsName i) :
    IsDotted (i ++ "." ++ path) last := by
  induction h with
  | name hx => exact .member (.name hi) hx
  | member _ hx ih =>
    rw [← String.append_assoc, ← String.append_assoc]
    exact .member ih hx

/-- The last name of a path is a name. -/
theorem IsDotted.isName_last (h : IsDotted path last) : IsName last := by
  cases h <;> assumption

/-- A longer path is no name. -/
theorem append_ne_of_isName (hx : IsName x) : path ++ "." ++ x ≠ x := by
  intro heq
  have hmem : '.' ∈ (path ++ "." ++ x).toList := by simp
  rw [heq] at hmem
  exact hx.ne_point '.' hmem rfl

/-- A path of names is a chain of members with this path. It ends in a point and a word for a test
only if it has several names, the last of which is such a word. -/
theorem IsDotted.exists_chain (h : IsDotted path last) :
    ∃ xs e, Derives xs (.chain e) ∧ e.fieldPath? = some path ∧
      (path = last ∨ Lexeme.ofWord last = .name last → ¬EndsInKeyword xs) ∧
      ∀ rest ys, Spells rest ys → (∀ c ∈ rest.head?, continuesName c = false) →
        Spells (path.toList ++ rest) (xs ++ ys) := by
  induction h with
  | @name x hx =>
    refine ⟨[.ofWord x], .name x, .start (.name hx.names), rfl, fun _ hend => ?_,
      fun _ _ hrest hstop => hrest.word hx hstop⟩
    obtain ⟨zs, op, spelling, hzs⟩ := hend
    simpa using congrArg List.length hzs
  | @member path last x _ hx ih =>
    obtain ⟨xs, e, hchain, hfield, -, hspells⟩ := ih
    refine ⟨xs ++ [.dot, .ofWord x], .member e x, .property hchain hx.names,
      by rw [fieldPath?, hfield]; rfl, fun hlast hend => ?_, fun rest ys hrest hstop => ?_⟩
    · obtain ⟨zs, op, spelling, hzs⟩ := hend
      have hword : Lexeme.ofWord x = .keyword op spelling := by
        simpa using (List.append_inj' hzs rfl).2
      rcases hlast with hlast | hlast
      · exact append_ne_of_isName hx hlast
      · rw [hlast] at hword
        cases hword
    · have hmember := hspells _ _ (hrest.member hx hstop) (by simp; decide)
      simpa using hmember

/-! ## Queries -/

/-- A constant is the right side of a query. -/
theorem derives_constant (c : Constant) : Derives [.constant c] (.row 0 (.literal c.value)) :=
  .unsigned (.alone (.start (.constant c)))

/-- A query is an expression. -/
theorem read_of_postfixed {text : String} (hspells : Spells text.toList xs)
    (hderives : Derives xs (.postfixed e)) : Expr.read text = .ok e :=
  read_eq_ok_iff.mpr ⟨xs, hspells, derives_row_mono (.unsigned hderives) (Nat.zero_le 6)⟩

/-- A path with a test before the colon. -/
theorem IsDotted.read_before (h : IsDotted path last) (hword : op.IsSpelled word)
    (hv : Spells v.toList [.constant c]) :
    Expr.read (path ++ ("." ++ word ++ ": ") ++ v) = .ok (.query path op (.literal c.value)) := by
  obtain ⟨xs, e, hchain, hfield, -, hspells⟩ := h.exists_chain
  have hcolon := hv.blank.cons (c := ':') (x := .colon) (by decide) rfl
  have hmember := hcolon.member hword.isName (by simp; decide)
  rw [show Lexeme.ofWord word = .keyword op word from hword] at hmember
  have hquery : Derives (xs ++ [.dot, .keyword op word, .colon, .constant c])
      (.postfixed (.query path op (.literal c.value))) :=
    .queryDot hchain hfield (derives_constant c)
  refine read_of_postfixed ?_ hquery
  simpa using hspells _ _ hmember (by simp; decide)

/-- A path with a bare colon. -/
theorem IsDotted.read_bare (h : IsDotted path last)
    (hlast : path = last ∨ Lexeme.ofWord last = .name last)
    (hv : Spells v.toList [.constant c]) :
    Expr.read (path ++ ": " ++ v) = .ok (.query path .equals (.literal c.value)) := by
  obtain ⟨xs, e, hchain, hfield, hend, hspells⟩ := h.exists_chain
  have hcolon := hv.blank.cons (c := ':') (x := .colon) (by decide) rfl
  have hstart : ¬StartsWithKeyword [.constant c] := by
    rintro ⟨op, spelling, zs, hzs⟩
    cases hzs
  refine read_of_postfixed ?_
    (.query hchain (hend hlast) hfield (derives_constant c) hstart)
  simpa using hspells _ _ hcolon (by simp; decide)

/-- A path with a test behind the colon. -/
theorem IsDotted.read_behind (h : IsDotted path last)
    (hlast : path = last ∨ Lexeme.ofWord last = .name last) (hword : op.IsSpelled word)
    (hv : Spells v.toList [.constant c]) :
    Expr.read (path ++ (": " ++ word ++ " ") ++ v) = .ok (.query path op (.literal c.value)) := by
  obtain ⟨xs, e, hchain, hfield, hend, hspells⟩ := h.exists_chain
  have htest := hv.blank.word hword.isName (by simp; decide)
  rw [show Lexeme.ofWord word = .keyword op word from hword] at htest
  have hcolon := htest.blank.cons (c := ':') (x := .colon) (by decide) rfl
  have hquery : Derives (xs ++ [.colon, .keyword op word, .constant c])
      (.postfixed (.query path op (.literal c.value))) :=
    .queryColon hchain (hend hlast) hfield (derives_constant c)
  refine read_of_postfixed ?_ hquery
  simpa using hspells _ _ hcolon (by simp; decide)

/-- A path and what stands between it and a constant make up a query with a path and a test. -/
inductive Asks : String → String → String → QueryOperator → Prop
  | before {path last word : String} {op : QueryOperator} (h : IsDotted path last)
      (hword : op.IsSpelled word) : Asks path ("." ++ word ++ ": ") path op
  | bare {path last : String} (h : IsDotted path last)
      (hlast : Lexeme.ofWord last = .name last) : Asks path ": " path .equals
  | behind {path last word : String} {op : QueryOperator} (h : IsDotted path last)
      (hlast : Lexeme.ofWord last = .name last) (hword : op.IsSpelled word) :
      Asks path (": " ++ word ++ " ") path op
  /-- The last of several names before a bare colon is the test if it is a word for one. -/
  | last {path last word : String} {op : QueryOperator} (h : IsDotted path last)
      (hword : op.IsSpelled word) : Asks (path ++ "." ++ word) ": " path op

/-- The query is read from the text. -/
theorem Asks.read (h : Asks path tail field op) (hv : Spells v.toList [.constant c]) :
    Expr.read (path ++ tail ++ v) = .ok (.query field op (.literal c.value)) := by
  cases h with
  | before h hword => exact h.read_before hword hv
  | bare h hlast => exact h.read_bare (.inr hlast) hv
  | behind h hlast hword => exact h.read_behind (.inr hlast) hword hv
  | last h hword =>
    have hread := h.read_before hword hv
    simpa only [String.append_assoc] using hread

/-- A name in front of the path of a query is the first name of the path that is tested. -/
theorem Asks.cons (h : Asks path tail field op) (hi : IsName i) :
    Asks (i ++ "." ++ path) tail (i ++ "." ++ field) op := by
  cases h with
  | before h hword => exact .before (h.cons hi) hword
  | bare h hlast => exact .bare (h.cons hi) hlast
  | behind h hlast hword => exact .behind (h.cons hi) hlast hword
  | last h hword =>
    rw [← String.append_assoc, ← String.append_assoc]
    exact .last (h.cons hi) hword

/-- A path of names before a bare colon makes up a query, unless it is a single word for a test. -/
theorem IsDotted.exists_asks (h : IsDotted path last)
    (hpath : ∀ op : QueryOperator, ¬op.IsSpelled path) : ∃ field op, Asks path ": " field op := by
  have hnames := h.isName_last.names
  generalize hlexeme : Lexeme.ofWord last = y at hnames
  cases hnames with
  | name => exact ⟨_, _, .bare h hlexeme⟩
  | keyword op =>
    cases h with
    | name => exact absurd hlexeme (hpath op)
    | member h => exact ⟨_, _, .last h hlexeme⟩

/-! ## Calls of methods -/

/-- The lexemes of a call of a method on a name. -/
theorem spells_method (hreceiver : IsName receiver) (hname : IsName name)
    (hspells : Spells argument.toList zs) :
    Spells (receiver ++ "." ++ name ++ "(" ++ argument ++ ")").toList
      (.ofWord receiver :: .dot :: .ofWord name :: .openRound :: (zs ++ [.closeRound])) := by
  have hclose := hspells.append (Lexeme.spells_nil.cons (c := ')') (x := .closeRound) (by decide)
    rfl) ⟨by decide, by decide⟩
  have hopen := hclose.cons (c := '(') (x := .openRound) (by decide) rfl
  have hmember := hopen.member hname (by simp; decide)
  simpa using hmember.word hreceiver (by simp; decide)

/-- The lexemes of an arrow function. -/
theorem spells_arrow {body : String} (hi : IsName i) (hparam : Lexeme.ofWord i = .name i)
    (hspells : Spells body.toList zs) :
    Spells (i ++ " => " ++ body).toList (.name i :: .doubleArrow :: zs) := by
  have harrow := hspells.doubleArrow.word hi (by simp; decide)
  rw [hparam] at harrow
  simpa using harrow

/-- A call of a method on a name, with one argument. -/
theorem read_method (hreceiver : IsName receiver) (hname : IsName name)
    (hspells : Spells argument.toList zs) (hitem : Derives zs (.item .round A)) :
    Expr.read (receiver ++ "." ++ name ++ "(" ++ argument ++ ")") =
      .ok (.call (.member (.name receiver) name) [A]) := by
  have hcall := Derives.method (.start (.name hreceiver.names)) hname.names
    (.someItems (.lastItem hitem))
  refine read_of_postfixed (spells_method hreceiver hname hspells) ?_
  simpa using Derives.alone hcall

/-- A call of a method with an expression. -/
theorem read_method_plain (hreceiver : IsName receiver) (hname : IsName name)
    (hargument : Expr.read argument = .ok A) :
    Expr.read (receiver ++ "." ++ name ++ "(" ++ argument ++ ")") =
      .ok (.call (.member (.name receiver) name) [A]) := by
  obtain ⟨zs, hzs, hA⟩ := read_eq_ok_iff.mp hargument
  exact read_method hreceiver hname hzs (.plain hA)

/-- A call of a method with an arrow function. -/
theorem read_method_arrow {body : String} (hreceiver : IsName receiver) (hname : IsName name)
    (hi : IsName i) (hparam : Lexeme.ofWord i = .name i) (hbody : Expr.read body = .ok B) :
    Expr.read (receiver ++ "." ++ name ++ "(" ++ (i ++ " => " ++ body) ++ ")") =
      .ok (.call (.member (.name receiver) name) [.arrow [i] B]) := by
  obtain ⟨zs, hzs, hB⟩ := read_eq_ok_iff.mp hbody
  exact read_method hreceiver hname (spells_arrow hi hparam hzs) (.arrow hB)

end Expr

end Trigger
