import Trigger.Eval.Standard
import Trigger.Proofs.Composition.Basic
import Trigger.Proofs.Lookup.Path
import Trigger.Proofs.Validity.Basic

/-!
# The left side of a query

A text that is a chain of members is the left side of a query if a colon comes next, unless it ends
in a point and a word for a test. The query remembers the path of the chain only. About a record of
data, it tests the value that the chain has on its own, as the same text does in front of an
equality: both find it under the names of the path, which the text of a key without a point is one
of. What is undefined passes no query.
-/

namespace Trigger

/-! ## Names without points -/

namespace Lexeme

/-- A name has no point in it, and no word for a test stands for equality. -/
def IsPlain : Lexeme → Prop
  | .name x => '.' ∉ x.toList
  | .keyword op spelling => op ≠ .equals ∧ '.' ∉ spelling.toList
  | _ => True

/-- What a word without a point stands for. -/
theorem isPlain_ofWord {word : String} (h : '.' ∉ word.toList) : (ofWord word).IsPlain := by
  unfold ofWord
  split
  case h_20 => exact h
  all_goals trivial

/-- The lexemes of a pattern between tildes. -/
theorem isPlain_patternCall (pattern modes : List Char) :
    ∀ x ∈ patternCall pattern modes, x.IsPlain := by
  have hname : (Lexeme.name "regex").IsPlain := by
    change '.' ∉ "regex".toList
    decide
  intro x hx
  unfold patternCall at hx
  split at hx <;> simp at hx
  · rcases hx with rfl | rfl | rfl | rfl <;> first | exact hname | trivial
  · rcases hx with rfl | rfl | rfl | rfl | rfl | rfl <;> first | exact hname | trivial

/-- The lexemes that start with a character. -/
theorem isPlain_of_readAt {c : Char} {rest : List Char} {xs : List Lexeme} {n : Nat}
    (h : readAt c rest = .ok (xs, n)) : ∀ x ∈ xs, x.IsPlain := by
  revert h
  fun_cases readAt c rest
  case case1 | case6 | case9 =>
    intro h
    cases h
  case case2 pattern m _ modes =>
    rintro ⟨⟩
    exact isPlain_patternCall pattern modes
  case case3 x m hx =>
    rintro ⟨⟩
    refine List.forall_mem_singleton.mpr ?_
    unfold longOperator? at hx
    split at hx <;> cases hx <;> trivial
  case case5 x hx =>
    rintro ⟨⟩
    refine List.forall_mem_singleton.mpr ?_
    unfold ofChar? at hx
    split at hx <;> cases hx <;> trivial
  case case8 hstart more =>
    rintro ⟨⟩
    refine List.forall_mem_singleton.mpr (isPlain_ofWord ?_)
    rw [String.toList_ofList, List.mem_cons, not_or]
    refine ⟨?_, fun hmem => ?_⟩
    · rintro rfl
      exact absurd hstart (by decide)
    · exact absurd (List.all_eq_true.mp List.all_takeWhile '.' hmem) (by decide)
  case case4 | case7 =>
    rintro ⟨⟩
    exact List.forall_mem_singleton.mpr trivial

/-- The lexemes of a text. -/
theorem isPlain_of_spells {s : List Char} {xs : List Lexeme} (h : Spells s xs) :
    ∀ x ∈ xs, x.IsPlain := by
  obtain ⟨tokens, htokens, rfl⟩ := h
  exact List.forall_mem_map.mpr (Token.forall_of_readFrom isPlain_of_readAt htokens)

end Lexeme

namespace Grammar

/-- The chain in a phrase has names without points. -/
def Phrase.HasPlainNames : Phrase → Prop
  | .row _ e => e.HasPlainNames
  | .postfixed e => e.HasPlainNames
  | .chain e => e.HasPlainNames
  | .primary e => e.HasPlainNames
  | _ => True

/-- The name that a lexeme stands for has no point. -/
theorem Names.point_not_mem {x : Lexeme} {s : String} (h : Names x s) (hx : x.IsPlain) :
    '.' ∉ s.toList := by
  cases h with
  | name => exact hx
  | keyword => exact hx.2

/-- What plain lexemes make up has names without points. -/
theorem hasPlainNames_of_derives {xs : List Lexeme} {p : Phrase} (h : Derives xs p)
    (hxs : ∀ x ∈ xs, x.IsPlain) : p.HasPlainNames := by
  induction h with
  | operand _ ih | unsigned _ ih | alone _ ih | start _ ih => exact ih hxs
  | join _ hjoin => cases hjoin <;> trivial
  | name hname => exact hname.point_not_mem (hxs _ (by simp))
  | property _ hname ih =>
    simp only [List.forall_mem_append, List.forall_mem_cons] at hxs
    exact ⟨ih hxs.1, hname.point_not_mem hxs.2.2.1⟩
  | index _ _ ih =>
    simp only [List.forall_mem_append] at hxs
    exact ih hxs.1.1
  | round _ ih =>
    simp only [List.cons_append, List.forall_mem_append, List.forall_mem_cons] at hxs
    exact ih hxs.2.1
  | _ => trivial

/-- What members can follow is only made up as a chain. -/
theorem derives_chain_of_isChain {e : Expr} (he : e.isChain = true) {xs : List Lexeme} {k : Nat}
    (h : Derives xs (.row k e)) : Derives xs (.chain e) := by
  induction k with
  | zero =>
    cases h with
    | sign => cases he
    | unsigned h =>
      cases h with
      | alone h => exact h
      | query | queryColon | queryDot => cases he
  | succ k ih =>
    cases h with
    | operand h => exact ih h
    | join _ hjoin => cases hjoin <;> cases he

/-- A chain that ends in a point and a word for a test is a member of that name. -/
theorem derives_chain_keyword {xs : List Lexeme} {op : QueryOperator} {spelling : String} {e : Expr}
    (h : Derives (xs ++ [.dot, .keyword op spelling]) (.chain e)) :
    ∃ obj, e = .member obj spelling ∧ Derives xs (.chain obj) := by
  generalize hall : xs ++ [.dot, .keyword op spelling] = all at h
  have hlast : all.getLast? = some (.keyword op spelling) := by simp [← hall]
  cases h with
  | start h =>
    cases h with
    | constant => cases hlast
    | name =>
      have hlength := congrArg List.length hall
      simp at hlength
    | round | square =>
      rw [List.getLast?_concat] at hlast
      cases hlast
  | property h hname =>
    obtain ⟨rfl, htail⟩ := List.append_inj' hall rfl
    cases htail
    cases hname
    exact ⟨_, rfl, h⟩
  | method | index | call =>
    rw [List.getLast?_concat] at hlast
    cases hlast

end Grammar

namespace Expr

open Grammar (Derives EndsInKeyword StartsWithKeyword)
open Lexeme (Spells)

variable {base left value field : String} {L V : Expr} {xs ys : List Lexeme} {entries : Fields}

/-! ## Queries and equalities -/

/-- Members can follow a chain of members. -/
theorem IsPath.isChain (h : L.IsPath base) : L.isChain = true := by cases h <;> rfl

/-- A chain of members has a path. -/
theorem IsPath.exists_fieldPath? (h : L.IsPath base) : ∃ field, L.fieldPath? = some field := by
  induction h with
  | name => exact ⟨base, rfl⟩
  | member _ property ih =>
    obtain ⟨field, hfield⟩ := ih
    exact ⟨field ++ "." ++ property, by rw [fieldPath?, hfield]; rfl⟩
  | index _ _ ih =>
    obtain ⟨field, hfield⟩ := ih
    exact ⟨_, by rw [fieldPath?, hfield]; rfl⟩

/-- A text with a colon and a text in round brackets behind it. -/
theorem spells_colon (hleft : Spells left.toList xs) (hvalue : Spells value.toList ys) :
    Spells (left ++ ": (" ++ value ++ ")").toList
      (xs ++ .colon :: .openRound :: ys ++ [.closeRound]) := by
  have hcolon := (hvalue.round Lexeme.spells_nil).blank.cons (c := ':') (x := .colon) (by decide) rfl
  simpa using hleft.append hcolon ⟨by decide, by decide⟩

/-- A chain that does not end in a point and a word for a test is the left side of a query. -/
theorem read_query (hleft : Spells left.toList xs) (hchain : Derives xs (.chain L))
    (hend : ¬EndsInKeyword xs) (hfield : L.fieldPath? = some field)
    (hvalue : Expr.read value = .ok V) :
    Expr.read (left ++ ": (" ++ value ++ ")") = .ok (.query field .equals V) := by
  obtain ⟨ys, hys, hV⟩ := read_eq_ok_iff.mp hvalue
  have hstart : ¬StartsWithKeyword (.openRound :: ys ++ [.closeRound]) := by
    rintro ⟨op, spelling, zs, hzs⟩
    cases hzs
  have hquery := Derives.query hchain hend hfield (derives_round hV 0) hstart
  refine read_eq_ok_iff.mpr ⟨_, spells_colon hleft hys, ?_⟩
  simpa using derives_row_mono (.unsigned hquery) (Nat.zero_le 6)

/-- A chain that ends in a bracket is the left side of a query. -/
theorem read_query_index {obj key : Expr} (hleft : Expr.read left = .ok (.index obj key))
    (hfield : (Expr.index obj key).fieldPath? = some field) (hvalue : Expr.read value = .ok V) :
    Expr.read (left ++ ": (" ++ value ++ ")") = .ok (.query field .equals V) := by
  obtain ⟨xs, hspells, hderives⟩ := read_eq_ok_iff.mp hleft
  have hchain := Grammar.derives_chain_of_isChain rfl hderives
  refine read_query hspells hchain ?_ hfield hvalue
  rintro ⟨ys, op, spelling, rfl⟩
  obtain ⟨other, hother, -⟩ := Grammar.derives_chain_keyword hchain
  cases hother

/-- A chain that ends in a point and a word for a test is the left side of that test. -/
theorem read_queryDot {op : QueryOperator} {spelling : String}
    (hleft : Spells left.toList (xs ++ [.dot, .keyword op spelling]))
    (hchain : Derives xs (.chain L)) (hfield : L.fieldPath? = some field)
    (hvalue : Expr.read value = .ok V) :
    Expr.read (left ++ ": (" ++ value ++ ")") = .ok (.query field op V) := by
  obtain ⟨ys, hys, hV⟩ := read_eq_ok_iff.mp hvalue
  have hquery : Derives (xs ++ .dot :: .keyword op spelling :: .colon ::
      (.openRound :: ys ++ [.closeRound])) (.postfixed (.query field op V)) :=
    .queryDot hchain hfield (derives_round hV 0)
  refine read_eq_ok_iff.mpr ⟨_, spells_colon hleft hys, ?_⟩
  simpa using derives_row_mono (.unsigned hquery) (Nat.zero_le 6)

/-- A chain is the left side of an equality. -/
theorem read_looseEq (hleft : Spells left.toList xs) (hchain : Derives xs (.chain L))
    (hvalue : Expr.read value = .ok V) :
    Expr.read (left ++ " == (" ++ value ++ ")") = .ok (.binary .looseEq L V) := by
  obtain ⟨ys, hys, hV⟩ := read_eq_ok_iff.mp hvalue
  have hoperator : ("==", .binary .looseEq) ∈ Connective.spellings := by decide
  obtain ⟨x, hx, hconnective⟩ := Lexeme.spells_connective hoperator
  have hright := (hx.append (hys.round Lexeme.spells_nil).blank ⟨by decide, by decide⟩).blank
  have hrow : Derives (xs ++ x :: (.openRound :: ys ++ [.closeRound]))
      (.row 4 (.binary .looseEq L V)) :=
    .join (derives_row_mono (.unsigned (.alone hchain)) (Nat.zero_le 4))
      (Grammar.joins_iff.mpr ⟨hconnective, rfl, by decide⟩) (derives_round hV 3)
  refine read_eq_ok_iff.mpr ⟨xs ++ x :: .openRound :: ys ++ [.closeRound], ?_, ?_⟩
  · simpa using hleft.append hright ⟨by decide, by decide⟩
  · simpa using derives_row_mono hrow (by decide)

/-- The value of a chain is no query. -/
theorem settle_of_isRegular {f : Frame} {v : Value} (h : v.IsRegular ∨ v = .undefined) :
    f.settle v = pure v := by
  rcases h with h | rfl
  · cases h <;> rfl
  · rfl

/-- A name of a record is a name of an expression about the record. -/
theorem valueOf_of_lookup (rt : Runtime) (env : Environment) (bindings : Fields) {v : Value}
    (h : entries.lookup base = some v) :
    (Frame.mk (Evaluator.surroundings env .object (.map entries) bindings) []).scopes.valueOf rt
      base = v := by
  simp [Frame.scopes, Scene.inside, Evaluator.surroundings, ScopeChain.valueOf, ScopeChain.resolve,
    ScopeChain.lookupIn, h]

/-- The left side of a query that tests equality does not end in a point and a word for a test. -/
theorem IsPath.not_endsInKeyword (hpath : L.IsPath base) (hspells : Spells left.toList xs)
    (hchain : Derives xs (.chain L)) (hvalue : Expr.read value = .ok V)
    (hquery : Expr.read (left ++ ": (" ++ value ++ ")") = .ok (.query field .equals V)) :
    ¬EndsInKeyword xs := by
  rintro ⟨ys, op, spelling, rfl⟩
  obtain ⟨obj, rfl, hobj⟩ := Grammar.derives_chain_keyword hchain
  cases hpath with
  | member hobjpath =>
    obtain ⟨other, hother⟩ := hobjpath.exists_fieldPath?
    have hdot := read_queryDot hspells hobj hother hvalue
    rw [hquery] at hdot
    obtain ⟨-, rfl, -⟩ := Expr.query.inj (Except.ok.inj hdot)
    exact (Lexeme.isPlain_of_spells hspells (.keyword .equals spelling) (by simp)).1 rfl

/-- The left side of a query about a record of data has the value that the path of the query leads
to. -/
theorem IsPath.evaluate_of_read (hpath : L.IsPath base) (hdata : (Value.map entries).IsData)
    (hbase : (entries.lookup base).isSome) (hspells : Spells left.toList xs)
    (hchain : Derives xs (.chain L)) (hvalue : Expr.read value = .ok V)
    (hquery : Expr.read (left ++ ": (" ++ value ++ ")") = .ok (.query field .equals V))
    (env : Environment) (hlanguage : env.host.language.IsRegular) (bindings : Fields)
    (apply : Value → List Value → Eval Value) :
    let around := Evaluator.surroundings env .object (.map entries) bindings
    let w := (Value.map entries).resolvePath around.runtime field
    (w.IsRegular ∨ w = .undefined) ∧ evaluate apply { around } L = pure w := by
  intro around w
  obtain ⟨v, hv⟩ := Option.isSome_iff_exists.mp hbase
  have hnames : L.HasPlainNames :=
    Grammar.hasPlainNames_of_derives hchain (Lexeme.isPlain_of_spells hspells)
  obtain ⟨other, hother, hregular, heval⟩ := hpath.evaluate_eq (f := { around }) hlanguage hnames
    hdata.isRegular hv (valueOf_of_lookup _ env bindings hv)
  have hend := hpath.not_endsInKeyword hspells hchain hvalue hquery
  have hread := read_query hspells hchain hend hother hvalue
  rw [hquery] at hread
  obtain ⟨rfl, -, -⟩ := Expr.query.inj (Except.ok.inj hread)
  exact ⟨hregular, heval apply⟩

/-- A query about a record of data tests the value of its left side, which is a chain of members
that starts at a field of the record: where its path leads is what the chain has for a value on its
own, and the same text in front of an equality compares that value. The query is not passed by
undefined, and anything else is compared in the same way. Attributes that the language gives to
numbers count as members. -/
theorem query_tests_left_side (hdata : (Value.map entries).IsData)
    (hbase : (entries.lookup base).isSome) (hpath : L.IsPath base)
    (hleft : Expr.read left = .ok L) (hvalue : Expr.read value = .ok V)
    (hquery : Expr.read (left ++ ": (" ++ value ++ ")") = .ok (.query field .equals V))
    (env : Environment) (hlanguage : env.host.language.IsRegular) (bindings : Fields) :
    let around := Evaluator.surroundings env .object (.map entries) bindings
    let w := (Value.map entries).resolvePath around.runtime field
    evaluateIn around L = pure w ∧
    (Expr.read (left ++ " == (" ++ value ++ ")") = .ok (.binary .looseEq L V) ∧
        let right := evaluate (applyAt around callDepth) { around } V
        evaluateIn around (.binary .looseEq L V) = (do
          let c ← right
          return .bool (← Eval.ofExcept (w.looseEquals around.host.language c))) ∧
        evaluateIn around (.query field .equals V) = (do
          let c ← right
          let _ ← Eval.freshId
          return .bool (← (Value.map entries).passes around.runtime field .equals c))) ∧
    ∀ c, (w = .undefined →
        (Value.map entries).passes around.runtime field .equals c = pure false) ∧
      (w ≠ .undefined → (Value.map entries).passes around.runtime field .equals c =
        w.answers around.runtime field .equals c) := by
  intro around w
  obtain ⟨xs, hspells, hderives⟩ := read_eq_ok_iff.mp hleft
  have hchain := Grammar.derives_chain_of_isChain hpath.isChain hderives
  have hvalueOf := hpath.evaluate_of_read hdata hbase hspells hchain hvalue hquery env hlanguage
    bindings
  refine ⟨?_, ⟨read_looseEq hspells hchain hvalue, ?_⟩,
    fun c => ⟨fun hundefined => ?_, fun hdefined => ?_⟩⟩
  · obtain ⟨hregular, heval⟩ := hvalueOf (applyAt _ callDepth)
    rw [evaluateIn, heval, pure_bind, settle_of_isRegular hregular]
  · intro right
    have heval := (hvalueOf (applyAt around callDepth)).2
    constructor
    · rw [evaluateIn, evaluate, heval]
      simp only [pure_bind, bind_assoc]
      rfl
    · rw [evaluateIn, evaluate]
      simp only [bind_assoc]
      rfl
  · change (Value.map entries).resolvePath around.runtime field = .undefined at hundefined
    simp only [Value.passes, Value.isScalar, Bool.false_eq_true, if_false, hundefined]
  · change (Value.map entries).resolvePath around.runtime field ≠ .undefined at hdefined
    simp only [Value.passes, Value.isScalar, Bool.false_eq_true, if_false]
    rfl

/-- A path through two mappings to the first item of a list, and on to an attribute that the language
gives to the number there. -/
theorem query_tests_nested_item :
    let entries : Fields := [("a", .map [("b", .map [("c", .list .list [.int 7])])])]
    let left := "a . b [ \"c\" ] [ 0 ] [ \"real\" ]"
    let L := index (index (index (member (name "a") "b") (literal (.str "c"))) (literal (.int 0)))
      (literal (.str "real"))
    let V := literal (.int 7)
    let env : Environment :=
      { builtins := [], globals := [], host := .standard fun _ _ => .ok .null }
    let around := Evaluator.surroundings env .object (.map entries) []
    ((Value.map entries).IsData ∧ (entries.lookup "a").isSome ∧ L.IsPath "a" ∧
      Expr.read left = .ok L ∧ Expr.read "7" = .ok V ∧
      Expr.read (left ++ ": (" ++ "7" ++ ")") = .ok (.query "a.b.c.0.real" .equals V) ∧
      env.host.language.IsRegular) ∧
    (Value.map entries).resolvePath around.runtime "a.b.c.0.real" = .int 7 ∧
    evaluateIn around L = pure (.int 7) ∧
    Expr.read (left ++ " == (" ++ "7" ++ ")") = .ok (.binary .looseEq L V) := by
  intro entries left L V env around
  have hdata : (Value.map entries).IsData := by
    refine .map (List.forall_mem_singleton.mpr (.map (List.forall_mem_singleton.mpr
      (.map (List.forall_mem_singleton.mpr (.list (List.forall_mem_singleton.mpr (.int 7)) ?_))))))
    decide
  have hpath : L.IsPath "a" :=
    .index (.index (.index (.member .name "b") (.str (by decide))) (.int 0)) (.str (by decide))
  have hleft : Expr.read left = .ok L :=
    read_of_wellFormed (.index (.index (.index (.member (.name (by decide)) (by decide)) (.str "c"))
      (.int 0 (by decide))) (.str "real")) (by decide +kernel)
  have hvalue : Expr.read "7" = .ok V := read_of_wellFormed (.int 7 (by decide)) (by decide +kernel)
  have hquery : Expr.read (left ++ ": (" ++ "7" ++ ")") = .ok (.query "a.b.c.0.real" .equals V) :=
    read_query_index hleft rfl hvalue
  have hitem : (Value.map entries).resolvePath around.runtime "a.b.c.0" = .int 7 := by
    have hlist : (Value.list .list [.int 7]).IsRegular :=
      .list (List.forall_mem_singleton.mpr (.int 7)) (by decide)
    have hitem : Except.ok (Value.int 7) =
        .ok ((Value.list .list [.int 7]).property around.runtime "0") :=
      Value.member_of_isKey Language.standard_isRegular (.inl hlist) (.int 0)
    have hpoint : '.' ∉ "0".toList := by decide
    exact (Value.resolvePath_append (.map entries) "a.b.c" hpoint).trans (Except.ok.inj hitem).symm
  have hresolve : (Value.map entries).resolvePath around.runtime "a.b.c.0.real" = .int 7 := by
    have hpoint : '.' ∉ "real".toList := by decide
    refine (Value.resolvePath_append (.map entries) "a.b.c.0" hpoint).trans ?_
    rw [hitem]
    rfl
  obtain ⟨hevaluate, ⟨hequality, -⟩, -⟩ := query_tests_left_side hdata rfl hpath hleft hvalue hquery
    env Language.standard_isRegular []
  rw [hresolve] at hevaluate
  exact ⟨⟨hdata, rfl, hpath, hleft, hvalue, hquery, Language.standard_isRegular⟩, hresolve,
    hevaluate, hequality⟩

/-- A key with a point in its text is taken for two names by a query, and leads nowhere. -/
theorem query_misses_key_with_point :
    let entries : Fields := [("a", .map [("b.c", .int 1)])]
    let left := "a [ \"b.c\" ]"
    let L := index (name "a") (literal (.str "b.c"))
    Expr.read left = .ok L ∧
    Expr.read (left ++ ": (" ++ "1" ++ ")") = .ok (.query "a.b.c" .equals (.literal (.int 1))) ∧
    (∀ rt, (Value.map entries).resolvePath rt "a.b.c" = .undefined) ∧
    ∀ env bindings,
      evaluateIn (Evaluator.surroundings env .object (.map entries) bindings) L = pure (.int 1) := by
  intro entries left L
  have hleft : Expr.read left = .ok L :=
    read_of_wellFormed (.index (.name (by decide)) (.str "b.c")) (by decide +kernel)
  have hvalue : Expr.read "1" = .ok (literal (.int 1)) :=
    read_of_wellFormed (.int 1 (by decide)) (by decide +kernel)
  exact ⟨hleft, read_query_index hleft rfl hvalue, fun _ => rfl, fun _ _ => rfl⟩

end Expr

end Trigger
