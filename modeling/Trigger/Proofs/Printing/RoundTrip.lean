import Trigger.Proofs.Grammar.Completeness
import Trigger.Proofs.Printing.Tokens

/-!
# Printed trees are read back

The lexemes of a well-formed tree derive the tree in the grammar of expressions, and their texts
are read as these lexemes. Hence the text of a well-formed tree is read as the tree.

A tree is derived as a row of the class of its outermost connective, and as a chain if members can
follow it. Brackets turn either into a primary expression, which can stand anywhere.
-/

namespace Trigger.Expr

open Grammar (Phrase Derives Joins Signs Names EndsInKeyword StartsWithKeyword)

/-! ## Lexemes read back -/

/-- The characters of a name. -/
theorem IsName.shape {x : String} (h : IsName x) :
    ∃ c cs, x.toList = c :: cs ∧ Lexeme.startsName c = true ∧
      ∀ d ∈ cs, Lexeme.continuesName d = true := by
  have hword := h.word
  unfold Lexeme.isWord at hword
  split at hword
  · cases hword
  · rename_i c cs hx
    rw [Bool.and_eq_true, List.all_eq_true] at hword
    exact ⟨c, cs, hx, hword⟩

/-- The lexeme that a name stands for keeps the name. -/
theorem IsName.names {x : String} (h : IsName x) : Names (.ofWord x) x := by
  have hfree := h.free
  simp only [List.mem_cons, List.not_mem_nil, or_false, not_or] at hfree
  unfold Lexeme.ofWord
  split
  case h_20 => exact .name _
  all_goals first | exact .keyword _ _ | simp at hfree

/-- A lexeme that is a name is written as the name. -/
theorem written_of_names {x : Lexeme} {s : String} (h : Names x s) : x.written = s.toList := by
  cases h <;> rfl

/-- The lexeme of a name reads back. -/
theorem IsName.readsBack {x : String} (h : IsName x) : (Lexeme.ofWord x).ReadsBack := by
  obtain ⟨c, cs, hx, hc, hcs⟩ := h.shape
  have hword : String.ofList (c :: cs) = x := by rw [← hx, String.ofList_toList]
  have hwritten : (Lexeme.ofWord x).written = c :: cs := by rw [written_of_names h.names, hx]
  exact Lexeme.readsBack_of_ofWord (by rw [hword]) hwritten hc (List.all_eq_true.mpr hcs)

/-- A name has no point in it. -/
theorem IsName.ne_point {x : String} (h : IsName x) : ∀ c ∈ x.toList, c ≠ '.' := by
  obtain ⟨c, cs, hx, hc, hcs⟩ := h.shape
  rw [hx]
  intro d hd
  refine Lexeme.ne_of_continuesName ?_ (by decide)
  rcases List.mem_cons.mp hd with rfl | hd
  · exact Lexeme.continuesName_of_startsName hc
  · exact hcs d hd

/-- The path of a query that is a name is printed as the name. -/
theorem fieldLexemes_of_isName {base : String} (h : IsName base) :
    fieldLexemes base = [.ofWord base] := by
  have hpoint : ∀ c ∈ base.toList, decide (c ≠ '.') = true := fun c hc =>
    decide_eq_true (h.ne_point c hc)
  have htake : base.toList.takeWhile (· ≠ '.') = base.toList := by
    rw [← List.append_nil base.toList, List.takeWhile_append_of_pos hpoint, List.takeWhile_nil]
  have hdrop : base.toList.dropWhile (· ≠ '.') = [] := by
    rw [← List.append_nil base.toList, List.dropWhile_append_of_pos hpoint, List.dropWhile_nil]
  unfold fieldLexemes
  rw [htake, hdrop, String.ofList_toList]

/-- The path of a query that goes on behind a name is printed with the rest in brackets. -/
theorem fieldLexemes_of_path {base : String} (h : IsName base) (rest : String) :
    fieldLexemes (base ++ "." ++ rest) =
      [.ofWord base, .openSquare, .constant (.str rest), .closeSquare] := by
  have hpoint : ∀ c ∈ base.toList, decide (c ≠ '.') = true := fun c hc =>
    decide_eq_true (h.ne_point c hc)
  have hpath : (base ++ "." ++ rest).toList = base.toList ++ '.' :: rest.toList := by
    rw [String.toList_append, String.toList_append, List.append_assoc]
    rfl
  unfold fieldLexemes
  rw [hpath, List.takeWhile_append_of_pos hpoint, List.dropWhile_append_of_pos hpoint,
    List.takeWhile_cons_of_neg (by decide), List.dropWhile_cons_of_neg (by decide),
    List.append_nil, String.ofList_toList]
  simp only [String.ofList_toList]

/-- Brackets around lexemes read back as well. -/
theorem readsBack_enclose {needed : Bool} {xs : List Lexeme} (h : ∀ x ∈ xs, x.ReadsBack) :
    ∀ x ∈ enclose needed xs, x.ReadsBack := by
  unfold enclose
  split
  · rw [List.cons_append, List.forall_mem_cons, List.forall_mem_append, List.forall_mem_singleton]
    exact ⟨Lexeme.readsBack_mark (by simp), h, Lexeme.readsBack_mark (by simp)⟩
  · exact h

/-- The lexemes of trees read back if those of each of them do. -/
theorem readsBack_lexemesAll {es : List Expr} (h : ∀ e ∈ es, ∀ x ∈ e.lexemes, x.ReadsBack) :
    ∀ x ∈ lexemesAll es, x.ReadsBack := by
  induction es with
  | nil => exact List.forall_mem_nil _
  | cons e es ih =>
    obtain ⟨he, hes⟩ := List.forall_mem_cons.mp h
    cases es with
    | nil => rwa [lexemesAll]
    | cons e' es =>
      rw [lexemesAll, List.forall_mem_append, List.forall_mem_cons]
      · exact ⟨he, Lexeme.readsBack_mark (by simp), ih hes⟩
      · exact List.cons_ne_nil e' es

/-- The lexeme of a sign reads back. -/
theorem readsBack_sign {op : UnaryOperator} (hop : ∀ s, op ≠ .other s) : op.lexeme.ReadsBack := by
  cases op with
  | not => exact Lexeme.readsBack_mark (by simp [UnaryOperator.lexeme])
  | minus | plus => exact Lexeme.readsBack_operator (by simp)
  | other s => exact absurd rfl (hop s)

/-- The lexeme of a connective of logic reads back. -/
theorem readsBack_logical {op : LogicalOperator} (hop : ∀ s, op ≠ .other s) :
    (Connective.logical op).lexeme.ReadsBack := by
  cases op with
  | and | or => exact Lexeme.readsBack_mark (by simp [Connective.lexeme])
  | other s => exact absurd rfl (hop s)

/-- The lexemes of the test of a query read back. -/
theorem readsBack_testLexemes {op : QueryOperator} (hop : ∀ s, op ≠ .other s) :
    ∀ x ∈ testLexemes op, x.ReadsBack := by
  have hname : IsName op.name := by
    cases op with
    | other s => exact absurd rfl (hop s)
    | _ => decide
  have hword := hname.readsBack
  intro x hx
  cases op with
  | other s => exact absurd rfl (hop s)
  | equals => cases hx
  | _ =>
    obtain rfl := List.mem_singleton.mp hx
    exact hword

/-- The lexemes of a query read back if those of its path and of its value do. -/
theorem readsBack_query {field : String} {op : QueryOperator} {v : Expr}
    (hfield : ∀ x ∈ fieldLexemes field, x.ReadsBack) (hop : ∀ s, op ≠ .other s)
    (hv : ∀ x ∈ v.lexemes, x.ReadsBack) : ∀ x ∈ (query field op v).lexemes, x.ReadsBack := by
  rw [lexemes, List.forall_mem_append, List.forall_mem_append, List.forall_mem_cons]
  exact ⟨⟨hfield, Lexeme.readsBack_mark (by simp), readsBack_testLexemes hop⟩, readsBack_enclose hv⟩

/-- The lexemes of a well-formed tree read back. -/
theorem readsBack_lexemes {place : Place} {e : Expr} (h : WellFormed place e) :
    ∀ x ∈ e.lexemes, x.ReadsBack := by
  induction h with
  | null | undefined =>
    refine List.forall_mem_singleton.mpr ?_
    exact Lexeme.readsBack_of_ofWord (by rfl) rfl (by decide) (by decide)
  | bool b =>
    refine List.forall_mem_singleton.mpr ?_
    cases b <;> exact Lexeme.readsBack_of_ofWord (by rfl) rfl (by decide) (by decide)
  | int n => exact List.forall_mem_singleton.mpr (Lexeme.readsBack_int n)
  | str s => exact List.forall_mem_singleton.mpr (Lexeme.readsBack_str s)
  | name hname =>
    rw [lexemes, List.forall_mem_singleton]
    exact hname.readsBack
  | member h hname ih =>
    rw [lexemes, List.forall_mem_append, List.forall_mem_cons, List.forall_mem_singleton]
    exact ⟨readsBack_enclose ih, Lexeme.readsBack_mark (by simp), hname.readsBack⟩
  | index h hkey ih ihkey =>
    rw [lexemes, List.forall_mem_append, List.forall_mem_append, List.forall_mem_cons,
      List.forall_mem_singleton]
    exact ⟨⟨readsBack_enclose ih, Lexeme.readsBack_mark (by simp), ihkey⟩,
      Lexeme.readsBack_mark (by simp)⟩
  | call hname hargs ihargs =>
    simp only [lexemes, List.forall_mem_append, List.forall_mem_cons]
    exact ⟨⟨⟨hname.readsBack, List.forall_mem_nil _⟩, Lexeme.readsBack_mark (by simp),
      readsBack_lexemesAll ihargs⟩,
      Lexeme.readsBack_mark (by simp), List.forall_mem_nil _⟩
  | method h hname hargs ih ihargs =>
    simp only [lexemes, List.forall_mem_append, List.forall_mem_cons]
    exact ⟨⟨⟨readsBack_enclose ih, Lexeme.readsBack_mark (by simp), hname.readsBack,
      List.forall_mem_nil _⟩, Lexeme.readsBack_mark (by simp), readsBack_lexemesAll ihargs⟩,
      Lexeme.readsBack_mark (by simp), List.forall_mem_nil _⟩
  | unary hop h ih =>
    rw [lexemes, List.forall_mem_cons]
    exact ⟨readsBack_sign hop, readsBack_enclose ih⟩
  | binary hop hleft hright ihleft ihright =>
    rw [lexemes, List.forall_mem_append, List.forall_mem_cons]
    exact ⟨readsBack_enclose ihleft, Lexeme.readsBack_operator hop, readsBack_enclose ihright⟩
  | logical hop hleft hright ihleft ihright =>
    rw [lexemes, List.forall_mem_append, List.forall_mem_cons]
    exact ⟨readsBack_enclose ihleft, readsBack_logical hop, readsBack_enclose ihright⟩
  | list h ih =>
    rw [lexemes_list, List.cons_append, List.forall_mem_cons, List.forall_mem_append,
      List.forall_mem_singleton]
    exact ⟨Lexeme.readsBack_mark (by simp), readsBack_lexemesAll ih,
      Lexeme.readsBack_mark (by simp)⟩
  | query hop hname h ih =>
    refine readsBack_query ?_ hop ih
    rw [fieldLexemes_of_isName hname, List.forall_mem_singleton]
    exact hname.readsBack
  | queryPath hop hname rest h ih =>
    refine readsBack_query ?_ hop ih
    rw [fieldLexemes_of_path hname, List.forall_mem_cons, List.forall_mem_cons,
      List.forall_mem_cons, List.forall_mem_singleton]
    exact ⟨hname.readsBack, Lexeme.readsBack_mark (by simp), Lexeme.readsBack_str rest,
      Lexeme.readsBack_mark (by simp)⟩
  | argument h ih => exact ih
  | arrow hname hplain h ih =>
    rw [lexemes, List.map_cons, List.map_nil, List.forall_mem_append, List.forall_mem_singleton,
      List.forall_mem_cons]
    exact ⟨hname.readsBack, Lexeme.readsBack_mark (by simp), ih⟩

/-! ## Derivations -/

/-- A row of some class is a row of every greater one. -/
theorem derives_row_mono {j k : Nat} {xs : List Lexeme} {e : Expr} (h : Derives xs (.row j e))
    (hjk : j ≤ k) : Derives xs (.row k e) := by
  induction hjk with
  | refl => exact h
  | step _ ih => exact .operand ih

/-- The class of a tree is one of those of the grammar. -/
theorem rank_le (e : Expr) : e.rank ≤ 6 := by
  unfold rank
  split
  · rename_i op _ _
    cases op <;> simp [Connective.rank]
  · rename_i op _ _
    cases op <;> simp [Connective.rank]
  · exact Nat.zero_le _

/-- What the lexemes of a tree derive where the tree stands. -/
def Derived : Place → Expr → Prop
  | .anywhere, e =>
    Derives e.lexemes (.row e.rank e) ∧ (e.isChain = true → Derives e.lexemes (.chain e))
  | .argument, e => Derives e.lexemes (.item .round e)

/-- A chain is a row as well. -/
theorem derived_of_chain {e : Expr} (hrank : e.rank = 0) (h : Derives e.lexemes (.chain e)) :
    Derived .anywhere e :=
  ⟨hrank ▸ .unsigned (.alone h), fun _ => h⟩

/-- A tree that is no chain is a row only. -/
theorem derived_of_row {e : Expr} (hchain : e.isChain = false)
    (h : Derives e.lexemes (.row e.rank e)) : Derived .anywhere e :=
  ⟨h, fun htrue => by rw [hchain] at htrue; cases htrue⟩

/-- A tree is a row of the least binding class. -/
theorem Derived.loosest {e : Expr} (h : Derived .anywhere e) : Derives e.lexemes (.row 6 e) :=
  derives_row_mono h.1 e.rank_le

/-- A tree in brackets where it does not bind tightly enough is a row of a class. -/
theorem Derived.row {e : Expr} (h : Derived .anywhere e) {k : Nat} {needed : Bool}
    (hneeded : needed = false → e.rank ≤ k) : Derives (enclose needed e.lexemes) (.row k e) := by
  unfold enclose
  split
  · exact derives_row_mono (.unsigned (.alone (.start (.round h.loosest)))) (Nat.zero_le k)
  · rename_i hno
    exact derives_row_mono h.1 (hneeded (Bool.eq_false_iff.mpr hno))

/-- A tree in brackets unless it is a chain is a chain. -/
theorem Derived.chain {e : Expr} (h : Derived .anywhere e) :
    Derives (enclose (!e.isChain) e.lexemes) (.chain e) := by
  unfold enclose
  split
  · exact .start (.round h.loosest)
  · rename_i hno
    exact h.2 (by simpa using hno)

/-- Items with commas between them are a list. -/
theorem derives_lexemesAll {b : Bracket} {es : List Expr}
    (h : ∀ e ∈ es, Derives e.lexemes (.item b e)) : Derives (lexemesAll es) (.list b es) := by
  cases es with
  | nil => exact .noItems b
  | cons e es =>
    refine .someItems ?_
    induction es generalizing e with
    | nil => exact .lastItem (h e (by simp))
    | cons e' es ih => exact .moreItems (h e (by simp)) (ih e' fun d hd => h d (by simp [hd]))

/-! ## Trees of one kind -/

/-- A constant is a chain. -/
theorem derived_literal {v : Value} {c : Constant} (hc : c.value = v)
    (hlexeme : v.lexeme? = some (.constant c)) : Derived .anywhere (.literal v) := by
  refine derived_of_chain rfl ?_
  rw [lexemes, hlexeme, ← hc]
  exact .start (.constant c)

/-- A sign binds its operand. -/
theorem derived_unary {op : UnaryOperator} {e : Expr} (hop : ∀ s, op ≠ .other s)
    (h : Derived .anywhere e) : Derived .anywhere (.unary op e) := by
  refine derived_of_row rfl ?_
  have hsign : Signs op.lexeme op := by
    cases op with
    | not => exact .not
    | minus => exact .minus
    | plus => exact .plus
    | other s => exact absurd rfl (hop s)
  have hrow : Derives (enclose (0 < e.rank) e.lexemes) (.row 0 e) := h.row (by simp)
  rw [lexemes]
  exact .sign hsign hrow

/-- A connective joins its operands. -/
theorem derives_join {c : Connective} {a b : Expr} (hc : c.rank ≠ 0)
    (hlexeme : c.lexeme.connective? = some c) (hleft : Derived .anywhere a)
    (hright : Derived .anywhere b) :
    Derives (enclose (c.rank < a.rank) a.lexemes
      ++ c.lexeme :: enclose (c.rank ≤ b.rank) b.lexemes) (.row c.rank (c.join a b)) := by
  obtain ⟨k, hk⟩ := Nat.exists_eq_succ_of_ne_zero hc
  have hjoins : Joins c.rank c.lexeme c :=
    Grammar.joins_iff.mpr ⟨hlexeme, rfl, Nat.pos_of_ne_zero hc⟩
  have hrowleft : Derives (enclose (c.rank < a.rank) a.lexemes) (.row c.rank a) :=
    hleft.row (by simp)
  have hrowright : Derives (enclose (c.rank ≤ b.rank) b.lexemes) (.row k b) :=
    hright.row (by simp only [decide_eq_false_iff_not]; omega)
  rw [hk] at hrowleft hjoins ⊢
  exact .join hrowleft hjoins (hk ▸ hrowright)

/-- An operator of arithmetic, order or equality joins its operands. -/
theorem derived_binary {op : BinaryOperator} {a b : Expr} (hop : ∀ s, op ≠ .other s)
    (hleft : Derived .anywhere a) (hright : Derived .anywhere b) :
    Derived .anywhere (.binary op a b) := by
  refine derived_of_row rfl ?_
  have hrank : (Connective.binary op).rank ≠ 0 := by
    cases op with
    | other s => exact absurd rfl (hop s)
    | _ => decide
  rw [lexemes]
  exact derives_join hrank rfl hleft hright

/-- An operator of logic joins its operands. -/
theorem derived_logical {op : LogicalOperator} {a b : Expr} (hop : ∀ s, op ≠ .other s)
    (hleft : Derived .anywhere a) (hright : Derived .anywhere b) :
    Derived .anywhere (.logical op a b) := by
  refine derived_of_row rfl ?_
  rw [lexemes]
  cases op with
  | and | or => exact derives_join (by decide) rfl hleft hright
  | other s => exact absurd rfl (hop s)

/-- A value that stands in brackets if it starts with a word for a test does not start with one. -/
theorem not_startsWithKeyword_enclose {needed : Bool} {xs : List Lexeme}
    (h : Lexeme.startsWithKeyword xs = true → needed = true) :
    ¬ StartsWithKeyword (enclose needed xs) := by
  intro hstarts
  obtain ⟨op, spelling, ys, hys⟩ := hstarts
  unfold enclose at hys
  split at hys
  · simp at hys
  · rename_i hno
    exact hno (h (by rw [hys]; rfl))

/-- The lexemes of a path do not end in a point and a word for a test. -/
theorem not_endsInKeyword_fieldLexemes (field : String) :
    ¬ EndsInKeyword (fieldLexemes field) := by
  intro hends
  obtain ⟨ys, op, spelling, hys⟩ := hends
  unfold fieldLexemes at hys
  split at hys
  · simpa using congrArg List.length hys
  · simpa using congrArg List.getLast? hys

/-- A query is derived if its path is. -/
theorem derived_query {field : String} {op : QueryOperator} {e v : Expr}
    (hchain : Derives (fieldLexemes field) (.chain e)) (hfield : e.fieldPath? = some field)
    (hop : ∀ s, op ≠ .other s) (h : Derived .anywhere v) :
    Derived .anywhere (.query field op v) := by
  refine derived_of_row rfl (.unsigned ?_)
  have hend := not_endsInKeyword_fieldLexemes field
  rw [lexemes, List.append_assoc, List.cons_append]
  cases op with
  | other s => exact absurd rfl (hop s)
  | equals =>
    exact .query hchain hend hfield (h.row (by simp +contextual))
      (not_startsWithKeyword_enclose (by simp +contextual))
  | _ => exact .queryColon hchain hend hfield (h.row (by simp))

/-- The lexemes of a well-formed tree derive it. -/
theorem derived_of_wellFormed {place : Place} {e : Expr} (h : WellFormed place e) :
    Derived place e := by
  induction h with
  | null => exact derived_literal (c := .null) rfl rfl
  | undefined => exact derived_literal (c := .undefined) rfl rfl
  | bool b => exact derived_literal (c := .bool b) rfl rfl
  | int n => exact derived_literal (c := .int n) rfl rfl
  | str s => exact derived_literal (c := .str s) rfl rfl
  | name hname =>
    refine derived_of_chain rfl ?_
    rw [lexemes]
    exact .start (.name hname.names)
  | member h hname ih =>
    refine derived_of_chain rfl ?_
    rw [lexemes]
    exact .property ih.chain hname.names
  | index h hkey ih ihkey =>
    refine derived_of_chain rfl ?_
    rw [lexemes]
    exact .index ih.chain ihkey.loosest
  | call hname hargs ihargs =>
    refine derived_of_chain rfl ?_
    rw [lexemes, lexemes]
    exact .call (.start (.name hname.names)) (derives_lexemesAll ihargs)
  | method h hname hargs ih ihargs =>
    refine derived_of_chain rfl ?_
    have hmethod := Derives.method ih.chain hname.names (derives_lexemesAll ihargs)
    simpa only [lexemes, List.append_assoc, List.cons_append, List.nil_append] using hmethod
  | unary hop h ih => exact derived_unary hop ih
  | binary hop hleft hright ihleft ihright => exact derived_binary hop ihleft ihright
  | logical hop hleft hright ihleft ihright => exact derived_logical hop ihleft ihright
  | list h ih =>
    refine derived_of_chain rfl ?_
    rw [lexemes_list]
    exact .start (.square (derives_lexemesAll fun e he => .plain (ih e he).loosest))
  | query hop hname h ih =>
    refine derived_query (e := .name _) ?_ rfl hop ih
    rw [fieldLexemes_of_isName hname]
    exact .start (.name hname.names)
  | queryPath hop hname rest h ih =>
    refine derived_query (e := .index (.name _) (.literal (.str rest))) ?_ rfl hop ih
    rw [fieldLexemes_of_path hname rest]
    exact .index (.start (.name hname.names)) (derived_literal (c := .str rest) rfl rfl).loosest
  | argument h ih => exact .plain ih.loosest
  | @arrow x body hname hplain h ih =>
    change Derives _ (.item .round (.arrow [x] body))
    rw [lexemes, List.map_cons, List.map_nil, hplain]
    exact .arrow ih.loosest

/-! ## Reading -/

/-- The lexemes of a well-formed tree with blanks between them are read as the tree. -/
theorem read_of_wellFormed {e : Expr} (h : WellFormed .anywhere e) {text : String}
    (htext : String.ofList (Lexeme.spaced e.lexemes) = text) : Expr.read text = .ok e := by
  obtain ⟨tokens, htokens, hlexemes⟩ := Lexeme.readFrom_spaced (readsBack_lexemes h) 0
  have hderives : Derives (tokens.map (·.lexeme)) (.row 6 e) := by
    rw [hlexemes]
    exact (derived_of_wellFormed h).loosest
  have hread : Token.readAll text = .ok tokens := by
    rw [← htext, Token.readAll, String.toList_ofList, htokens]
  rw [Expr.read, hread]
  simp only [Grammar.ofTokens_of_derives hderives]

/-- The text of a well-formed tree is read as the tree. -/
theorem read_print {e : Expr} (h : WellFormed .anywhere e) : Expr.read e.print = .ok e :=
  read_of_wellFormed h rfl

/-- A query of a path with quotes whose value starts with a word for a test, in front of a call with
an arrow function. -/
theorem read_print_captured_value :
    let value := binary .sub (name "lt") (binary .sub (literal (.int 1)) (name "b"))
    let left := query ("owner" ++ "." ++ "\"x\"") .equals value
    let right := call (name "any") [arrow ["m"] (member (unary .minus (name "m")) "size")]
    WellFormed .anywhere (logical .or left right) ∧
      Expr.read (logical .or left right).print = .ok (logical .or left right) := by
  intro value left right
  have hone : WellFormed .anywhere (literal (.int 1)) := .int 1 (by decide)
  have hvalue : WellFormed .anywhere value :=
    .binary (by simp) (.name (by decide)) (.binary (by simp) hone (.name (by decide)))
  have hleft : WellFormed .anywhere left := .queryPath (by simp) (by decide) _ hvalue
  have hmember : WellFormed .anywhere (member (unary .minus (name "m")) "size") :=
    .member (.unary (by simp) (.name (by decide))) (by decide)
  have hright : WellFormed .anywhere right :=
    .call (by decide) (List.forall_mem_singleton.mpr (.arrow (by decide) rfl hmember))
  have h : WellFormed .anywhere (logical .or left right) := .logical (by simp) hleft hright
  exact ⟨h, read_print h⟩

example : print (query ("owner" ++ "." ++ "\"x\"") .equals
    (binary .sub (name "lt") (binary .sub (literal (.int 1)) (name "b")))) =
      "owner [ \"\\\"x\\\"\" ] : ( lt - ( 1 - b ) )" := by
  decide +kernel

end Trigger.Expr
