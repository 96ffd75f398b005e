import Trigger.Compile
import Trigger.Proofs.Grammar.Text
import Trigger.Proofs.Renumbering.Accord

/-!
# What an expression mentions

An expression mentions the names that stand in it and, by the fields of its queries, the names that
these start with. The expressions that are read from texts have no values in them but constants, so
they look up nothing else. Only arrow functions show more: the scene in which they are made.
-/

namespace Trigger

namespace Expr

/-! ## Names -/

mutual

/-- The names in an expression, those of functions that are called and of parameters included. -/
def names : Expr → List String
  | .literal _ => []
  | .name x => [x]
  | .member obj _ => names obj
  | .index obj key => names obj ++ names key
  | .call callee args => names callee ++ namesAll args
  | .unary _ operand => names operand
  | .binary _ left right => names left ++ names right
  | .logical _ left right => names left ++ names right
  | .arrow _ body => names body
  | .list items => namesAll items
  | .query _ _ value => names value
  | .foreign _ => []

/-- The names in some expressions. -/
def namesAll : List Expr → List String
  | [] => []
  | e :: rest => names e ++ namesAll rest

end

mutual

/-- The first names of the fields of the queries in an expression. -/
def heads : Expr → List String
  | .literal _ => []
  | .name _ => []
  | .member obj _ => heads obj
  | .index obj key => heads obj ++ heads key
  | .call callee args => heads callee ++ headsAll args
  | .unary _ operand => heads operand
  | .binary _ left right => heads left ++ heads right
  | .logical _ left right => heads left ++ heads right
  | .arrow _ body => heads body
  | .list items => headsAll items
  | .query field _ value => headName field :: heads value
  | .foreign _ => []

/-- The first names of the fields of the queries in some expressions. -/
def headsAll : List Expr → List String
  | [] => []
  | e :: rest => heads e ++ headsAll rest

end

mutual

/-- Whether there is an arrow function in an expression. -/
def hasArrow : Expr → Bool
  | .literal _ => false
  | .name _ => false
  | .member obj _ => hasArrow obj
  | .index obj key => hasArrow obj || hasArrow key
  | .call callee args => hasArrow callee || hasArrowAny args
  | .unary _ operand => hasArrow operand
  | .binary _ left right => hasArrow left || hasArrow right
  | .logical _ left right => hasArrow left || hasArrow right
  | .arrow .. => true
  | .list items => hasArrowAny items
  | .query _ _ value => hasArrow value
  | .foreign _ => false

/-- Whether there is an arrow function in one of some expressions. -/
def hasArrowAny : List Expr → Bool
  | [] => false
  | e :: rest => hasArrow e || hasArrowAny rest

end

/-- The names that an expression takes from its surroundings: those that are no predicates on texts,
and the first names of the fields of its queries. -/
def mentioned (e : Expr) : List String :=
  (e.names.filter fun x => (Builtin.table.lookup x).isNone) ++ e.heads

/-- Whether a name in an expression is that of a predicate on texts. -/
def mentionsBuiltin (e : Expr) : Bool := e.names.any fun x => (Builtin.table.lookup x).isSome

/-- A name in an expression is mentioned if no predicate has it. -/
theorem mem_mentioned_of_name {e : Expr} {x : String} (hx : x ∈ e.names)
    (hbuiltin : Builtin.table.lookup x = none) : x ∈ e.mentioned := by
  refine List.mem_append_left _ (List.mem_filter.mpr ⟨hx, ?_⟩)
  rw [hbuiltin, Option.isNone_none]

/-- The first name of a field is mentioned. -/
theorem mem_mentioned_of_head {e : Expr} {x : String} (hx : x ∈ e.heads) : x ∈ e.mentioned :=
  List.mem_append_right _ hx

/-! ## Values in an expression -/

mutual

/-- The values in an expression are plain data. -/
def Plain : Expr → Prop
  | .literal v => v.isData = true
  | .name _ => True
  | .member obj _ => Plain obj
  | .index obj key => Plain obj ∧ Plain key
  | .call callee args => Plain callee ∧ PlainAll args
  | .unary _ operand => Plain operand
  | .binary _ left right => Plain left ∧ Plain right
  | .logical _ left right => Plain left ∧ Plain right
  | .arrow _ body => Plain body
  | .list items => PlainAll items
  | .query _ _ value => Plain value
  | .foreign _ => True

/-- The values in some expressions are plain data. -/
def PlainAll : List Expr → Prop
  | [] => True
  | e :: rest => Plain e ∧ PlainAll rest

end

variable {A : Accord}

/-- What an accord says of an expression: the names that it mentions mean the same, and so do arrow
functions if there are any. -/
structure Covers (A : Accord) (names heads : List String) (hasArrow : Bool) : Prop where
  names : ∀ x ∈ names, A.names x
  heads : ∀ x ∈ heads, A.heads x
  arrows : hasArrow = true → A.arrows

/-- What covers two parts of an expression covers each of them. -/
theorem Covers.parts {names names' heads heads' : List String} {arrow arrow' : Bool}
    (h : Covers A (names ++ names') (heads ++ heads') (arrow || arrow')) :
    Covers A names heads arrow ∧ Covers A names' heads' arrow' := by
  obtain ⟨hnames, hnames'⟩ := List.forall_mem_append.mp h.names
  obtain ⟨hheads, hheads'⟩ := List.forall_mem_append.mp h.heads
  refine ⟨⟨hnames, hheads, fun harrow => h.arrows ?_⟩, ⟨hnames', hheads', fun harrow => h.arrows ?_⟩⟩
  · rw [harrow, Bool.true_or]
  · rw [harrow, Bool.or_true]

mutual

/-- An expression with plain data is within an accord on what it mentions. -/
theorem within_of_plain : ∀ e : Expr, e.Plain → Covers A e.names e.heads e.hasArrow → e.Within A
  | .literal v, h, _ => ⟨Value.within_of_isData v h, Value.renumber_of_isData v h⟩
  | .name x, _, hcovers => hcovers.names x List.mem_cons_self
  | .member obj _, h, hcovers => .inl (within_of_plain obj h hcovers)
  | .index obj key, h, hcovers =>
    ⟨.inl (within_of_plain obj h.1 hcovers.parts.1), within_of_plain key h.2 hcovers.parts.2⟩
  | .call callee args, h, hcovers =>
    ⟨within_of_plain callee h.1 hcovers.parts.1, allWithin_of_plain args h.2 hcovers.parts.2⟩
  | .unary _ operand, h, hcovers => .inl (within_of_plain operand h hcovers)
  | .binary _ left right, h, hcovers =>
    .inl ⟨within_of_plain left h.1 hcovers.parts.1, within_of_plain right h.2 hcovers.parts.2⟩
  | .logical _ left right, h, hcovers =>
    ⟨.inl (within_of_plain left h.1 hcovers.parts.1), within_of_plain right h.2 hcovers.parts.2⟩
  | .arrow _ body, h, hcovers =>
    have harrows := hcovers.arrows rfl
    ⟨harrows, within_of_plain body h ⟨hcovers.names, hcovers.heads, fun _ => harrows⟩⟩
  | .list items, h, hcovers => allWithin_of_plain items h hcovers
  | .query _ _ value, h, hcovers =>
    have hheads := List.forall_mem_cons.mp hcovers.heads
    ⟨.inl hheads.1, within_of_plain value h ⟨hcovers.names, hheads.2, hcovers.arrows⟩⟩
  | .foreign _, _, _ => trivial

/-- Expressions with plain data are within an accord on what they mention. -/
theorem allWithin_of_plain : ∀ es : List Expr, PlainAll es →
    Covers A (namesAll es) (headsAll es) (hasArrowAny es) → AllWithin A es
  | [], _, _ => trivial
  | e :: rest, h, hcovers =>
    ⟨within_of_plain e h.1 hcovers.parts.1, allWithin_of_plain rest h.2 hcovers.parts.2⟩

end

end Expr

/-! ## Expressions that are read -/

/-- The values in a phrase are plain data. -/
def Grammar.Phrase.Plain : Grammar.Phrase → Prop
  | .row _ e => e.Plain
  | .postfixed e => e.Plain
  | .chain e => e.Plain
  | .primary e => e.Plain
  | .list _ es => Expr.PlainAll es
  | .items _ es => Expr.PlainAll es
  | .item _ e => e.Plain

/-- The constants of lexemes are plain data. -/
theorem Constant.isData_value (c : Constant) : c.value.isData = true := by cases c <;> rfl

/-- What lexemes make up has no values in it but constants. -/
theorem Grammar.plain_of_derives {xs : List Lexeme} {p : Grammar.Phrase}
    (h : Grammar.Derives xs p) : p.Plain := by
  induction h with
  | operand _ ih | unsigned _ ih | alone _ ih | start _ ih | round _ ih | someItems _ ih
  | plain _ ih | sign _ _ ih | property _ _ ih | square _ ih | arrow _ ih | arrowRound _ ih =>
    exact ih
  | @join k _ _ _ c _ _ _ _ _ ihleft ihright => cases c <;> exact ⟨ihleft, ihright⟩
  | query _ _ _ _ _ _ ihvalue => exact ihvalue
  | queryColon _ _ _ _ _ ihvalue => exact ihvalue
  | queryDot _ _ _ _ ihvalue => exact ihvalue
  | method _ _ _ ih ihargs => exact ⟨ih, ihargs⟩
  | index _ _ ih ihkey => exact ⟨ih, ihkey⟩
  | call _ _ ih ihargs => exact ⟨ih, ihargs⟩
  | constant c => exact c.isData_value
  | name _ => trivial
  | noItems => trivial
  | lastItem _ ih => exact ⟨ih, trivial⟩
  | moreItems _ _ ih ihrest => exact ⟨ih, ihrest⟩

/-- What a text compiles to has no values in it but constants. -/
theorem Evaluator.plain_of_ofText {text : String} {context : ContextKind}
    {target : Option String} {ev : Evaluator}
    (h : Evaluator.ofText text context target = .ok ev) : ev.body.Plain := by
  obtain ⟨-, -, -, hread⟩ := Evaluator.parts_of_ofText h
  obtain ⟨tokens, -, hderives⟩ := Expr.read_eq_ok_iff_derives.mp hread
  exact Grammar.plain_of_derives hderives

end Trigger
