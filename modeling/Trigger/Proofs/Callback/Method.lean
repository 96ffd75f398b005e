import Trigger.Proofs.Callback.Item
import Trigger.Proofs.Callback.Refusal
import Trigger.Proofs.Methods.Search

/-!
# Queries in place of arrow functions

A method of a list that calls a function on the items gives what the answers for the items make of
them, whatever else the function does. A query and an arrow function whose body is the query on its
parameter have the same answers for nothing, lists and mappings, so both calls have the same result.

Their texts correspond in all but one case. A single word for a test is a name in front of a bare
colon, but behind the parameter and a point it is the test.
-/

namespace Trigger

/-! ## Functions that are called on items -/

namespace ListMethod

open Eval (Yields)

variable {bound : Nat} {f : Value → Eval Value} {p : Value → Bool} {items : List Value}

/-- Each item is replaced by the answer for it. -/
theorem yields_mapItems (h : ∀ v ∈ items, Yields bound (f v) (· = .bool (p v))) :
    Yields bound (mapItems f items) (· = items.map fun v => .bool (p v)) := by
  induction items with
  | nil => exact .pure rfl
  | cons v rest ih =>
    obtain ⟨hv, hrest⟩ := List.forall_mem_cons.mp h
    rw [mapItems]
    refine Yields.bind hv fun _ ha => Yields.bind (ih hrest) fun _ hmore => ?_
    subst ha hmore
    exact .pure rfl

/-- The methods of lists that call a function, by name, with what they make of the answers of the
function. -/
def callbacks : List (String × ((Value → Bool) → List Value → Value)) :=
  [("some", fun p items => .bool (items.any p)),
    ("every", fun p items => .bool (items.all p)),
    ("filter", fun p items => .ofList (items.filter p)),
    ("find", fun p items => (items.find? p).getD .undefined),
    ("map", fun p items => .ofList (items.map fun v => .bool (p v)))]

variable {name : String} {pick : (Value → Bool) → List Value → Value}

/-- The methods that call a function have names. -/
theorem isName_of_mem (hname : (name, pick) ∈ callbacks) : Expr.IsName name := by
  have hall : ∀ entry ∈ callbacks, Expr.IsName entry.1 := by
    simp only [callbacks, List.forall_mem_cons, List.not_mem_nil, false_implies, implies_true,
      and_true]
    decide
  exact hall _ hname

/-- A method that calls a function gives what it makes of the answers. -/
theorem exists_yields_callList (hname : (name, pick) ∈ callbacks) :
    ∃ m, ofName? name = Option.some m ∧
      ∀ bound p items (language : Language) (apply : Value → List Value → Eval Value) fn,
        (∀ v ∈ items, Yields bound (apply fn [v]) (· = .bool (p v))) →
          Yields bound (Method.callList language apply m items [fn]) (· = pick p items) := by
  have truth {bound : Nat} {p : Value → Bool} {items : List Value} {f : Value → Eval Value}
      (h : ∀ v ∈ items, Yields bound (f v) (· = .bool (p v))) :
      ∀ v ∈ items, Yields bound (f v) (·.isTruthy = p v) :=
    fun v hv => (h v hv).mono fun a ha => ha ▸ rfl
  simp only [callbacks, List.mem_cons, Prod.mk.injEq, List.not_mem_nil, or_false] at hname
  rcases hname with ⟨rfl, rfl⟩ | ⟨rfl, rfl⟩ | ⟨rfl, rfl⟩ | ⟨rfl, rfl⟩ | ⟨rfl, rfl⟩
  · refine ⟨.some, rfl, fun bound p items language apply fn h => ?_⟩
    refine (yields_findItem (f := Method.unary apply fn) (truth h)).bind fun _ hfound => .pure ?_
    rw [hfound, List.isSome_find?]
  · refine ⟨.every, rfl, fun bound p items language apply fn h => ?_⟩
    refine (yields_everyItem (f := Method.unary apply fn) (truth h)).bind fun _ hall => .pure ?_
    rw [hall]
  · refine ⟨.filter, rfl, fun bound p items language apply fn h => ?_⟩
    refine (yields_filterItems (f := Method.unary apply fn) (truth h)).bind fun _ hkept => .pure ?_
    rw [hkept]
  · refine ⟨.find, rfl, fun bound p items language apply fn h => ?_⟩
    refine (yields_findItem (f := Method.unary apply fn) (truth h)).bind fun _ hfound => .pure ?_
    rw [hfound]
  · refine ⟨.map, rfl, fun bound p items language apply fn h => ?_⟩
    refine (yields_mapItems (f := Method.unary apply fn) h).bind fun _ hmapped => .pure ?_
    rw [hmapped]

/-- What a method makes of the answers for items is settled. -/
theorem settle_pick (hname : (name, pick) ∈ callbacks) (hitems : ∀ v ∈ items, v.IsItem)
    (p : Value → Bool) (frame : Frame) :
    frame.settle (pick p items) = pure (pick p items) := by
  simp only [callbacks, List.mem_cons, Prod.mk.injEq, List.not_mem_nil, or_false] at hname
  rcases hname with ⟨-, rfl⟩ | ⟨-, rfl⟩ | ⟨-, rfl⟩ | ⟨-, rfl⟩ | ⟨-, rfl⟩
  case inr.inr.inr.inl =>
    dsimp only
    cases hfound : items.find? p with
    | none => rfl
    | some v =>
      have hitem := hitems v (List.mem_of_find?_eq_some hfound)
      cases hitem <;> rfl
  all_goals rfl

end ListMethod

section

open Eval (Yields)

variable {around : Surroundings}

/-- A test ends with the answer of the record. -/
theorem Eval.yields_passes (rt : Runtime) (record : Value) (field : String) (op : QueryOperator)
    (value : Value) :
    Yields 0 (do return Value.bool (← record.passes rt field op value) : Eval Value)
      (· = .bool (record.satisfies rt field op value)) :=
  fun s _ => ⟨.bool ((record.passes rt field op value).run s).1,
    ((record.passes rt field op value).run s).2, rfl,
    congrArg Value.bool (record.run_passes_fst rt field op value s), Nat.zero_le _⟩

/-- A number that was not given before is at hand. -/
theorem Eval.yields_freshId : Yields 0 Eval.freshId fun _ => True :=
  fun s _ => ⟨s.nextId, { s with nextId := s.nextId + 1 }, rfl, trivial, Nat.zero_le _⟩

/-- A query that is called on an item tests the item. -/
theorem yields_applyAt_query (depth id : Nat) (field : String) (op : QueryOperator)
    (value item : Value) : Yields 0 (applyAt around (depth + 1) (.query id field op value) [item])
      (· = .bool (item.satisfies around.runtime field op value)) :=
  Eval.yields_passes around.runtime item field op value

/-- An arrow function that is a query tests the record that it is called in, with the item under the
parameter in front. -/
theorem yields_applyAt_arrow (depth id : Nat) (i field : String) (op : QueryOperator)
    (value item : Value) :
    Yields 0 (applyAt around (depth + 1)
        (.arrow id [i] (.query field op (.literal value)) []) [item])
      (· = .bool ((Scene.overlay [(i, item)] around.subject).satisfies around.runtime field op
        value)) := by
  rw [applyAt, applyWith, evaluate, evaluate, pure_bind, bind_assoc]
  refine Yields.bind Eval.yields_freshId fun id _ => ?_
  rw [pure_bind]
  exact Eval.yields_passes _ _ _ _ _

variable {receiver name : String} {pick : (Value → Bool) → List Value → Value} {kind : ListKind}
variable {items : List Value} {p : Value → Bool}

/-- A method that is called on a name for a list gives what it makes of the answers for the
items. -/
theorem yields_evaluateIn_method (hname : (name, pick) ∈ ListMethod.callbacks)
    (hreceiver : around.scopes.valueOf around.runtime receiver = .list kind items)
    (hitems : ∀ v ∈ items, v.IsItem) {A : Expr}
    (hA : Yields 0 (evaluate (applyAt around callDepth) { around } A) fun fn =>
      ∀ v ∈ items, Yields 0 (applyAt around callDepth fn [v]) (· = .bool (p v))) :
    Yields 0 (evaluateIn around (.call (.member (.name receiver) name) [A]))
      (· = pick p items) := by
  obtain ⟨m, hm, hlist⟩ := ListMethod.exists_yields_callList hname
  have hscopes : (Frame.mk around []).scopes = around.scopes := rfl
  have hruntime : (Frame.mk around []).runtime = around.runtime := rfl
  have hmethod : (Value.list kind items).method? around.runtime name = some (.onList m items) := by
    rw [Value.method?, Value.ownMethod?, hm]
    rfl
  have hcall : Yields 0 (evaluate (applyAt around callDepth) { around }
      (.call (.member (.name receiver) name) [A])) (· = pick p items) := by
    rw [evaluate, evaluate, pure_bind, hscopes, hruntime, hreceiver, hmethod]
    simp only [evaluateAll, bind_assoc, pure_bind]
    exact hA.bind fun fn hfn => hlist 0 p items _ _ fn hfn
  rw [evaluateIn]
  refine hcall.bind fun v hv => ?_
  rw [hv, ListMethod.settle_pick hname hitems]
  exact .pure rfl

/-- A method that is called with a query asks it of each item. -/
theorem yields_evaluateIn_query (hname : (name, pick) ∈ ListMethod.callbacks)
    (hreceiver : around.scopes.valueOf around.runtime receiver = .list kind items)
    (hitems : ∀ v ∈ items, v.IsItem) (field : String) (op : QueryOperator) (value : Value) :
    Yields 0 (evaluateIn around
        (.call (.member (.name receiver) name) [.query field op (.literal value)]))
      (· = pick (·.satisfies around.runtime field op value) items) := by
  refine yields_evaluateIn_method hname hreceiver hitems ?_
  rw [evaluate, evaluate, pure_bind]
  exact Yields.bind Eval.yields_freshId fun id _ =>
    .pure fun v _ => yields_applyAt_query 999 id field op value v

/-- A method that is called with an arrow function asks the query in its body of the record with
each item in front. -/
theorem yields_evaluateIn_arrow (hname : (name, pick) ∈ ListMethod.callbacks)
    (hreceiver : around.scopes.valueOf around.runtime receiver = .list kind items)
    (hitems : ∀ v ∈ items, v.IsItem) {i field : String} {op : QueryOperator} {value : Value}
    (hp : ∀ v ∈ items,
      (Scene.overlay [(i, v)] around.subject).satisfies around.runtime field op value = p v) :
    Yields 0 (evaluateIn around (.call (.member (.name receiver) name)
        [.arrow [i] (.query field op (.literal value))]))
      (· = pick p items) := by
  refine yields_evaluateIn_method hname hreceiver hitems ?_
  rw [evaluate]
  refine Yields.bind Eval.yields_freshId fun id _ => .pure fun v hv => ?_
  rw [← hp v hv]
  exact yields_applyAt_arrow 999 id i field op value v

end

/-! ## Both forms of a callback -/

namespace Evaluator

/-- An expression that always yields a value is the outcome of its evaluator. -/
theorem run_fst_of_yields {e : Evaluator} {env : Environment} {data v : Value} {bindings : Fields}
    (h : Eval.Yields 0 (evaluateIn (surroundings env e.context data bindings) e.body) (· = v))
    (s : Effects) : ((e.run env data bindings).run s).1 = .ok v := by
  obtain ⟨w, t, hrun, rfl, -⟩ := h s (Nat.zero_le _)
  rw [run_fst]
  exact congrArg Prod.fst hrun

/-- A text that cannot be read is no evaluator. -/
theorem ofText_ne_ok {text : String} (h : ∀ body, Expr.read text ≠ .ok body) (context : ContextKind)
    (target : Option String) (e : Evaluator) : ofText text context target ≠ .ok e := by
  intro hok
  exact h e.body (parts_of_ofText hok).2.2.2

/-- A method that calls a function on the items of a list of mappings, lists and nothing gives the
same for a query and for an arrow function whose body is the query below the parameter. All paths
make up queries with a bare colon but those that are a single word for a test, and a longer path
that ends in such a word takes no second test behind the colon in either form. -/
theorem callback_forms_agree {receiver name i v : String} {c : Constant}
    {pick : (Value → Bool) → List Value → Value} (hreceiver : Expr.IsName receiver)
    (hname : (name, pick) ∈ ListMethod.callbacks) (hi : Expr.IsName i)
    (hparam : Lexeme.ofWord i = .name i) (hv : Lexeme.Spells v.toList [.constant c])
    (context : ContextKind) (target : Option String) :
    (∀ path tail field op, Expr.Asks path tail field op →
      ∃ e₁ e₂,
        ofText (receiver ++ "." ++ name ++ "(" ++ (path ++ tail ++ v) ++ ")") context target =
          .ok e₁ ∧
        ofText (receiver ++ "." ++ name ++ "(" ++
          (i ++ " => " ++ (i ++ "." ++ path ++ tail ++ v)) ++ ")") context target = .ok e₂ ∧
        ∀ env data bindings kind items,
          let around := surroundings env context data bindings
          around.scopes.valueOf around.runtime receiver = .list kind items →
          (∀ item ∈ items, item.IsItem) → ∀ s t,
            ((e₁.run env data bindings).run s).1 =
              .ok (pick (·.satisfies around.runtime field op c.value) items) ∧
            ((e₂.run env data bindings).run t).1 =
              .ok (pick (·.satisfies around.runtime field op c.value) items)) ∧
    (∀ path last, Expr.IsDotted path last → (∀ op : QueryOperator, ¬op.IsSpelled path) →
      ∃ field op, Expr.Asks path ": " field op) ∧
    ∀ path last word other (op op' : QueryOperator), Expr.IsDotted path last → op.IsSpelled word →
      op'.IsSpelled other → ∀ e,
        ofText (receiver ++ "." ++ name ++ "(" ++
          (path ++ "." ++ word ++ (": " ++ other ++ " ") ++ v) ++ ")") context target ≠ .ok e ∧
        ofText (receiver ++ "." ++ name ++ "(" ++ (i ++ " => " ++
          (i ++ "." ++ (path ++ "." ++ word) ++ (": " ++ other ++ " ") ++ v)) ++ ")") context
            target ≠ .ok e := by
  have hmethod : Expr.IsName name := ListMethod.isName_of_mem hname
  refine ⟨fun path tail field op hasks => ?_, fun path last hpath => hpath.exists_asks,
    fun path last word other op op' hpath hword hother e => ?_⟩
  · have hplain := Expr.read_method_plain hreceiver hmethod (hasks.read hv)
    have harrow := Expr.read_method_arrow hreceiver hmethod hi hparam ((hasks.cons hi).read hv)
    refine ⟨_, _, ofText_of_read hplain context target, ofText_of_read harrow context target, ?_⟩
    intro env data bindings kind items around hlist hitems s t
    have hpoint : '.' ∉ i.toList := fun hmem => hi.ne_point '.' hmem rfl
    refine ⟨run_fst_of_yields ?_ s, run_fst_of_yields ?_ t⟩
    · exact yields_evaluateIn_query hname hlist hitems field op c.value
    · exact yields_evaluateIn_arrow hname hlist hitems fun item hitem =>
        (hitems item hitem).satisfies_overlay _ hpoint _ field op c.value
  · have hread := hpath.read_second_test_ne_ok hword hother hv hreceiver hmethod hi hparam
    exact ⟨ofText_ne_ok (fun body => (hread body).1) context target e,
      ofText_ne_ok (fun body => (hread body).2) context target e⟩

/-- The parameter has the name of the list and of the field, and one of the items is nothing. -/
theorem callback_forms_agree_shadowed :
    let items : List Value := [.null, .map [("xs", .str "rope")], .list .list []]
    let data : Value := .map [("xs", .list .list items)]
    (Expr.IsName "xs" ∧ Lexeme.ofWord "xs" = .name "xs" ∧
      Lexeme.Spells "\"o\"".toList [.constant (.str "o")] ∧
      ("filter", fun p items => Value.ofList (items.filter p)) ∈ ListMethod.callbacks ∧
      Expr.Asks "xs" ("." ++ "contains" ++ ": ") "xs" .contains) ∧
    ∃ e₁ e₂,
      ofText "xs.filter(xs.contains: \"o\")" .object none = .ok e₁ ∧
      ofText "xs.filter(xs => xs.xs.contains: \"o\")" .object none = .ok e₂ ∧
      ∀ env s t,
        ((e₁.run env data).run s).1 = .ok (.list .list [.map [("xs", .str "rope")]]) ∧
        ((e₂.run env data).run t).1 = .ok (.list .list [.map [("xs", .str "rope")]]) := by
  intro items data
  have hname : Expr.IsName "xs" := by decide
  have hparam : Lexeme.ofWord "xs" = .name "xs" := rfl
  have hv : Lexeme.Spells "\"o\"".toList [.constant (.str "o")] := Lexeme.spells_singleton rfl rfl
  have hfilter : ("filter", fun p items => Value.ofList (items.filter p)) ∈
      ListMethod.callbacks := by simp [ListMethod.callbacks]
  have hasks : Expr.Asks "xs" ("." ++ "contains" ++ ": ") "xs" .contains :=
    .before (.name hname) rfl
  have hitems : ∀ item ∈ items, item.IsItem := by
    simp only [items, List.forall_mem_cons, List.not_mem_nil, false_implies, implies_true, and_true]
    exact ⟨.null, .map _, .list _ _⟩
  obtain ⟨e₁, e₂, h₁, h₂, hrun⟩ :=
    (callback_forms_agree hname hfilter hname hparam hv .object none).1 _ _ _ _ hasks
  refine ⟨⟨hname, hparam, hv, hfilter, hasks⟩, e₁, e₂, h₁, h₂, fun env s t => ?_⟩
  have hkept (rt : Runtime) :
      items.filter (·.satisfies rt "xs" .contains (.str "o")) = [.map [("xs", .str "rope")]] := by
    cbv
  have hboth := hrun env data [] .list items rfl hitems s t
  simp only [Constant.value, hkept] at hboth
  exact hboth

/-- A single word for a test is a name in front of a bare colon, but below a parameter it is the
test, so the forms differ. -/
theorem callback_forms_differ :
    let items : List Value := [.map [("contains", .null)]]
    let data : Value := .map [("xs", .list .list items)]
    let env : Environment := { builtins := [], globals := [], host := .standard fun _ _ => .ok .null }
    let around := surroundings env .object data []
    (Expr.IsDotted "contains" "contains" ∧ Expr.IsName "i" ∧ Lexeme.ofWord "i" = .name "i" ∧
      Lexeme.Spells "null".toList [.constant .null] ∧
      around.scopes.valueOf around.runtime "xs" = .list .list items) ∧
    ∃ e₁ e₂,
      ofText "xs.some(contains: null)" .object none = .ok e₁ ∧
      ofText "xs.some(i => i.contains: null)" .object none = .ok e₂ ∧
      ((e₁.run env data).run {}).1 = .ok (.bool true) ∧
      ((e₂.run env data).run {}).1 = .ok (.bool false) := by
  intro items data env around
  have hxs : Expr.IsName "xs" := by decide
  have hsome : Expr.IsName "some" := by decide
  have hi : Expr.IsName "i" := by decide
  have hparam : Lexeme.ofWord "i" = .name "i" := rfl
  have hpath : Expr.IsDotted "contains" "contains" := .name (by decide)
  have hv : Lexeme.Spells "null".toList [.constant .null] := Lexeme.spells_singleton rfl rfl
  have htest : QueryOperator.contains.IsSpelled "contains" := rfl
  have hplain := Expr.read_method_plain hxs hsome (hpath.read_bare (.inl rfl) hv)
  have harrow := Expr.read_method_arrow hxs hsome hi hparam
    ((Expr.IsDotted.name hi).read_before htest hv)
  have hlist : around.scopes.valueOf around.runtime "xs" = .list .list items := rfl
  have hitems : ∀ item ∈ items, item.IsItem := List.forall_mem_singleton.mpr (.map _)
  have hcallback : ("some", fun p items => Value.bool (items.any p)) ∈ ListMethod.callbacks := by
    simp [ListMethod.callbacks]
  -- the item has a field with the name of the test, but its own text is not tested for nothing
  have hfield : (Value.map [("contains", .null)]).satisfies around.runtime "contains" .equals
      Constant.null.value = true := by decide +kernel
  have hitself : (Scene.overlay [("i", .map [("contains", .null)])] data).satisfies around.runtime "i"
      .contains Constant.null.value = false := rfl
  have hyes := yields_evaluateIn_query hcallback hlist hitems "contains" .equals Constant.null.value
  have hno := yields_evaluateIn_arrow (p := fun _ => false) hcallback hlist hitems
    (List.forall_mem_singleton.mpr hitself)
  simp only [items, List.any_cons, hfield, Bool.true_or] at hyes
  refine ⟨⟨hpath, hi, hparam, hv, hlist⟩, _, _, ofText_of_read hplain .object none,
    ofText_of_read harrow .object none, ?_, ?_⟩
  · refine run_fst_of_yields ?_ {}
    exact hyes
  · refine run_fst_of_yields ?_ {}
    exact hno

end Evaluator

end Trigger
