import Trigger.Evaluator
import Trigger.Proofs.Running

/-!
# What evaluations leave behind only grows

An evaluation leaves behind a next number that is not smaller than the one it began with, and the
calls of the host's functions that had been made before it, behind those that it has made itself.
This holds whatever functions it calls and however it ends. So what was evaluated before a moment
and what is evaluated after it share no numbers, and each evaluation has its own stretch of calls.
-/

namespace Trigger

/-- Effects at a later moment: no number is given again, and no call is forgotten. -/
structure Effects.GrowsTo (s t : Effects) : Prop where
  nextId : s.nextId ≤ t.nextId
  calls : s.calls <:+ t.calls

namespace Effects.GrowsTo

variable {s t u : Effects}

/-- Effects at the same moment. -/
theorem refl (s : Effects) : s.GrowsTo s := ⟨Nat.le_refl _, List.suffix_refl _⟩

/-- One moment after another. -/
theorem trans (h : s.GrowsTo t) (h' : t.GrowsTo u) : s.GrowsTo u :=
  ⟨Nat.le_trans h.nextId h'.nextId, h.calls.trans h'.calls⟩

end Effects.GrowsTo

/-- A computation from whose effects on they only grow. -/
def Grows {α : Type} (x : StateM Effects α) : Prop := ∀ s : Effects, s.GrowsTo (x s).2

/-- An evaluation from whose effects on they only grow. -/
abbrev Eval.Grows {α : Type} (x : Eval α) : Prop := Trigger.Grows x.run

variable {α β : Type}

namespace Grows

/-- A result without effects. -/
theorem pure (a : α) : Grows (Pure.pure a : StateM Effects α) := fun s => .refl s

/-- One computation after another. -/
theorem bind {x : StateM Effects α} {f : α → StateM Effects β} (h : Grows x)
    (hf : ∀ a, Grows (f a)) : Grows (x >>= f) :=
  fun s => (h s).trans (hf (x s).1 (x s).2)

/-- A report. -/
theorem report (e : Event) : Grows (Eval.report e) :=
  fun _ => ⟨Nat.le_refl _, List.suffix_refl _⟩

end Grows

namespace Eval.Grows

/-- A result without effects. -/
theorem pure (a : α) : Eval.Grows (Pure.pure a : Eval α) := fun s => .refl s

/-- A failure. -/
theorem throw (e : Fault) : Eval.Grows (MonadExcept.throw e : Eval α) := fun s => .refl s

/-- One evaluation after another, if the first one does not fail. -/
theorem bind {x : Eval α} {f : α → Eval β} (h : x.Grows) (hf : ∀ a, (f a).Grows) :
    Eval.Grows (x >>= f) := by
  unfold Eval.Grows
  rw [ExceptT.run_bind]
  refine Trigger.Grows.bind h fun outcome => ?_
  cases outcome with
  | ok a => exact hf a
  | error e => exact Trigger.Grows.pure _

/-- An outcome. -/
theorem ofExcept (x : Except Fault α) : (Eval.ofExcept x).Grows := by
  cases x with
  | ok a => exact pure a
  | error e => exact throw e

/-- A computation that does not fail. -/
theorem lift {x : StateM Effects α} (h : Trigger.Grows x) : Eval.Grows (liftM x) :=
  Trigger.Grows.bind h fun _ => Trigger.Grows.pure _

/-- One of two evaluations. -/
theorem ite {c : Prop} [Decidable c] {x y : Eval α} (hx : x.Grows) (hy : y.Grows) :
    Eval.Grows (if c then x else y) := by
  split
  · exact hx
  · exact hy

/-- A new number. -/
theorem freshId : Eval.freshId.Grows := fun s => ⟨Nat.le_succ s.nextId, List.suffix_refl _⟩

/-- A pattern is read. -/
theorem readPattern (source : String) (modes : Option String) :
    (Eval.readPattern source modes).Grows := by
  intro s
  have hrun := readPattern_run source modes s
  have hstate : ((Eval.readPattern source modes).run s).2 = _ := congrArg Prod.snd hrun
  change s.GrowsTo ((Eval.readPattern source modes).run s).2
  rw [hstate]
  exact ⟨Nat.le_refl _, List.suffix_refl _⟩

/-- A whole word is read. -/
theorem wholeWord (term : List Char) : (Eval.wholeWord term).Grows :=
  fun _ => ⟨Nat.le_refl _, List.suffix_refl _⟩

/-- The items of a list are gone through. -/
theorem mapM {f : α → Eval β} (hf : ∀ a, (f a).Grows) (items : List α) : (items.mapM f).Grows := by
  induction items with
  | nil => exact pure _
  | cons a items ih =>
    rw [List.mapM_cons]
    exact bind (hf a) fun _ => bind ih fun _ => pure _

/-- The outcome of an evaluation is looked at. -/
theorem attempt {x : Eval α} (h : x.Grows) : x.attempt.Grows := lift h

end Eval.Grows

/-! ## Predicates on texts -/

namespace Builtin

/-- A pattern is looked for. -/
theorem grows_occurs (text : List Char) (pattern : Value) (modes : String) :
    (occurs text pattern modes).Grows := by
  unfold occurs
  split
  · exact .pure _
  · refine .bind (.attempt (.readPattern _ _)) fun outcome => ?_
    split
    · exact .pure _
    · exact .bind (.lift (.report _)) fun _ => .pure _
    · exact .throw _

/-- Occurrences are counted. -/
theorem grows_occurrences (text : List Char) (term : Value) : (occurrences text term).Grows := by
  unfold occurrences
  split
  · exact .pure _
  · exact .bind (.wholeWord _) fun _ => .pure _

/-- Two words are looked for. -/
theorem grows_areNear (text : List Char) (word other : Value) (reach : Reach) :
    (areNear text word other reach).Grows :=
  .bind (.wholeWord _) fun _ => .ite (.pure _) (.bind (.wholeWord _) fun _ => .pure _)

/-- Words are looked for one behind the other. -/
theorem grows_follows (text : Array Char) (start : Nat) (words : List Value) :
    (follows text start words).Grows := by
  induction words generalizing start with
  | nil => exact .pure _
  | cons word words ih =>
    refine .bind (.wholeWord _) fun p => ?_
    split
    · exact .pure _
    · exact ih _

/-- An optional number. -/
theorem grows_numberOr (default : Float) (v : Value) : (numberOr default v).Grows :=
  .ite (.pure _) (.ofExcept _)

/-- An optional reach. -/
theorem grows_reachOr (default : Reach) (v : Value) : (reachOr default v).Grows :=
  .ite (.pure _) (.bind (.ofExcept _) fun _ => .pure _)

/-- Similar words are looked for. -/
theorem grows_hasSimilarAmong (text : List Char) (threshold : Value) (default : Float)
    (words : List Value) : (hasSimilarAmong text threshold default words).Grows := by
  induction words with
  | nil => exact .pure _
  | cons word words ih => exact .bind (grows_numberOr _ _) fun _ => .ite (.pure _) ih

/-- Words similar to those of a list are looked for. -/
theorem grows_similarAmong (settings : BuiltinSettings) (text : List Char)
    (words threshold : Value) : (call.similarAmong settings text words threshold).Grows := by
  unfold call.similarAmong
  split
  · exact .bind (grows_hasSimilarAmong _ _ _ _) fun _ => .pure _
  · exact .pure _

/-- A predicate on texts is called. -/
theorem grows_call (settings : BuiltinSettings) (f : Builtin) (args : List Value) :
    (call settings f args).Grows := by
  unfold call
  split
  · exact .throw _
  · simp only
    split
    · exact .bind (grows_occurs _ _ _) fun _ => .pure _
    · exact .bind (grows_occurs _ _ _) fun _ => .pure _
    · exact .pure _
    · exact .pure _
    · exact .pure _
    · exact .bind (grows_occurrences _ _) fun _ => .pure _
    · exact .bind (grows_areNear _ _ _ _) fun _ => .pure _
    · exact .bind (grows_reachOr _ _) fun _ => .bind (grows_areNear _ _ _ _) fun _ => .pure _
    · exact .bind (grows_follows _ _ _) fun _ => .pure _
    · exact .pure _
    · exact .bind (grows_numberOr _ _) fun _ => .pure _
    · exact .pure _
    · exact .bind (grows_numberOr _ _) fun _ => .pure _
    · exact grows_similarAmong _ _ _ _
    · exact grows_similarAmong _ _ _ _
    · exact .throw _

end Builtin

/-! ## Other functions -/

/-- A global function is called. -/
theorem GlobalFunction.grows_call (f : GlobalFunction) (args : List Value) :
    (call f args).Grows := by
  have hnumber (v : Value) : (call.number v).Grows := .ofExcept _
  unfold call
  split
  · exact .bind (hnumber _) fun _ => .pure _
  · exact .pure _
  · exact .pure _
  · exact .bind (.readPattern _ _) fun _ => .pure _
  · exact .bind (.readPattern _ _) fun _ => .pure _
  · exact .bind (hnumber _) fun _ => .pure _
  · exact .bind (.mapM hnumber _) fun _ => .pure _
  · exact .bind (.mapM hnumber _) fun _ => .pure _
  · exact .bind (hnumber _) fun _ => .bind (.ofExcept _) fun _ => .pure _
  · exact .bind (hnumber _) fun _ => .bind (.ofExcept _) fun _ => .pure _
  · exact .bind (hnumber _) fun _ => .bind (.ofExcept _) fun _ => .pure _
  · exact .bind (hnumber _) fun _ => .pure _
  · exact .bind (hnumber _) fun _ => .bind (hnumber _) fun _ => .ofExcept _
  · exact .throw _

/-- A field is tested. -/
theorem QueryOperator.grows_test (language : Language) (op : QueryOperator)
    (fieldValue value : Value) : (op.test language fieldValue value).Grows := by
  have hoccurs : (occurs fieldValue value).Grows := by
    unfold occurs
    refine .ite (.pure _) ?_
    dsimp only
    split
    · exact .pure _
    · exact .bind (.readPattern _ _) fun _ => .pure _
  cases op with
  | contains | includes | startsWith | endsWith => exact .pure _
  | «matches» | regex => exact hoccurs
  | equals | gt | lt | gte | lte | other => exact .ofExcept _

/-- A record is tested. -/
theorem grows_passes (rt : Runtime) (record : Value) (field : String) (op : QueryOperator)
    (value : Value) : Grows (record.passes rt field op value) := by
  have hanswers (fieldValue : Value) : Grows (fieldValue.answers rt field op value) := by
    refine .bind (op.grows_test rt.toLanguage fieldValue value) fun outcome => ?_
    cases outcome with
    | ok answer => exact .pure _
    | error e => exact .bind (.report _) fun _ => .pure _
  unfold Value.passes
  split
  · exact .pure _
  · split
    · exact .pure _
    · exact hanswers _

/-- A function of the host is called. -/
theorem grows_host (host : Host) (name : String) (args : List Value) :
    (host.call name args).Grows := by
  unfold Host.call
  refine .bind (fun s => ⟨Nat.le_refl s.nextId, List.suffix_cons _ _⟩) fun _ => ?_
  cases host.functions name args with
  | ok v => exact .pure v
  | error kind => exact .throw _

namespace ListMethod

variable {f : Value → Eval Value} (hf : ∀ v, (f v).Grows)
include hf

/-- An item is looked for. -/
theorem grows_findItem (items : List Value) : (findItem f items).Grows := by
  induction items with
  | nil => exact .pure _
  | cons v items ih => exact .bind (hf v) fun _ => .ite (.pure _) ih

/-- Items are tested. -/
theorem grows_everyItem (items : List Value) : (everyItem f items).Grows := by
  induction items with
  | nil => exact .pure _
  | cons v items ih => exact .bind (hf v) fun _ => .ite ih (.pure _)

/-- Items are selected. -/
theorem grows_filterItems (items : List Value) : (filterItems f items).Grows := by
  induction items with
  | nil => exact .pure _
  | cons v items ih => exact .bind (hf v) fun _ => .bind ih fun _ => .pure _

/-- Items are mapped. -/
theorem grows_mapItems (items : List Value) : (mapItems f items).Grows := by
  induction items with
  | nil => exact .pure _
  | cons v items ih => exact .bind (hf v) fun _ => .bind ih fun _ => .pure _

end ListMethod

/-- Whatever function is called with whatever arguments, effects only grow. -/
def CallsGrow (apply : Value → List Value → Eval Value) : Prop := ∀ f args, (apply f args).Grows

/-- A method is called. -/
theorem Method.grows_call (language : Language) {apply : Value → List Value → Eval Value}
    (hcalls : CallsGrow apply) (m : Method) (args : List Value) :
    (m.call language apply args).Grows := by
  have hunary (f v : Value) : (Method.unary apply f v).Grows := hcalls f [v]
  cases m with
  | onString m s => exact .ofExcept _
  | onMap m entries => exact .ofExcept _
  | member f => exact hcalls f args
  | onList m items =>
    change (callList language apply m items args).Grows
    unfold callList
    split
    · exact .bind (ListMethod.grows_findItem (hunary _) _) fun _ => .pure _
    · exact .bind (ListMethod.grows_everyItem (hunary _) _) fun _ => .pure _
    · exact .bind (ListMethod.grows_filterItems (hunary _) _) fun _ => .pure _
    · exact .bind (ListMethod.grows_mapItems (hunary _) _) fun _ => .pure _
    · exact .bind (ListMethod.grows_findItem (hunary _) _) fun _ => .pure _
    · exact .pure _
    · exact .pure _
    · exact .pure _
    · exact .pure _
    · exact .throw _

/-- A function of the language is run. -/
theorem Script.grows_run {apply : Value → List Value → Eval Value} (hcalls : CallsGrow apply)
    (s : Script) : (s.run apply).Grows := by
  induction s with
  | done outcome => exact .ofExcept outcome
  | ask f args resume ih => exact .bind (hcalls f args) ih

/-! ## Expressions -/

section

variable {apply : Value → List Value → Eval Value} {frame : Frame}

/-- An operand is settled. -/
theorem Frame.grows_settle (v : Value) : (frame.settle v).Grows := by
  cases v with
  | query id field op value =>
    exact .bind (.lift (grows_passes _ _ field op value)) fun _ => .pure _
  | _ => exact .pure _

/-- A sign in front of an operand. -/
theorem grows_unary (op : UnaryOperator) {e : Expr} (he : (evaluate apply frame e).Grows) :
    (evaluate apply frame (.unary op e)).Grows := by
  rw [evaluate]
  refine .bind he fun v => ?_
  cases op with
  | not => exact .bind (Frame.grows_settle v) fun _ => .pure _
  | minus => exact .ofExcept _
  | plus => exact .ofExcept _
  | other s => exact .throw _

/-- An operator between two operands. -/
theorem grows_binary (op : BinaryOperator) {left right : Expr}
    (hleft : (evaluate apply frame left).Grows) (hright : (evaluate apply frame right).Grows) :
    (evaluate apply frame (.binary op left right)).Grows := by
  rw [evaluate]
  refine .bind hleft fun a => .bind hright fun b => ?_
  cases op with
  | lt | le | gt | ge | looseEq | looseNe => exact .bind (.ofExcept _) fun _ => .pure _
  | strictEq | strictNe => exact .pure _
  | add | sub | mul | div | rem | other => exact .ofExcept _

/-- A connective of logic between two operands. -/
theorem grows_logical (op : LogicalOperator) {left right : Expr}
    (hleft : (evaluate apply frame left).Grows) (hright : (evaluate apply frame right).Grows) :
    (evaluate apply frame (.logical op left right)).Grows := by
  have hsettled : Eval.Grows (do frame.settle (← evaluate apply frame right)) :=
    .bind hright fun v => Frame.grows_settle v
  rw [evaluate]
  refine .bind hleft fun v => .bind (Frame.grows_settle v) fun a => ?_
  cases op with
  | and => exact .ite hsettled (.pure _)
  | or => exact .ite (.pure _) hsettled
  | other s => exact .throw _

/-- A function with a name is called. -/
theorem grows_callName (hcalls : CallsGrow apply) (x : String) {args : List Expr}
    (hargs : (evaluateAll apply frame args).Grows) :
    (evaluate apply frame (.call (.name x) args)).Grows := by
  rw [evaluate]
  cases frame.scopes.resolve frame.runtime x with
  | none => exact .throw _
  | some found => exact .ite (.bind hargs fun _ => hcalls _ _) (.throw _)

/-- A method is called on the value of an expression. -/
theorem grows_callMethod (hcalls : CallsGrow apply) (property : String) {obj : Expr}
    {args : List Expr} (hobj : (evaluate apply frame obj).Grows)
    (hargs : (evaluateAll apply frame args).Grows) :
    (evaluate apply frame (.call (.member obj property) args)).Grows := by
  rw [evaluate]
  refine .bind hobj fun v => ?_
  cases v.method? frame.runtime property with
  | none => exact .throw _
  | some m => exact .bind hargs fun vs => m.grows_call _ hcalls vs

/-- The value of an expression is called. -/
theorem grows_callValue (hcalls : CallsGrow apply) {callee : Expr} {args : List Expr}
    (hcallee : (evaluate apply frame callee).Grows)
    (hargs : (evaluateAll apply frame args).Grows) :
    Eval.Grows (do
      let f ← evaluate apply frame callee
      if f.isCallable then apply f (← evaluateAll apply frame args)
      else throw (.notAFunction anonymousName)) :=
  .bind hcallee fun _ => .ite (.bind hargs fun _ => hcalls _ _) (.throw _)

mutual

/-- An expression is evaluated. -/
theorem grows_evaluate (hcalls : CallsGrow apply) : ∀ e : Expr, (evaluate apply frame e).Grows
  | .literal _ => .pure _
  | .name _ => .pure _
  | .list items => .bind (grows_evaluateAll hcalls items) fun _ => .pure _
  | .member obj _ => .bind (grows_evaluate hcalls obj) fun _ => .pure _
  | .index obj key =>
    .bind (grows_evaluate hcalls obj) fun _ =>
      .bind (grows_evaluate hcalls key) fun _ => .ofExcept _
  | .call (.name x) args => grows_callName hcalls x (grows_evaluateAll hcalls args)
  | .call (.member obj property) args =>
    grows_callMethod hcalls property (grows_evaluate hcalls obj) (grows_evaluateAll hcalls args)
  | .call (.literal v) args =>
    grows_callValue hcalls (grows_evaluate hcalls (.literal v)) (grows_evaluateAll hcalls args)
  | .call (.index obj key) args =>
    grows_callValue hcalls (grows_evaluate hcalls (.index obj key))
      (grows_evaluateAll hcalls args)
  | .call (.call callee inner) args =>
    grows_callValue hcalls (grows_evaluate hcalls (.call callee inner))
      (grows_evaluateAll hcalls args)
  | .call (.unary op e) args =>
    grows_callValue hcalls (grows_evaluate hcalls (.unary op e)) (grows_evaluateAll hcalls args)
  | .call (.binary op a b) args =>
    grows_callValue hcalls (grows_evaluate hcalls (.binary op a b))
      (grows_evaluateAll hcalls args)
  | .call (.logical op a b) args =>
    grows_callValue hcalls (grows_evaluate hcalls (.logical op a b))
      (grows_evaluateAll hcalls args)
  | .call (.arrow params body) args =>
    grows_callValue hcalls (grows_evaluate hcalls (.arrow params body))
      (grows_evaluateAll hcalls args)
  | .call (.list items) args =>
    grows_callValue hcalls (grows_evaluate hcalls (.list items)) (grows_evaluateAll hcalls args)
  | .call (.query field op value) args =>
    grows_callValue hcalls (grows_evaluate hcalls (.query field op value))
      (grows_evaluateAll hcalls args)
  | .call (.foreign v) args =>
    grows_callValue hcalls (grows_evaluate hcalls (.foreign v)) (grows_evaluateAll hcalls args)
  | .unary op operand => grows_unary op (grows_evaluate hcalls operand)
  | .binary op left right =>
    grows_binary op (grows_evaluate hcalls left) (grows_evaluate hcalls right)
  | .logical op left right =>
    grows_logical op (grows_evaluate hcalls left) (grows_evaluate hcalls right)
  | .arrow _ _ => .bind .freshId fun _ => .pure _
  | .query _ _ value =>
    .bind (grows_evaluate hcalls value) fun _ => .bind .freshId fun _ => .pure _
  | .foreign _ => .throw _

/-- Expressions are evaluated one after the other. -/
theorem grows_evaluateAll (hcalls : CallsGrow apply) : ∀ es : List Expr,
    (evaluateAll apply frame es).Grows
  | [] => .pure _
  | e :: rest =>
    .bind (grows_evaluate hcalls e) fun _ =>
      .bind (grows_evaluateAll hcalls rest) fun _ => .pure _

end

/-- A function is called whose calls inside only add to the effects. -/
theorem grows_applyWith (hcalls : CallsGrow apply) (around : Surroundings) :
    CallsGrow (applyWith apply around) := by
  intro f args
  cases f with
  | query id field op v =>
    rcases args with _ | ⟨record, _ | ⟨_, _⟩⟩
    · exact .throw _
    · exact .bind (.lift (grows_passes _ record field op v)) fun _ => .pure _
    · exact .throw _
  | builtin f settings => exact f.grows_call settings args
  | «global» f => exact f.grows_call args
  | host name => exact grows_host around.host name args
  | native kind parts => exact .ite (Script.grows_run hcalls _) (.throw _)
  | arrow id params body locals =>
    exact .bind (grows_evaluate hcalls body) fun v => Frame.grows_settle v
  | _ => exact .throw _

end

/-- A function is called however deeply calls may be nested. -/
theorem grows_applyAt (around : Surroundings) (depth : Nat) :
    CallsGrow (applyAt around depth) := by
  induction depth with
  | zero => exact fun _ _ => .throw _
  | succ depth ih => exact grows_applyWith ih around

/-- An expression that stands alone is evaluated. -/
theorem grows_evaluateIn (around : Surroundings) (e : Expr) : (evaluateIn around e).Grows :=
  .bind (grows_evaluate (grows_applyAt around callDepth) e) fun v => Frame.grows_settle v

end Trigger
