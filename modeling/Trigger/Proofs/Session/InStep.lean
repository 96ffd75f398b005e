import Trigger.Proofs.Renumbering.Evaluation
import Trigger.Proofs.Session.Basic

/-!
# Engines in step

Two engines that differ in nothing but their caches give the same answers, since every entry of a
cache is what would be compiled for its key. What evaluations have left behind does not matter
either: only the next number has to be the same, and it shows only in the identity of functions.
-/

namespace Trigger

/-! ## Everything in common -/

/-- Everything means the same in both evaluations. -/
def Accord.everything : Accord where
  distance := 0
  names := fun _ => True
  heads := fun _ => True
  hosts := True
  all_of_hosts := fun _ => ⟨rfl, fun _ => trivial, fun _ => trivial, trivial⟩

/-- Where everything means the same, all values are within the accord. -/
theorem within_everything (v : Value) : v.Within .everything := Value.within_of_hosts trivial v

/-- Where everything means the same, matching values are equal. -/
theorem eq_of_matched {v w : Value} (h : Value.Matched .everything v w) : v = w := by
  rw [h.1]
  exact (Value.renumber_zero v).symm

/-- Where everything means the same, surroundings agree with themselves. -/
theorem aroundsAgree_refl (a : Surroundings) : AroundsAgree .everything a a where
  runtime := runtimesAgree_of_hosts trivial a.runtime
  resolve := by
    intro x _
    cases ScopeChain.resolve a.runtime x a.scopes with
    | none => rfl
    | some found =>
      refine congrArg some (Prod.ext ?_ rfl)
      exact (Value.renumber_zero found.1).symm
  within := fun _ found _ _ => within_everything found.1
  text := fun _ _ _ _ _ => rfl
  bases := fun _ hx => hx.elim
  subject := .inl (.same ⟨(Value.renumber_zero a.subject).symm, within_everything a.subject⟩)
  host := fun _ => rfl

/-! ## Evaluators and predicates -/

/-- The outcome of an evaluator does not depend on what was evaluated before. -/
theorem Evaluator.run_inStep_self (e : Evaluator) (env : Environment) (data : Value)
    (bindings : Fields) : InStep 0 Eq (e.run env data bindings) (e.run env data bindings) := by
  have hrun := Evaluator.run_inStep (aroundsAgree_refl (surroundings env e.context data bindings))
    (Expr.within_of_hosts trivial e.body)
  exact hrun.mono fun x y hxy =>
    outcomes_eq_iff.mp (Outcomes.mono (fun _ _ => eq_of_matched) hxy)

/-- The value of an evaluator does not depend on what was evaluated before. -/
theorem Evaluator.call_inStep (e : Evaluator) (env : Environment) (data : Value)
    (bindings : Fields) : InStep 0 Eq (e.call env data bindings) (e.call env data bindings) := by
  refine InStep.bind (e.run_inStep_self env data bindings) fun x y hxy => ?_
  subst hxy
  cases x <;> exact InStep.pure rfl

namespace RecordPredicate

variable (host : Host) (p : RecordPredicate)

/-- Whether a record passes a test does not depend on what was evaluated before. -/
theorem holds_inStep (record : Value) :
    EvalInStep 0 Eq (p.holds host record) (p.holds host record) := by
  cases p with
  | calls f =>
    have hcall := callFunction_inStep (A := .everything) trivial host f [record] (within_everything f)
      ⟨within_everything record, trivial⟩
    rw [show Accord.everything.distance = 0 from rfl, Value.renumber_zero, List.map_cons,
      Value.renumber_zero, List.map_nil] at hcall
    refine EvalInStep.bind hcall fun v w hvw => ?_
    obtain rfl := eq_of_matched hvw
    exact EvalInStep.pure rfl
  | evaluates e env =>
    refine EvalInStep.bind (EvalInStep.lift (e.call_inStep env record [])) fun v w hvw => ?_
    subst hvw
    exact EvalInStep.pure rfl
  | hasTitle title field =>
    cases record with
    | null | map => exact EvalInStep.pure rfl
    | _ => exact EvalInStep.throw _

/-- Which records pass a test does not depend on what was evaluated before. -/
theorem filter_inStep (records : List Value) :
    EvalInStep 0 Eq (p.filter host records) (p.filter host records) := by
  induction records with
  | nil => exact EvalInStep.pure rfl
  | cons record records ih =>
    refine EvalInStep.bind (p.holds_inStep host record) fun keep _ hkeep => ?_
    subst hkeep
    refine EvalInStep.bind ih fun kept _ hkept => ?_
    subst hkept
    exact EvalInStep.pure rfl

/-- Which record passes a test first does not depend on what was evaluated before. -/
theorem first?_inStep (records : List Value) :
    EvalInStep 0 Eq (p.first? host records) (p.first? host records) := by
  induction records with
  | nil => exact EvalInStep.pure rfl
  | cons record records ih =>
    refine EvalInStep.bind (p.holds_inStep host record) fun keep _ hkeep => ?_
    subst hkeep
    cases keep with
    | true => exact EvalInStep.pure rfl
    | false => exact ih

/-- Which rows pass a test does not depend on what was evaluated before. -/
theorem marks_inStep (records : List Value) :
    EvalInStep 0 Eq (p.marks host records) (p.marks host records) := by
  induction records with
  | nil => exact EvalInStep.pure rfl
  | cons record records ih =>
    refine EvalInStep.bind (p.holds_inStep host record) fun keep _ hkeep => ?_
    subst hkeep
    refine EvalInStep.bind ih fun marks _ hmarks => ?_
    subst hmarks
    exact EvalInStep.pure rfl

/-- Evaluations in step stay so when their result is put into a larger one. -/
theorem wrapped_inStep {α β : Type} {x : Eval α} (h : EvalInStep 0 Eq x x) (f : α → β) :
    EvalInStep 0 Eq (do return f (← x)) (do return f (← x)) := by
  refine EvalInStep.bind h fun a b hab => ?_
  subst hab
  exact EvalInStep.pure rfl

/-- What is found does not depend on what was evaluated before. -/
theorem search_inStep (first : Bool) (source : RecordSource) :
    EvalInStep 0 Eq (p.search host first source) (p.search host first source) := by
  cases source with
  | items records =>
    cases first with
    | true => exact wrapped_inStep (p.first?_inStep host records) _
    | false => exact wrapped_inStep (p.filter_inStep host records) _
  | table t =>
    have hrows := p.marks_inStep host (host.tables.rows t)
    cases first with
    | true => exact wrapped_inStep (wrapped_inStep hrows _) _
    | false => exact wrapped_inStep (wrapped_inStep hrows _) _

end RecordPredicate

end Trigger
