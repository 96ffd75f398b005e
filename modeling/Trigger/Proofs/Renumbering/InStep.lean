import Trigger.Proofs.Outcome
import Trigger.Proofs.Running

/-!
# Evaluations in step

Two computations are in step at a distance if they end alike from every two states whose next
numbers are so far apart, and leave behind two such states. Nothing else of the states matters:
kept patterns are what would be read anyway, and calls and events are only recorded.
-/

namespace Trigger

/-- Two computations that keep the distance of the next numbers and have related results. -/
def InStep (d : Nat) {α β : Type} (R : α → β → Prop) (x : StateM Effects α) (y : StateM Effects β) :
    Prop :=
  ∀ s t : Effects, t.nextId = s.nextId + d →
    R (x s).1 (y t).1 ∧ (y t).2.nextId = (x s).2.nextId + d

/-- Two evaluations that are in step and fail alike or have related results. -/
def EvalInStep (d : Nat) {α β : Type} (R : α → β → Prop) (x : Eval α) (y : Eval β) : Prop :=
  InStep d (Outcomes R) x.run y.run

variable {d : Nat} {α β γ δ : Type} {R : α → β → Prop} {S : γ → δ → Prop}

/-! ## Computations without failures -/

namespace InStep

/-- Related results without effects. -/
theorem pure {a : α} {b : β} (h : R a b) : InStep d R (Pure.pure a) (Pure.pure b) :=
  fun _ _ hdistance => ⟨h, hdistance⟩

/-- What follows two computations in step. -/
theorem bind {x : StateM Effects α} {y : StateM Effects β} {f : α → StateM Effects γ}
    {g : β → StateM Effects δ} (h : InStep d R x y) (hf : ∀ a b, R a b → InStep d S (f a) (g b)) :
    InStep d S (x >>= f) (y >>= g) := by
  intro s t hdistance
  obtain ⟨hresult, hstate⟩ := h s t hdistance
  exact hf _ _ hresult _ _ hstate

/-- A weaker relation of results. -/
theorem mono {R' : α → β → Prop} (hR : ∀ a b, R a b → R' a b) {x : StateM Effects α}
    {y : StateM Effects β} (h : InStep d R x y) : InStep d R' x y := by
  intro s t hdistance
  obtain ⟨hresult, hstate⟩ := h s t hdistance
  exact ⟨hR _ _ hresult, hstate⟩

/-- Reports keep all numbers, whatever is reported. -/
theorem report (e f : Event) : InStep d (fun _ _ => True) (Eval.report e) (Eval.report f) :=
  fun _ _ hdistance => ⟨trivial, hdistance⟩

end InStep

/-! ## Evaluations -/

namespace EvalInStep

/-- Related results without effects. -/
theorem pure {a : α} {b : β} (h : R a b) : EvalInStep d R (Pure.pure a) (Pure.pure b) :=
  fun _ _ hdistance => ⟨h, hdistance⟩

/-- What follows two evaluations in step, if they do not fail. -/
theorem bind {x : Eval α} {y : Eval β} {f : α → Eval γ} {g : β → Eval δ} (h : EvalInStep d R x y)
    (hf : ∀ a b, R a b → EvalInStep d S (f a) (g b)) : EvalInStep d S (x >>= f) (y >>= g) := by
  unfold EvalInStep
  rw [ExceptT.run_bind, ExceptT.run_bind]
  refine InStep.bind h fun a b hab => ?_
  cases a with
  | ok a =>
    cases b with
    | ok b => exact hf a b hab
    | error e => exact hab.elim
  | error e =>
    cases b with
    | ok b => exact hab.elim
    | error f => exact InStep.pure hab

/-- A weaker relation of results. -/
theorem mono {R' : α → β → Prop} (hR : ∀ a b, R a b → R' a b) {x : Eval α} {y : Eval β}
    (h : EvalInStep d R x y) : EvalInStep d R' x y :=
  InStep.mono (fun _ _ => Outcomes.mono hR) h

/-- The same failure. -/
theorem throw (e : Fault) : EvalInStep d R (throw e : Eval α) (MonadExcept.throw e : Eval β) :=
  fun _ _ hdistance => ⟨rfl, hdistance⟩

/-- Outcomes that end alike. -/
theorem ofExcept {x : Except Fault α} {y : Except Fault β} (h : Outcomes R x y) :
    EvalInStep d R (Eval.ofExcept x) (Eval.ofExcept y) := by
  cases x with
  | ok a =>
    cases y with
    | ok b => exact EvalInStep.pure h
    | error e => exact h.elim
  | error e =>
    cases y with
    | ok b => exact h.elim
    | error f =>
      obtain rfl : e = f := h
      exact EvalInStep.throw e

/-- Computations that do not fail. -/
theorem lift {x : StateM Effects α} {y : StateM Effects β} (h : InStep d R x y) :
    EvalInStep d R (liftM x) (liftM y) :=
  InStep.bind h fun _ _ hab => InStep.pure hab

/-- The outcomes of evaluations in step. -/
theorem attempt {x : Eval α} {y : Eval β} (h : EvalInStep d R x y) :
    EvalInStep d (Outcomes R) x.attempt y.attempt :=
  EvalInStep.lift (x := x.run) (y := y.run) h

/-- New numbers have the distance of the next ones. -/
theorem freshId : EvalInStep d (fun i j => j = i + d) Eval.freshId Eval.freshId := by
  intro s t hdistance
  refine ⟨hdistance, ?_⟩
  change t.nextId + 1 = s.nextId + 1 + d
  omega

/-- What is read for a pattern does not depend on what has been read before. -/
theorem readPattern (source : String) (modes : Option String) :
    EvalInStep d Eq (Eval.readPattern source modes) (Eval.readPattern source modes) := by
  intro s t hdistance
  rw [Eval.readPattern_run, Eval.readPattern_run]
  exact ⟨outcomes_eq_iff.mpr rfl, hdistance⟩

/-- The pattern of a whole word does not depend on what has been read before. -/
theorem wholeWord (term : List Char) :
    EvalInStep d Eq (Eval.wholeWord term) (Eval.wholeWord term) := by
  intro s t hdistance
  exact ⟨rfl, hdistance⟩

end EvalInStep

end Trigger
