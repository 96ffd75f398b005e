import Trigger.Proofs.Effects.Growth

/-!
# Numbers are never given again

An evaluation leaves behind a next number that is not smaller than the one it began with, whatever
functions it calls and however it ends. So what was evaluated before a moment and what is evaluated
after it share no numbers.
-/

namespace Trigger

/-- A computation that does not lower the next number. -/
def Onward {α : Type} (x : StateM Effects α) : Prop := ∀ s : Effects, s.nextId ≤ (x s).2.nextId

/-- An evaluation that does not lower the next number. -/
abbrev Eval.Onward {α : Type} (x : Eval α) : Prop := Trigger.Onward x.run

/-- An expression that stands alone is evaluated. -/
theorem onward_evaluateIn (around : Surroundings) (e : Expr) : (evaluateIn around e).Onward :=
  fun s => (grows_evaluateIn around e s).nextId

end Trigger
