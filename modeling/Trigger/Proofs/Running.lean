import Trigger.Eval.Effect

/-!
# Running evaluations

An evaluation is run from the effects left behind so far. What it yields is handed on, and a failure
ends all that would have followed; patterns are at hand as if nothing were kept of them.
-/

namespace Trigger

variable {α β : Type} {s t : Effects}

/-- A computation goes on where another one ends. -/
theorem run_bind_of_run {x : StateM Effects α} {f : α → StateM Effects β} {a : α}
    (h : x.run s = (a, t)) : (x >>= f).run s = (f a).run t := by
  change (f (x.run s).1).run (x.run s).2 = _
  rw [h]

namespace Eval

/-- An evaluation goes on where another one ends that does not fail. -/
theorem run_bind_of_ok {x : Eval α} {f : α → Eval β} {a : α} (h : x.run s = (.ok a, t)) :
    (x >>= f).run s = (f a).run t := by
  rw [ExceptT.run_bind]
  exact run_bind_of_run h

/-- A failure is the end of an evaluation. -/
theorem run_bind_of_error {x : Eval α} {f : α → Eval β} {e : Fault}
    (h : x.run s = (.error e, t)) : (x >>= f).run s = (.error e, t) := by
  rw [ExceptT.run_bind]
  exact run_bind_of_run h

/-- An evaluation gives a value, whatever effects it starts from. -/
def Gives (x : Eval α) (a : α) : Prop :=
  ∀ s, ∃ t, x.run s = (.ok a, t)

/-- An evaluation gives one value only. -/
theorem Gives.unique {x : Eval α} {a b : α} (h : x.Gives a) (h' : x.Gives b) : a = b := by
  obtain ⟨t, hrun⟩ := h {}
  obtain ⟨t', hrun'⟩ := h' {}
  rw [hrun] at hrun'
  cases hrun'
  rfl

/-- What is returned is given. -/
theorem Gives.pure (a : α) : Gives (Pure.pure a) a := fun s => ⟨s, rfl⟩

/-- An evaluation gives what comes after a value that is given. -/
theorem Gives.bind {x : Eval α} {f : α → Eval β} {a : α} {b : β} (hx : x.Gives a)
    (hf : (f a).Gives b) : (x >>= f).Gives b := by
  intro s
  obtain ⟨t, hrun⟩ := hx s
  rw [run_bind_of_ok hrun]
  exact hf t

/-- A computation that does not fail ends as an evaluation. -/
theorem run_lift_of_run {x : StateM Effects α} {a : α} (h : x.run s = (a, t)) :
    (ExceptT.lift x : Eval α).run s = (.ok a, t) := by
  change (Except.ok (x.run s).1, (x.run s).2) = _
  rw [h]

/-- The outcome of reading a pattern is what its key stands for. -/
theorem readPattern_run (source : String) (modes : Option String) (s : Effects) :
    (readPattern source modes).run s =
      ((PatternKey.read ⟨source, modes⟩).mapError Fault.badPattern,
        { s with patterns := (s.patterns.read source modes).2 }) := by
  have hread : (s.patterns.read source modes).1 = PatternKey.read ⟨source, modes⟩ :=
    s.patterns.readKey_fst ⟨source, modes⟩
  rw [← hread]
  change (ofExcept ((s.patterns.read source modes).1.mapError Fault.badPattern)).run
    { s with patterns := (s.patterns.read source modes).2 } = _
  cases (s.patterns.read source modes).1 <;> rfl

/-- The pattern of a whole word is at hand without a failure. -/
theorem wholeWord_run (term : List Char) (s : Effects) :
    (wholeWord term).run s =
      (.ok (Pattern.wholeWord term), { s with patterns := (s.patterns.wholeWord term).2 }) :=
  rfl

/-- The pattern of a whole word is given. -/
theorem wholeWord_gives (term : List Char) : (wholeWord term).Gives (Pattern.wholeWord term) :=
  fun s => ⟨_, wholeWord_run term s⟩

end Eval

end Trigger
