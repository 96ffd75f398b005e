import Trigger.Fault

/-!
# Outcomes

An outcome is a result or a failure. Two outcomes are compared by a relation of their results and
by the equality of failures.
-/

namespace Trigger

/-- A computation that may fail yields a result if its first part does and then its second. -/
theorem bind_eq_ok_iff {ε α β : Type} {x : Except ε α} {f : α → Except ε β} {b : β} :
    (x >>= f) = .ok b ↔ ∃ a, x = .ok a ∧ f a = .ok b := by
  cases x with
  | ok a => exact ⟨fun h => ⟨a, rfl, h⟩, fun ⟨_, hx, hf⟩ => Except.ok.inj hx ▸ hf⟩
  | error e => exact ⟨fun h => (nomatch h), fun ⟨_, hx, _⟩ => (nomatch hx)⟩

/-- Two outcomes that are the same failure, or results in a relation. -/
def Outcomes {α β : Type} (R : α → β → Prop) : Except Fault α → Except Fault β → Prop
  | .ok a, .ok b => R a b
  | .error e, .error f => e = f
  | _, _ => False

/-- A weaker relation of results. -/
theorem Outcomes.mono {α β : Type} {R R' : α → β → Prop} (hR : ∀ a b, R a b → R' a b)
    {x : Except Fault α} {y : Except Fault β} (h : Outcomes R x y) : Outcomes R' x y := by
  cases x <;> cases y <;> first | exact h | exact hR _ _ h

/-- A result is in relation to results only. -/
theorem Outcomes.of_ok_left {α β : Type} {R : α → β → Prop} {a : α} {y : Except Fault β}
    (h : Outcomes R (.ok a) y) : ∃ b, y = .ok b ∧ R a b := by
  cases y with
  | ok b => exact ⟨b, rfl, h⟩
  | error e => exact h.elim

/-- Only results are in relation to a result. -/
theorem Outcomes.of_ok_right {α β : Type} {R : α → β → Prop} {b : β} {x : Except Fault α}
    (h : Outcomes R x (.ok b)) : ∃ a, x = .ok a ∧ R a b := by
  cases x with
  | ok a => exact ⟨a, rfl, h⟩
  | error e => exact h.elim

/-- Equal outcomes are the same failure or equal results. -/
theorem outcomes_eq_iff {α : Type} {x y : Except Fault α} : Outcomes Eq x y ↔ x = y := by
  cases x <;> cases y <;> simp [Outcomes]

end Trigger
