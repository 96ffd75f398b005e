import Trigger.Proofs.Running
import Trigger.Proofs.Selection.Onward
import Trigger.Proofs.Session.InStep

/-!
# Verdicts on a record

An expression has a verdict on its surroundings if it ends without a failure and its value is true
or false, whatever number comes next. The verdicts of operands decide those of conjunctions,
disjunctions and negations. A query among the operands is settled when it is evaluated alone as well
as between connectives, and to settle a value twice changes nothing.
-/

namespace Trigger

variable {α β : Type}

/-! ## Evaluations that end well -/

/-- What follows a computation and hands its result on leaves the result as it is. -/
theorem fst_bind_of_fst {x : StateM Effects α} {f : α → StateM Effects α}
    (hf : ∀ a t, ((f a).run t).1 = a) (s : Effects) : ((x >>= f).run s).1 = (x.run s).1 :=
  hf _ _

/-- An evaluation that ends without a failure from every state whose next number is not below a
bound, with a result that has a property, and keeps the bound. -/
def Eval.Yields (bound : Nat) (x : Eval α) (P : α → Prop) : Prop :=
  ∀ s : Effects, bound ≤ s.nextId → ∃ a t, x.run s = (.ok a, t) ∧ P a ∧ bound ≤ t.nextId

namespace Eval.Yields

variable {bound : Nat} {x : Eval α} {P : α → Prop}

/-- A result without effects. -/
theorem pure {a : α} (h : P a) : Yields bound (Pure.pure a : Eval α) P :=
  fun s hs => ⟨a, s, rfl, h, hs⟩

/-- A result with a property that follows. -/
theorem mono {Q : α → Prop} (h : Yields bound x P) (hPQ : ∀ a, P a → Q a) : Yields bound x Q := by
  intro s hs
  obtain ⟨a, t, hrun, ha, ht⟩ := h s hs
  exact ⟨a, t, hrun, hPQ a ha, ht⟩

/-- One evaluation after another. -/
theorem bind {f : α → Eval β} {Q : β → Prop} (h : Yields bound x P)
    (hf : ∀ a, P a → Yields bound (f a) Q) : Yields bound (x >>= f) Q := by
  intro s hs
  obtain ⟨a, t, hrun, ha, ht⟩ := h s hs
  obtain ⟨b, u, hrest, hb, hu⟩ := hf a ha t ht
  exact ⟨b, u, (Eval.run_bind_of_ok hrun).trans hrest, hb, hu⟩

end Eval.Yields

/-! ## Settled operands -/

namespace Frame

variable {frame : Frame}

/-- What follows a settled operand matters only for values that need no settling. -/
theorem settle_bind_congr {f g : Value → Eval β} (v : Value)
    (h : ∀ w, frame.settle w = Pure.pure w → f w = g w) :
    (frame.settle v >>= f) = (frame.settle v >>= g) := by
  cases v with
  | query id field op value =>
    have hbool (answer : Bool) : f (.bool answer) = g (.bool answer) := h (.bool answer) rfl
    simp only [settle, bind_assoc, pure_bind, hbool]
  | _ => exact h _ rfl

/-- To settle a value twice changes nothing. -/
theorem settle_settle (v : Value) : (frame.settle v >>= frame.settle) = frame.settle v := by
  rw [settle_bind_congr (f := frame.settle) (g := Pure.pure) v fun w hw => hw, bind_pure]

/-- The settled value of an operand, where calls may still be nested so deeply. -/
def operand (frame : Frame) (depth : Nat) (e : Expr) : Eval Value := do
  frame.settle (← evaluate (applyAt frame.around depth) frame e)

/-- An operand is evaluated and settled. -/
theorem grows_operand (frame : Frame) (depth : Nat) (e : Expr) : (frame.operand depth e).Grows :=
  .bind (grows_evaluate (grows_applyAt frame.around depth) e) fun v => grows_settle v

end Frame

/-- Whether the settled value of a first operand is that of both, so that the second one is not
evaluated. -/
def LogicalOperator.isDecidedBy (op : LogicalOperator) (v : Value) : Bool :=
  if op = .and then !v.isTruthy else v.isTruthy

section

variable {frame : Frame} {depth : Nat} {op : LogicalOperator} {a b e : Expr}

/-- Two operands are settled, the second one only if the first one does not decide. -/
theorem evaluate_logical (hop : op = .and ∨ op = .or) :
    evaluate (applyAt frame.around depth) frame (.logical op a b) =
      frame.operand depth a >>= fun v =>
        if op.isDecidedBy v then pure v else frame.operand depth b := by
  rw [evaluate, Frame.operand, bind_assoc]
  refine congrArg _ (funext fun v => congrArg _ (funext fun w => ?_))
  rcases hop with rfl | rfl
  · cases hw : w.isTruthy <;> simp [LogicalOperator.isDecidedBy, Frame.operand, hw]
  · cases hw : w.isTruthy <;> simp [LogicalOperator.isDecidedBy, Frame.operand, hw]

/-- Both operands come back settled, so settling the result once more is superfluous. -/
theorem operand_logical (hop : op = .and ∨ op = .or) :
    frame.operand depth (.logical op a b) =
      frame.operand depth a >>= fun v =>
        if op.isDecidedBy v then pure v else frame.operand depth b := by
  rw [Frame.operand, evaluate_logical hop]
  simp only [Frame.operand, bind_assoc]
  refine congrArg _ (funext fun v => Frame.settle_bind_congr v fun w hw => ?_)
  split
  · rw [pure_bind, hw]
  · rw [bind_assoc]
    simp only [Frame.settle_settle]

variable {around : Surroundings}

/-- A negation evaluates its operand as if it stood alone. -/
theorem evaluateIn_not :
    evaluateIn around (.unary .not e) =
      evaluateIn around e >>= fun v => pure (.bool !v.isTruthy) := by
  unfold evaluateIn
  dsimp only
  rw [evaluate]
  simp only [bind_assoc, pure_bind]
  rfl

/-- A conjunction evaluates its operands as if they stood alone, the second one only if the first
one does not decide. -/
theorem evaluateIn_and :
    evaluateIn around (.logical .and a b) =
      evaluateIn around a >>= fun v => if v.isTruthy then evaluateIn around b else pure v := by
  refine Eq.trans (operand_logical (.inl rfl)) (congrArg _ (funext fun v => ?_))
  have hdecided : LogicalOperator.and.isDecidedBy v = !v.isTruthy := rfl
  rw [hdecided]
  cases v.isTruthy <;> rfl

/-- A disjunction evaluates its operands as if they stood alone, the second one only if the first
one does not decide. -/
theorem evaluateIn_or :
    evaluateIn around (.logical .or a b) =
      evaluateIn around a >>= fun v => if v.isTruthy then pure v else evaluateIn around b :=
  operand_logical (.inr rfl)

end

/-! ## Verdicts -/

/-- An expression ends without a failure in its surroundings, whatever number from a bound on comes
next, and its value is true or false as stated. -/
def Expr.Decides (bound : Nat) (around : Surroundings) (e : Expr) (answer : Bool) : Prop :=
  Eval.Yields bound (evaluateIn around e) fun v => v.isTruthy = answer

namespace Expr.Decides

variable {bound : Nat} {around : Surroundings} {a b e : Expr} {p q : Bool}

/-- A negation decides the other way. -/
theorem not (h : e.Decides bound around p) : Decides bound around (.unary .not e) !p := by
  unfold Decides
  rw [evaluateIn_not]
  exact Eval.Yields.bind h fun v hv => .pure (congrArg Bool.not hv)

/-- A conjunction decides for what both operands decide for. -/
theorem and (ha : a.Decides bound around p) (hb : b.Decides bound around q) :
    Decides bound around (.logical .and a b) (p && q) := by
  unfold Decides
  rw [evaluateIn_and]
  refine Eval.Yields.bind ha fun v hv => ?_
  cases p with
  | false =>
    rw [hv, if_neg Bool.false_ne_true]
    exact .pure hv
  | true =>
    rw [hv, if_pos rfl]
    exact hb

/-- A disjunction decides for what at least one of the operands decides for. -/
theorem or (ha : a.Decides bound around p) (hb : b.Decides bound around q) :
    Decides bound around (.logical .or a b) (p || q) := by
  unfold Decides
  rw [evaluateIn_or]
  refine Eval.Yields.bind ha fun v hv => ?_
  cases p with
  | false =>
    rw [hv, if_neg Bool.false_ne_true]
    exact hb
  | true =>
    rw [hv, if_pos rfl]
    exact .pure hv

end Expr.Decides

namespace Evaluator

variable {e : Evaluator} {env : Environment} {s : Effects} {record : Value} {answer : Bool}

/-- An evaluator runs on a record without a failure, whatever number comes next from a state on, and
its value is true or false as stated. Functions of the host are pure in so far: the numbers of the
functions that they are given do not change the answer. -/
def Answers (e : Evaluator) (env : Environment) (s : Effects) (record : Value) (answer : Bool) :
    Prop :=
  ∀ n, s.nextId ≤ n →
    ∃ v, ((e.run env record).run { s with nextId := n }).1 = .ok v ∧ v.isTruthy = answer

/-- The outcome of an evaluator is that of its expression in the surroundings of the record. -/
theorem run_fst (e : Evaluator) (env : Environment) (record : Value) (bindings : Fields)
    (s : Effects) :
    ((e.run env record bindings).run s).1 =
      ((evaluateIn (surroundings env e.context record bindings) e.body).run s).1 := by
  unfold run
  exact fst_bind_of_fst (fun outcome t => by cases outcome <;> rfl) s

/-- An evaluator answers what its expression decides. -/
theorem Answers.decides (h : e.Answers env s record answer) :
    e.body.Decides s.nextId (surroundings env e.context record []) answer := by
  intro t ht
  obtain ⟨v, hv, htruth⟩ := h t.nextId ht
  -- of a state, nothing but its next number matters to the outcome
  have hsame := (e.run_inStep_self env record [] { s with nextId := t.nextId } t rfl).1
  have honward := onward_evaluateIn (surroundings env e.context record []) e.body t
  refine ⟨v, _, Prod.ext ?_ rfl, htruth, Nat.le_trans ht honward⟩
  rw [← run_fst]
  exact hsame.symm.trans hv

end Evaluator

end Trigger
