import Mathlib.Data.List.Forall2
import Trigger.Eval.Standard
import Trigger.Proofs.Composition.Basic
import Trigger.Proofs.Selection.Verdict

/-!
# Operands in a row

Operands between conjunctions, or between disjunctions, are grouped from the left. Nevertheless they
are evaluated from the left to the right, each of them at most once, and only up to the first one
that decides: one that fails, or one whose settled value is false between conjunctions and true
between disjunctions. What happens there is what happens to the whole row.
-/

namespace Trigger

variable {α β : Type}

/-! ## Stretches of calls -/

/-- An evaluation from some effects on: how it ends, the calls of the host's functions that it makes,
in their order, and the effects that it leaves behind. -/
structure Eval.Runs (x : Eval α) (s : Effects) (outcome : Except Fault α)
    (made : List (String × List Value)) (t : Effects) : Prop where
  run : x.run s = (outcome, t)
  calls : t.calls = made.reverse ++ s.calls

namespace Eval

variable {x : Eval α} {f : α → Eval β} {s t u : Effects} {made more : List (String × List Value)}

/-- An evaluation that only adds to the effects has its own stretch of calls. -/
theorem Grows.exists_runs (h : x.Grows) (s : Effects) :
    ∃ outcome made t, x.Runs s outcome made t := by
  obtain ⟨made, hmade⟩ := (h s).calls
  exact ⟨_, made.reverse, _, rfl, by rw [List.reverse_reverse]; exact hmade.symm⟩

/-- An evaluation goes on where another one ends. -/
theorem Runs.bind {a : α} {outcome : Except Fault β} (h : x.Runs s (.ok a) made t)
    (hf : (f a).Runs t outcome more u) : (x >>= f).Runs s outcome (made ++ more) u := by
  refine ⟨(run_bind_of_ok h.run).trans hf.run, ?_⟩
  rw [hf.calls, h.calls, List.reverse_append, List.append_assoc]

/-- A failure is the end of an evaluation. -/
theorem Runs.bind_error {e : Fault} (h : x.Runs s (.error e) made t) :
    (x >>= f).Runs s (.error e) made t :=
  ⟨run_bind_of_error h.run, h.calls⟩

/-- A result is handed on without effects. -/
theorem Runs.bind_pure {a : α} {b : β} (h : x.Runs s (.ok a) made t) (hf : f a = pure b) :
    (x >>= f).Runs s (.ok b) made t :=
  ⟨(run_bind_of_ok h.run).trans (by rw [hf]; rfl), h.calls⟩

end Eval

/-! ## Up to the operand that decides -/

/-- Operands with a connective between each two of them, grouped from the left. -/
def Expr.chain (op : LogicalOperator) (first : Expr) (rest : List Expr) : Expr :=
  rest.foldl (.logical op) first

/-- Whether an operand that ends so is the last one to be evaluated. A failure always is. -/
def LogicalOperator.isEndedBy (op : LogicalOperator) : Except Fault Value → Bool
  | .error _ => true
  | .ok v => op.isDecidedBy v

/-- Operands are evaluated one after the other, each from where the one before it ended, and none of
them fails or decides. -/
inductive Frame.PassesOver (frame : Frame) (depth : Nat) (op : LogicalOperator) :
    Effects → List Expr → List (String × List Value) → Effects → Prop
  | none {s} : PassesOver frame depth op s [] [] s
  | more {s t u e es v made more} (h : (frame.operand depth e).Runs s (.ok v) made t)
      (hv : op.isDecidedBy v = false) (hrest : PassesOver frame depth op t es more u) :
      PassesOver frame depth op s (e :: es) (made ++ more) u

/-- Operands are evaluated up to one of them, which is the first one that fails or decides, or else
the last one of all. -/
inductive Frame.StopsAt (frame : Frame) (depth : Nat) (op : LogicalOperator) (s : Effects)
    (before : List Expr) (e : Expr) (after : List Expr) (outcome : Except Fault Value) :
    List (String × List Value) → Effects → Prop
  | intro {made last t u} (hbefore : frame.PassesOver depth op s before made t)
      (h : (frame.operand depth e).Runs t outcome last u)
      (hend : after = [] ∨ op.isEndedBy outcome = true) :
      StopsAt frame depth op s before e after outcome (made ++ last) u

section

variable {frame : Frame} {depth : Nat} {op : LogicalOperator} {s t u : Effects} {a e : Expr}
  {before after rest : List Expr} {outcome : Except Fault Value} {v : Value}
  {made more : List (String × List Value)}

/-- Whatever the operands are, there is one at which their evaluation stops. -/
theorem Frame.exists_stopsAt (frame : Frame) (depth : Nat) (op : LogicalOperator) (s : Effects)
    (first : Expr) (rest : List Expr) : ∃ before e after outcome made u,
      first :: rest = before ++ e :: after ∧
        frame.StopsAt depth op s before e after outcome made u := by
  induction rest generalizing s first with
  | nil =>
    obtain ⟨outcome, made, t, hrun⟩ := (frame.grows_operand depth first).exists_runs s
    exact ⟨[], first, [], outcome, _, t, rfl, .intro .none hrun (.inl rfl)⟩
  | cons second rest ih =>
    obtain ⟨outcome, made, t, hrun⟩ := (frame.grows_operand depth first).exists_runs s
    cases hended : op.isEndedBy outcome with
    | true =>
      exact ⟨[], first, second :: rest, outcome, _, t, rfl, .intro .none hrun (.inr hended)⟩
    | false =>
      obtain ⟨v, rfl⟩ : ∃ v, outcome = .ok v := by
        cases outcome with
        | ok v => exact ⟨v, rfl⟩
        | error => cases hended
      obtain ⟨before, e, after, outcome, _, u, hsplit, hbefore, he, hend⟩ := ih t second
      exact ⟨first :: before, e, after, outcome, _, u, congrArg (first :: ·) hsplit,
        .intro (.more hrun hended hbefore) he hend⟩

/-- Where a first operand fails or decides, no other one is evaluated. -/
theorem runs_chain_of_ended (hop : op = .and ∨ op = .or)
    (h : (frame.operand depth a).Runs s outcome made t) (hended : op.isEndedBy outcome = true)
    (rest : List Expr) : (frame.operand depth (.chain op a rest)).Runs s outcome made t := by
  induction rest generalizing a with
  | nil => exact h
  | cons b rest ih =>
    refine ih (a := .logical op a b) ?_
    rw [operand_logical hop]
    cases outcome with
    | error e => exact h.bind_error
    | ok v =>
      have hv : op.isDecidedBy v = true := hended
      exact h.bind_pure (by simp only [hv, if_true])

/-- A row of two operands or more comes back settled. -/
theorem operand_chain (hop : op = .and ∨ op = .or) (first second : Expr) (rest : List Expr) :
    frame.operand depth (.chain op first (second :: rest)) =
      evaluate (applyAt frame.around depth) frame (.chain op first (second :: rest)) := by
  obtain ⟨a, b, hchain⟩ : ∃ a b, Expr.chain op first (second :: rest) = .logical op a b := by
    induction rest generalizing first second with
    | nil => exact ⟨first, second, rfl⟩
    | cons third rest ih => exact ih (.logical op first second) third
  rw [hchain, operand_logical hop, evaluate_logical hop]

/-- Behind an operand that does not decide, the next one is evaluated. -/
theorem runs_logical_of_undecided (hop : op = .and ∨ op = .or)
    (h : (frame.operand depth a).Runs s (.ok v) made t) (hv : op.isDecidedBy v = false)
    (he : (frame.operand depth e).Runs t outcome more u) :
    (frame.operand depth (.logical op a e)).Runs s outcome (made ++ more) u := by
  rw [operand_logical hop]
  refine h.bind ?_
  simpa only [hv, Bool.false_eq_true, if_false] using he

/-- Behind an operand that does not decide, the others are evaluated up to where they stop. -/
theorem runs_chain_of_undecided (hop : op = .and ∨ op = .or)
    (h : (frame.operand depth a).Runs s (.ok v) made t) (hv : op.isDecidedBy v = false)
    (hstops : frame.StopsAt depth op t before e after outcome more u) :
    (frame.operand depth (.chain op a (before ++ e :: after))).Runs s outcome (made ++ more) u := by
  obtain ⟨hbefore, he, hend⟩ := hstops
  induction hbefore generalizing a s v made with
  | none =>
    have hfirst := runs_logical_of_undecided hop h hv he
    rcases hend with rfl | hended
    · exact hfirst
    · exact runs_chain_of_ended hop hfirst hended after
  | more hb hw hrest ih =>
    rw [List.append_assoc, ← List.append_assoc made]
    exact ih (runs_logical_of_undecided hop h hv hb) hw he

end

/-! ## Rows that are read -/

open Grammar (Derives Joins)

/-- Operands of the next smaller class with a connective between each two of them are grouped from
the left. -/
theorem Expr.derives_chain {op : LogicalOperator} (hop : op = .and ∨ op = .or) {first : Expr}
    {rest : List Expr} {row : List Lexeme} {rows : List (List Lexeme)}
    (hfirst : Derives row (.row (Connective.logical op).rank first))
    (hrest : List.Forall₂ (fun xs e => Derives xs (.row ((Connective.logical op).rank - 1) e))
      rows rest) :
    Derives (row ++ rows.flatMap ((Connective.logical op).lexeme :: ·))
      (.row (Connective.logical op).rank (chain op first rest)) := by
  have hjoins : Joins (Connective.logical op).rank (Connective.logical op).lexeme (.logical op) := by
    rcases hop with rfl | rfl
    · exact .and
    · exact .or
  induction hrest generalizing first row with
  | nil => simpa [chain] using hfirst
  | cons hsecond _ ih =>
    rw [List.flatMap_cons, ← List.append_assoc]
    exact ih (Grammar.derives_join hfirst hjoins hsecond)

/-- Two or more operands between connectives of logic, whatever trees they are, are read grouped
from the left, and are evaluated from the left to the right up to the first one that fails or
decides, or else to the last one. The row ends as that operand does, and makes the calls of the
operands up to it and no others. -/
theorem Expr.chain_stops {op : LogicalOperator} (hop : op = .and ∨ op = .or)
    (first second : Expr) (rest : List Expr) :
    (∀ stop tokens row rows,
      List.Forall₂ (fun xs e => Derives xs (.row ((Connective.logical op).rank - 1) e))
        (row :: rows) (first :: second :: rest) →
      tokens.map Token.lexeme = row ++ rows.flatMap ((Connective.logical op).lexeme :: ·) →
      ofTokens stop tokens = .ok (chain op first (second :: rest))) ∧
    ∀ (frame : Frame) (depth : Nat) (s : Effects),
      (∃ before e after outcome made u, first :: second :: rest = before ++ e :: after ∧
        frame.StopsAt depth op s before e after outcome made u) ∧
      ∀ before e after outcome made u, first :: second :: rest = before ++ e :: after →
        frame.StopsAt depth op s before e after outcome made u →
        (evaluate (applyAt frame.around depth) frame (chain op first (second :: rest))).Runs s
          outcome made u := by
  refine ⟨fun stop tokens row rows hrows htokens => ?_, fun frame depth s =>
    ⟨frame.exists_stopsAt depth op s first (second :: rest),
      fun before e after outcome made u hsplit hstops => ?_⟩⟩
  · cases hrows with
    | cons hfirst hrest =>
      have hrank : (Connective.logical op).rank - 1 ≤ (Connective.logical op).rank :=
        Nat.sub_le _ _
      have hchain := derives_chain hop (derives_row_mono hfirst hrank) hrest
      rw [← htokens] at hchain
      exact Grammar.ofTokens_of_derives (derives_row_mono hchain (Connective.rank_le _))
  · rw [← operand_chain hop]
    cases hstops with | intro hbefore he hend
    cases hbefore with
    | none =>
      obtain ⟨rfl, rfl⟩ := List.cons.inj hsplit
      exact runs_chain_of_ended hop he (hend.resolve_left (List.cons_ne_nil _ _)) _
    | more hfirst hv hbefore =>
      obtain ⟨rfl, hrest⟩ := List.cons.inj hsplit
      rw [hrest, List.append_assoc]
      exact runs_chain_of_undecided hop hfirst hv (.intro hbefore he hend)

/-- A query between conjunctions is settled on the record, and where it is not passed, the function
behind it is not called. -/
theorem Expr.chain_stops_at_query :
    let host : Host := .standard fun name _ =>
      if name = "tick" then .ok (.bool true) else .error "RuntimeError"
    let record : Value := .map [("a", .int 2)]
    let names : Value := .map [("tick", .host "tick"), ("boom", .host "boom")]
    let frame : Frame := { around := {
      text := "", scopes := [("record", record), ("bindings", names)], subject := record, host } }
    let tick := Expr.call (.name "tick") []
    let boom := Expr.call (.name "boom") []
    let query := Expr.query "a" .equals (.literal (.int 1))
    (LogicalOperator.and = .and ∨ LogicalOperator.and = .or) ∧ ∃ u,
      (evaluate (applyAt frame.around callDepth) frame (chain .and tick [query, boom])).Runs {}
        (.ok (.bool false)) [("tick", [])] u := by
  intro host record names frame tick boom query
  have htick : (frame.operand callDepth tick).Runs {} (.ok (.bool true)) [("tick", [])]
      { calls := [("tick", [])] } := ⟨rfl, rfl⟩
  have hquery : (frame.operand callDepth query).Runs { calls := [("tick", [])] }
      (.ok (.bool false)) [] { calls := [("tick", [])], nextId := 1 } := ⟨rfl, rfl⟩
  have hstops := (chain_stops (.inl rfl) tick query [boom]).2 frame callDepth {}
  exact ⟨.inl rfl, _, hstops.2 [tick] query [boom] _ _ _ rfl
    (.intro (.more htick rfl .none) hquery (.inr rfl))⟩

end Trigger
