import Trigger.Eval.Basic
import Trigger.Proofs.Lookup.Agreement
import Trigger.Proofs.Running

/-!
# Patterns that are refused

A predicate on texts and two tests of queries take a text as a pattern. Queries answer no for every
text that is refused. The predicate does so for malformed ones only: a repetition that is too large
and modes that contradict each other make it fail, and with it the expression it stands in.
-/

namespace Trigger

/-- Whether the pattern that a text stands for occurs in a text; a text that is refused occurs
nowhere. -/
def patternOccurs (p s : String) : Bool :=
  match Pattern.read p {} with
  | .ok q => q.occursIn s.toList.toArray
  | .error _ => false

/-- A text is taken as the same pattern whether no modes are asked for or the modes are empty. -/
theorem PatternKey.read_of_no_modes (p : String) :
    (PatternKey.mk p none).read = Pattern.read p {} ∧
      (PatternKey.mk p (some "")).read = Pattern.read p {} := by
  have hmodes : PatternFlags.ofLetters "" = {} := by decide
  simp [PatternKey.read, hmodes]

/-! ## Queries -/

namespace QueryOperator

/-- Reading a pattern for a test fails where the text is refused, and otherwise the test is whether
the pattern occurs. -/
theorem occurs_run (s p : String) (st : Effects) :
    ∃ t, (occurs (.str s) (.str p)).run st =
      (((Pattern.read p {}).mapError Fault.badPattern).map (·.occursIn s.toList.toArray), t) := by
  have hrun := Eval.readPattern_run p none st
  rw [(PatternKey.read_of_no_modes p).1] at hrun
  have hoccurs : occurs (.str s) (.str p) =
      (do return (← Eval.readPattern p none).occursIn s.toList.toArray) := rfl
  rw [hoccurs]
  cases hread : Pattern.read p {} with
  | ok q =>
    rw [hread] at hrun
    exact ⟨_, Eval.run_bind_of_ok hrun⟩
  | error e =>
    rw [hread] at hrun
    exact ⟨_, Eval.run_bind_of_error hrun⟩

end QueryOperator

/-- A query for a pattern answers whether it occurs, and no where the text is refused. -/
theorem Value.passes_pattern (rt : Runtime) (s p : String) {op : QueryOperator}
    (hop : op = .matches ∨ op = .regex) (st : Effects) :
    ((Value.map [("f", .str s)]).passes rt "f" op (.str p) st).1 = patternOccurs p s := by
  have hlookup : (Value.map [("f", .str s)]).resolvePath rt "f" = .str s :=
    resolvePath_of_lookup (by decide) List.lookup_cons_self
  have htest : op.test rt.toLanguage (.str s) (.str p) =
      QueryOperator.occurs (.str s) (.str p) := by
    rcases hop with rfl | rfl <;> rfl
  have hpasses : (Value.map [("f", .str s)]).passes rt "f" op (.str p) =
      (Value.str s).answers rt "f" op (.str p) := by
    unfold passes
    rw [hlookup]
    rfl
  obtain ⟨t, hrun⟩ := QueryOperator.occurs_run s p st
  rw [← htest] at hrun
  rw [hpasses, answers, patternOccurs]
  cases hread : Pattern.read p {} with
  | ok q =>
    rw [hread] at hrun
    exact congrArg Prod.fst (run_bind_of_run hrun)
  | error e =>
    rw [hread] at hrun
    exact congrArg Prod.fst (run_bind_of_run hrun)

/-! ## The predicate -/

namespace Builtin

/-- The predicate reads the pattern and looks at how that ends. It calls nothing of the host and
gives out no number. -/
theorem regex_run (settings : BuiltinSettings) (s p : String) (st : Effects) :
    ∃ t, (call settings .regex [.str s, .str p]).run st =
        (match Pattern.read p {} with
          | .ok q => .ok (.bool (q.occursIn s.toList.toArray))
          | .error .malformed => .ok (.bool false)
          | .error e => .error (.badPattern e), t) ∧
      t.calls = st.calls ∧ t.nextId = st.nextId := by
  have hcall : call settings .regex [.str s, .str p] =
      (do return .bool (← occurs s.toList (.str p) "")) := rfl
  have hrun := Eval.readPattern_run p (some "") st
  rw [(PatternKey.read_of_no_modes p).2] at hrun
  have hattempt := Eval.run_lift_of_run hrun
  rw [hcall]
  unfold occurs
  cases hread : Pattern.read p {} with
  | ok q =>
    rw [hread] at hattempt
    exact ⟨_, Eval.run_bind_of_ok (Eval.run_bind_of_ok hattempt), rfl, rfl⟩
  | error e =>
    rw [hread] at hattempt
    cases e with
    | malformed =>
      exact ⟨_, Eval.run_bind_of_ok (Eval.run_bind_of_ok hattempt), rfl, rfl⟩
    | repetitionTooLarge =>
      exact ⟨_, Eval.run_bind_of_error (Eval.run_bind_of_ok hattempt), rfl, rfl⟩
    | contradictoryModes =>
      exact ⟨_, Eval.run_bind_of_error (Eval.run_bind_of_ok hattempt), rfl, rfl⟩

end Builtin

/-! ## Expressions -/

section

variable {frame : Frame} {settings : BuiltinSettings} {depth : Nat}

/-- A call of the predicate with a text is about the current text. -/
theorem evaluate_regex
    (hname : frame.scopes.resolve frame.runtime "regex" =
      some (.builtin .regex settings, Frame.predicateLabel))
    {pattern : Expr} {p : String}
    (hpattern : evaluate (applyAt frame.around (depth + 1)) frame pattern = pure (.str p)) :
    evaluate (applyAt frame.around (depth + 1)) frame (.call (.name "regex") [pattern]) =
      Builtin.call settings .regex [.str frame.around.text, .str p] := by
  rw [evaluate, hname]
  simp only [Value.isCallable, if_true, evaluateAll, hpattern, pure_bind]
  rfl

/-- A disjunction with an operand that is false is decided by the other one. -/
theorem evaluate_or_of_false {apply : Value → List Value → Eval Value} {left right : Expr}
    {s t : Effects} (h : (evaluate apply frame left).run s = (.ok (.bool false), t)) :
    (evaluate apply frame (.logical .or left right)).run s =
      (evaluate apply frame right >>= frame.settle).run t := by
  have hsettle : (evaluate apply frame left >>= frame.settle).run s = (.ok (.bool false), t) :=
    Eval.run_bind_of_ok h
  rw [evaluate, ← bind_assoc, Eval.run_bind_of_ok hsettle]
  rfl

end

/-! ## Failing softly -/

/-- The predicate answers for a text and a pattern as both tests of queries do, and where the text
of the pattern is refused, an alternative decides. -/
structure FailsSoftly (settings : BuiltinSettings) (s p : String) : Prop where
  agrees : ∀ st, ∃ found t,
    (Builtin.call settings .regex [.str s, .str p]).run st = (.ok (.bool found), t) ∧
      ∀ op, op = .matches ∨ op = .regex →
        ∀ rt u, ((Value.map [("f", .str s)]).passes rt "f" op (.str p) u).1 = found
  gives_way : ∀ refusal, Pattern.read p {} = .error refusal → ∀ (frame : Frame) (depth : Nat),
    frame.around.text = s →
    frame.scopes.resolve frame.runtime "regex" = some (.builtin .regex settings, Frame.predicateLabel) →
    ∀ pattern alternative : Expr,
      evaluate (applyAt frame.around (depth + 1)) frame pattern = pure (.str p) →
      ∀ st, ∃ t : Effects, t.calls = st.calls ∧ t.nextId = st.nextId ∧
        (evaluate (applyAt frame.around (depth + 1)) frame
            (.logical .or (.call (.name "regex") [pattern]) alternative)).run st =
          (evaluate (applyAt frame.around (depth + 1)) frame alternative >>= frame.settle).run t

/-- The predicate fails softly on the texts that are patterns or malformed, and only on them. -/
theorem failsSoftly_iff (settings : BuiltinSettings) (s p : String) :
    FailsSoftly settings s p ↔ ∀ e, Pattern.read p {} = .error e → e = .malformed := by
  constructor
  · intro h e hread
    obtain ⟨found, t, hfound, -⟩ := h.agrees {}
    obtain ⟨u, hrun, -, -⟩ := Builtin.regex_run settings s p {}
    rw [hrun, hread] at hfound
    cases e with
    | malformed => rfl
    | repetitionTooLarge => injection hfound; contradiction
    | contradictoryModes => injection hfound; contradiction
  · intro h
    constructor
    · intro st
      obtain ⟨t, hrun, -, -⟩ := Builtin.regex_run settings s p st
      refine ⟨patternOccurs p s, t, hrun.trans ?_, fun op hop rt u =>
        Value.passes_pattern rt s p hop u⟩
      unfold patternOccurs
      cases hread : Pattern.read p {} with
      | ok q => rfl
      | error e =>
        obtain rfl := h e hread
        rfl
    · rintro e hread frame depth rfl hname pattern alternative hpattern st
      obtain rfl := h e hread
      obtain ⟨t, hrun, hcalls, hnext⟩ :=
        Builtin.regex_run settings frame.around.text p st
      rw [hread] at hrun
      refine ⟨t, hcalls, hnext, evaluate_or_of_false ?_⟩
      rw [evaluate_regex hname hpattern]
      exact hrun

/-- A repetition that is too large makes the predicate fail, although no query with it passes. -/
theorem regex_of_too_large_repetition :
    (∃ t, (Builtin.call {} .regex [.str "a", .str "a{4294967295}"]).run {} =
      (.error (.badPattern .repetitionTooLarge), t)) ∧
    ∀ op, op = .matches ∨ op = .regex → ∀ rt u,
      ((Value.map [("f", .str "a")]).passes rt "f" op (.str "a{4294967295}") u).1 = false := by
  have hread : Pattern.read "a{4294967295}" {} = .error .repetitionTooLarge := rfl
  constructor
  · obtain ⟨t, hrun, -, -⟩ := Builtin.regex_run {} "a" "a{4294967295}" {}
    rw [hread] at hrun
    exact ⟨t, hrun⟩
  · intro op hop rt u
    rw [Value.passes_pattern rt "a" "a{4294967295}" hop u, patternOccurs, hread]

end Trigger
