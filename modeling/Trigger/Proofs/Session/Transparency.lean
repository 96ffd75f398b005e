import Trigger.Eval.Standard
import Trigger.Proofs.Printing.RoundTrip
import Trigger.Proofs.Session.Engine

/-!
# The cache is transparent

Whatever was done in a session before, an operation has the answer that it has in a session with a
new engine, and an evaluator that was kept has the outcome that it has when its expression is
compiled anew. So neither the bound of the cache nor emptying it can be observed.
-/

namespace Trigger

/-! ## Operations in agreeing engines -/

/-- Two results of operations with the same answer that keep the same evaluator, which its
expression compiles to. -/
def SameResult (p q : Answer × Option Evaluator) : Prop :=
  p = q ∧ ∀ e, p.2 = some e → e.IsCompiled

/-- The same answer, with no evaluator that is kept. -/
theorem sameResult_of_answer (answer : Answer) : SameResult (answer, none) (answer, none) :=
  ⟨rfl, fun _ he => nomatch he⟩

section

variable (host : Host) {base : Engine}

/-- A computation whose result is the answer. -/
theorem EngineInStep.answered {α : Type} {x : EngineM α} (h : EngineInStep base Eq x x)
    (answer : α → Answer) :
    EngineInStep base SameResult (do return (answer (← x), none))
      (do return (answer (← x), none)) := by
  refine EngineInStep.bind h fun a b hab => ?_
  subst hab
  exact EngineInStep.pure (sameResult_of_answer (answer a))

/-- A change of the session. -/
theorem EngineInStep.changed {α : Type} {x : EngineM α}
    (h : EngineInStep base (fun _ _ => True) x x) :
    EngineInStep base SameResult (do let _ ← x; return (Answer.done, none))
      (do let _ ← x; return (Answer.done, none)) :=
  EngineInStep.bind h fun _ _ _ => EngineInStep.pure (sameResult_of_answer .done)

/-- Kept evaluators have the same outcomes. -/
theorem runSaved_inStep (saved : List Evaluator) (index : Nat) (data : Value) (bindings : Fields) :
    EngineInStep base Eq (runSaved host saved index data bindings)
      (runSaved host saved index data bindings) := by
  unfold runSaved
  cases saved[index]? with
  | none => exact EngineInStep.pure rfl
  | some e =>
    refine EngineInStep.bind (Engine.runEvaluator_inStep host e data bindings) fun x y hxy => ?_
    subst hxy
    exact EngineInStep.pure rfl

/-- Operations have the same answers and keep the same evaluators. -/
theorem Operation.execute_inStep (saved : List Evaluator) (op : Operation) :
    EngineInStep base SameResult (op.execute host saved) (op.execute host saved) := by
  cases op with
  | compile expression context target =>
    refine EngineInStep.bind (Engine.compile_inStep expression context target) fun x y hxy => ?_
    obtain ⟨error, rfl, rfl⟩ | ⟨c, c', rfl, rfl, hsame, hcompiled⟩ := hxy.cases
    · exact EngineInStep.pure ⟨rfl, fun _ he => nomatch he⟩
    · refine EngineInStep.pure ⟨by simp only [Except.map, hsame], fun e he => ?_⟩
      obtain rfl : c.evaluator = e := Option.some.inj he
      exact hcompiled
  | parse expression context target =>
    refine EngineInStep.bind (Engine.parse_inStep expression context target) fun x y hxy => ?_
    obtain ⟨hsame, hcompiled⟩ := hxy
    refine EngineInStep.pure ⟨by rw [hsame], fun e he => ?_⟩
    obtain ⟨c, rfl, rfl⟩ := Option.map_eq_some_iff.mp he
    exact hcompiled c rfl
  | validate expression context =>
    exact (Engine.validate_inStep expression context).answered _
  | evaluate expression data bindings =>
    exact (Engine.evaluate_inStep host expression data bindings).answered _
  | evaluateText expression data bindings =>
    exact (Engine.evaluateText_inStep host expression data bindings).answered _
  | evaluateObject expression data target bindings =>
    exact (Engine.evaluateObject_inStep host expression data target bindings).answered _
  | evaluateStory expression context bindings =>
    exact (Engine.evaluateText_inStep host expression _ bindings).answered _
  | find query source first target titleField =>
    exact (findRecords_inStep host (.text query) source first target titleField).answered _
  | run index data bindings => exact (runSaved_inStep host saved index data bindings).answered _
  | setBindings bindings => exact (Engine.setBindings_inStep bindings).changed
  | replaceBindings bindings => exact (Engine.replaceBindings_inStep bindings).changed
  | clearCache => exact Engine.clearCache_inStep.changed

/-! ## Sessions that are alike -/

/-- The cache holds what its keys mean, every kept evaluator is what its expression compiles to, and
the engine has the settings of a given one. -/
structure Session.Sound (base : Engine) (s : Session) : Prop where
  engine : base.Agree s.engine s.engine
  saved : ∀ e ∈ s.saved, e.IsCompiled

/-- Two sound sessions that differ in nothing but their caches and what evaluations have left behind
apart from the next number. -/
structure Session.Alike (base : Engine) (s t : Session) : Prop where
  engines : base.Agree s.engine t.engine
  saved : t.saved = s.saved
  compiled : ∀ e ∈ s.saved, e.IsCompiled
  nextId : t.effects.nextId = s.effects.nextId

namespace Session

/-- An engine whose cache is sound agrees with itself. -/
theorem agree_refl {e f : Engine} (h : base.Agree e f) : base.Agree e e :=
  ⟨h.settings, rfl, h.left, h.left⟩

variable {s t : Session}

/-- A sound session is like itself. -/
theorem Sound.alike (h : s.Sound base) : Alike base s s := ⟨h.engine, rfl, h.saved, rfl⟩

/-- Sessions that are alike are sound. -/
theorem Alike.sound (h : Alike base s t) : s.Sound base := ⟨agree_refl h.engines, h.compiled⟩

/-- Sessions that are alike have the same answer for an operation, and are alike after it. -/
theorem Alike.perform (h : Alike base s t) (op : Operation) :
    (s.perform host op).1 = (t.perform host op).1 ∧
      Alike base (s.perform host op).2 (t.perform host op).2 := by
  have hstep := op.execute_inStep host s.saved s.engine t.engine h.engines s.effects t.effects
    h.nextId
  obtain ⟨⟨⟨hanswer, hkept⟩, hengines⟩, hnext⟩ := hstep
  unfold Session.perform
  rw [h.saved]
  refine ⟨congrArg (fun result => result.1) hanswer, hengines, ?_, ?_, hnext⟩
  · exact congrArg (fun result => result.2.toList ++ s.saved) hanswer.symm
  · intro e he
    obtain hnew | hold := List.mem_append.mp he
    · exact hkept e (Option.mem_toList.mp hnew)
    · exact h.compiled e hold

/-- A session is still like itself after its cache was emptied. -/
theorem Sound.alike_clear (h : s.Sound base) {op : Operation} (hclear : op.isClear = true) :
    Alike base (s.perform host op).2 s := by
  cases op with
  | clearCache =>
    exact ⟨⟨h.engine.settings, rfl, Engine.cacheSound_clear, h.engine.left⟩, rfl, h.saved, rfl⟩
  | _ => exact nomatch hclear

/-- A session stays sound. -/
theorem Sound.after (h : s.Sound base) (history : List Operation) :
    (s.after host history).Sound base := by
  induction history generalizing s with
  | nil => exact h
  | cons op history ih => exact ih (h.alike.perform host op).2.sound

/-- Sessions that are alike give the same answers. -/
theorem Alike.answers (h : Alike base s t) (ops : List Operation) :
    s.answers host ops = t.answers host ops := by
  induction ops generalizing s t with
  | nil => rfl
  | cons op ops ih =>
    obtain ⟨hanswer, hnext⟩ := h.perform host op
    simp only [Session.answers, hanswer, ih hnext]

/-- Where the cache is emptied makes no difference to the answers. -/
theorem Sound.answers_filter (h : s.Sound base) (ops : List Operation) :
    s.answers host ops = s.answers host (ops.filter fun op => !op.isClear) := by
  induction ops generalizing s with
  | nil => rfl
  | cons op ops ih =>
    have hnext := (h.alike.perform host op).2.sound
    cases hclear : op.isClear with
    | true =>
      rw [List.filter_cons_of_neg (by simp [hclear])]
      calc s.answers host (op :: ops)
        _ = (s.perform host op).2.answers host ops := by simp [Session.answers, hclear]
        _ = (s.perform host op).2.answers host (ops.filter fun op => !op.isClear) := ih hnext
        _ = s.answers host (ops.filter fun op => !op.isClear) :=
          (h.alike_clear host hclear).answers host _
    | false =>
      rw [List.filter_cons_of_pos (by simp [hclear])]
      simp only [Session.answers, hclear, ih hnext]

end Session

/-! ## New engines -/

/-- An engine with other namespaces and another bound has the same settings. -/
theorem Engine.ofOptions_with {o : EngineOptions} {e : Engine} (he : Engine.ofOptions o = .ok e)
    (bindings : Fields) (bound : Nat) :
    Engine.ofOptions { o with bindings, cacheBound := bound } =
      .ok { e with bindings, cache := { bound } } := by
  unfold Engine.ofOptions at he ⊢
  dsimp only
  cases hcontext : ContextKind.ofName? o.defaultContext with
  | none =>
    rw [hcontext] at he
    exact nomatch he
  | some context =>
    rw [hcontext] at he
    obtain ⟨cache, -, hcache⟩ := bind_eq_ok_iff.mp he
    obtain rfl := Except.ok.inj hcache
    have hbound : boundedCache (κ := CacheKey) (α := Compiled) bound = .ok { bound } :=
      if_neg (Int.not_lt.mpr (Int.natCast_nonneg bound))
    rw [hbound]
    rfl

/-- An engine begins with the given namespaces and an empty cache. -/
theorem Engine.ofOptions_begins {o : EngineOptions} {e : Engine}
    (he : Engine.ofOptions o = .ok e) : e.bindings = o.bindings ∧ e.cache.entries = [] := by
  unfold Engine.ofOptions at he
  split at he
  · exact nomatch he
  · obtain ⟨cache, hcache, hengine⟩ := bind_eq_ok_iff.mp he
    obtain rfl := Except.ok.inj hengine
    unfold boundedCache at hcache
    split at hcache
    · exact nomatch hcache
    · obtain rfl := Except.ok.inj hcache
      exact ⟨rfl, rfl⟩

/-- A session with a new engine is sound. -/
theorem Session.sound_of_ofOptions {o : EngineOptions} {e : Engine}
    (he : Engine.ofOptions o = .ok e) (effects : Effects) :
    Session.Sound e { engine := e, effects } := by
  have hsound : e.CacheSound := Cache.sound_of_entries_eq_nil (Engine.ofOptions_begins he).2
  exact ⟨⟨rfl, rfl, hsound, hsound⟩, fun _ he => absurd he List.not_mem_nil⟩

/-- A sound session is like one with a new engine that has the same settings and namespaces. -/
theorem Session.Sound.alike_fresh {s : Session} (h : s.Sound base) (bound : Nat) {effects : Effects}
    (hnext : effects.nextId = s.effects.nextId) :
    Alike base s
      { engine := { base with bindings := s.engine.bindings, cache := { bound } }, effects,
        saved := s.saved } where
  engines :=
    { settings := h.engine.settings
      same := congrArg
        (fun e : Engine => { e with bindings := s.engine.bindings, cache := { bound } })
        h.engine.settings
      left := h.engine.left
      right := Cache.sound_of_entries_eq_nil rfl }
  saved := rfl
  compiled := h.saved
  nextId := hnext

/-- What is compiled in a context with a name is looked up for the key or made. -/
theorem Engine.compile_run {e : Engine} {expression : String} {context : Option String}
    {kind : ContextKind} (target : Option String)
    (hkind : ContextKind.ofName? (e.contextName context) = some kind) :
    (Engine.compile expression context target).run e =
      pure ((e.compiled ⟨expression, kind, target⟩).1,
        { e with cache := (e.compiled ⟨expression, kind, target⟩).2 }) := by
  unfold Engine.compile
  rw [StateT.run_bind, StateT.run_get, pure_bind]
  dsimp only
  rw [hkind]
  rfl

/-- Compiling the expression of a kept evaluator in a sound session keeps the same evaluator. -/
theorem Session.Sound.alike_compile {s : Session} (h : s.Sound base) {ev : Evaluator}
    (hev : ev.IsCompiled) :
    Alike base
      (s.perform host (.compile ev.expression (some ev.context.name) ev.target)).2
      { s with saved := ev :: s.saved } := by
  have hkind : ContextKind.ofName? (s.engine.contextName (some ev.context.name)) =
      some ev.context := by
    cases ev.context <;> rfl
  have hcompiled := h.engine.left.compiled_fst ⟨ev.expression, ev.context, ev.target⟩
  rw [show CacheKey.evaluator ⟨ev.expression, ev.context, ev.target⟩ = .ok ev from hev]
    at hcompiled
  have hkept : ∀ e ∈ ev :: s.saved, e.IsCompiled := List.forall_mem_cons.mpr ⟨hev, h.saved⟩
  have hcache := (h.engine.compiled ⟨ev.expression, ev.context, ev.target⟩).left
  unfold Session.perform Operation.execute
  rw [StateT.run_bind, Engine.compile_run ev.target hkind, pure_bind, hcompiled]
  exact ⟨⟨h.engine.settings, rfl, hcache, h.engine.left⟩, rfl, hkept, rfl⟩

/-- Running a kept evaluator takes nothing from the others that are kept. -/
theorem Session.perform_run {s : Session} {index : Nat} {ev : Evaluator}
    (hev : s.saved[index]? = some ev) (data : Value) (bindings : Fields) :
    (s.perform host (.run index data bindings)).1 =
      (Session.perform host { s with saved := [ev] } (.run 0 data bindings)).1 := by
  have hruns : runSaved host s.saved index data bindings = runSaved host [ev] 0 data bindings := by
    unfold runSaved
    rw [hev]
    rfl
  unfold Session.perform
  rw [Operation.execute, Operation.execute, hruns]
  rfl

/-- Whatever was done in a session, every operation has the answer that it has with a new engine,
and every kept evaluator has the outcome that it has when it is compiled anew. Sessions that differ
only in the bound of their caches and in where these are emptied give the same answers.

The next number is the same on both sides, since it becomes the identity of the next function; what
evaluations have left behind otherwise is arbitrary. -/
theorem Session.cache_transparent {o : EngineOptions} {e : Engine}
    (he : Engine.ofOptions o = .ok e) (effects : Effects) (history : List Operation) :
    let s := Session.after host { engine := e, effects } history
    (∀ bound : Nat, ∃ fresh,
      Engine.ofOptions { o with bindings := s.engine.bindings, cacheBound := bound } = .ok fresh ∧
      ∀ effects' : Effects, effects'.nextId = s.effects.nextId →
        (∀ op, (s.perform host op).1 =
          (perform host { engine := fresh, effects := effects', saved := s.saved } op).1) ∧
        ∀ (index : Nat) (ev : Evaluator), s.saved[index]? = some ev → ∀ data bindings,
          (s.perform host (.run index data bindings)).1 =
            ((perform host { engine := fresh, effects := effects' }
              (.compile ev.expression (some ev.context.name) ev.target)).2.perform host
                (.run 0 data bindings)).1) ∧
    ∀ bound : Nat, ∃ other, Engine.ofOptions { o with cacheBound := bound } = .ok other ∧
      ∀ (effects' : Effects) (history' : List Operation), effects'.nextId = effects.nextId →
        (history'.filter fun op => !op.isClear) = (history.filter fun op => !op.isClear) →
        answers host { engine := other, effects := effects' } history' =
          answers host { engine := e, effects } history := by
  intro s
  have hstart := sound_of_ofOptions he effects
  have hs : s.Sound e := hstart.after host history
  refine ⟨fun bound => ?_, fun bound => ?_⟩
  · have hfresh := Engine.ofOptions_with he s.engine.bindings bound
    refine ⟨_, hfresh, fun effects' hnext => ⟨fun op => ?_, fun index ev hev data bindings => ?_⟩⟩
    · exact ((hs.alike_fresh bound hnext).perform host op).1
    · have hcompiled : ev.IsCompiled := hs.saved ev (List.mem_of_getElem? hev)
      have halone : Sound e { s with saved := [ev] } :=
        ⟨hs.engine, List.forall_mem_singleton.mpr hcompiled⟩
      have hcompile := (sound_of_ofOptions hfresh effects').alike_compile host hcompiled
      rw [perform_run host hev, ((halone.alike_fresh bound hnext).perform host _).1,
        (hcompile.perform host _).1]
  · have hother := Engine.ofOptions_with he e.bindings bound
    rw [(Engine.ofOptions_begins he).1] at hother
    refine ⟨_, hother, fun effects' history' hnext hhistory => ?_⟩
    have halike := hstart.alike_fresh bound hnext
    rw [(Engine.ofOptions_begins he).1] at halike
    rw [hstart.answers_filter host history, ← hhistory, ← hstart.answers_filter host history']
    exact (halike.answers host history').symm

end

/-- After its name was bound anew and the cache emptied, a kept evaluator of a name has the outcome
of a new one, and without emptying the cache the answers would be the same. -/
theorem Session.cache_transparent_of_rebound :
    let host : Host := .standard fun name _ => .ok (.str name)
    let o : EngineOptions := { bindings := [("a", .int 1)], cacheBound := 1 }
    let ev : Evaluator := ⟨"a", .text, none, .name "a"⟩
    let history : List Operation :=
      [.compile ev.expression (some ev.context.name) ev.target, .setBindings [("a", .int 2)],
        .clearCache]
    ∃ e fresh other, Engine.ofOptions o = .ok e ∧
      let s := Session.after host { engine := e, effects := {} } history
      Engine.ofOptions { o with bindings := s.engine.bindings, cacheBound := (0 : Nat) } =
        .ok fresh ∧
      Engine.ofOptions { o with cacheBound := (2 : Nat) } = .ok other ∧
      s.saved[0]? = some ev ∧
      (s.perform host (.evaluateText "a" .null [])).1 =
        (Session.perform host { engine := fresh, effects := s.effects, saved := s.saved }
          (.evaluateText "a" .null [])).1 ∧
      (s.perform host (.run 0 .null [])).1 =
        ((Session.perform host { engine := fresh, effects := s.effects }
          (.compile ev.expression (some ev.context.name) ev.target)).2.perform host
            (.run 0 .null [])).1 ∧
      Session.answers host { engine := other, effects := {} }
          [.clearCache, .compile ev.expression (some ev.context.name) ev.target,
            .setBindings [("a", .int 2)]] =
        Session.answers host { engine := e, effects := {} } history := by
  intro host o ev history
  have hread : Expr.read "a" = .ok (.name "a") :=
    Expr.read_of_wellFormed (.name (by decide)) (by decide +kernel)
  have hev : ev.IsCompiled := by
    change Evaluator.ofText "a" .text none = .ok ev
    rw [Evaluator.ofText, hread]
    rfl
  obtain ⟨e, he⟩ : ∃ e, Engine.ofOptions o = .ok e := ⟨_, rfl⟩
  obtain ⟨hnew, hbound⟩ := Session.cache_transparent host he {} history
  obtain ⟨fresh, hfresh, hanswers⟩ := hnew 0
  obtain ⟨other, hother, hordered⟩ := hbound 2
  have hcompile := (Session.sound_of_ofOptions he {}).alike_compile host hev
  have hsaved : (Session.after host { engine := e, effects := {} } history).saved = [ev] :=
    hcompile.saved.symm
  have hfirst : (Session.after host { engine := e, effects := {} } history).saved[0]? = some ev :=
    congrArg (·[0]?) hsaved
  obtain ⟨hsame, hkept⟩ := hanswers _ rfl
  exact ⟨e, fresh, other, he, hfresh, hother, hfirst, hsame _, hkept 0 ev hfirst _ _,
    hordered {} _ rfl rfl⟩

end Trigger
