import Trigger.Proofs.Outcome
import Trigger.Proofs.Session.Cache
import Trigger.Proofs.Session.InStep

/-!
# Engines in step

Two engines agree if they have the settings of one engine, differ in nothing but their caches, and
both caches are sound. Computations in agreeing engines give the same results and leave agreeing
engines behind, whatever evaluations have left behind before: only the next number has to be the
same, and it shows only in the identity of functions.
-/

namespace Trigger

/-- The evaluator that is meant by a key, where compiling may nest so many calls if that is
limited. -/
def CacheKey.evaluator (key : CacheKey) (room : Option Nat := none) :
    Except CompileError Evaluator :=
  Evaluator.ofText key.expression key.context key.target room

/-- An evaluator is what its expression compiles to. -/
def Evaluator.IsCompiled (e : Evaluator) : Prop :=
  Evaluator.ofText e.expression e.context e.target = .ok e

/-- What a text compiles to remembers the text, the context and the target. -/
theorem Evaluator.isCompiled_of_ofText {expression : String} {context : ContextKind}
    {target : Option String} {e : Evaluator}
    (h : Evaluator.ofText expression context target = .ok e) : e.IsCompiled := by
  obtain ⟨rfl, rfl, rfl, -⟩ := Evaluator.parts_of_ofText h
  exact h

/-- What a text compiles to within limits, it also compiles to without them. -/
theorem Evaluator.ofText_of_ofText {expression : String} {context : ContextKind}
    {target : Option String} {room : Option Nat} {e : Evaluator}
    (h : Evaluator.ofText expression context target room = .ok e) :
    Evaluator.ofText expression context target = .ok e := by
  unfold ofText at h ⊢
  split at h
  · split at h
    · exact h
    · exact nomatch h
  · exact nomatch h

namespace Engine

/-- Every evaluator in the cache is what its key means. -/
def CacheSound (e : Engine) : Prop := e.cache.Sound Compiled.evaluator CacheKey.evaluator

/-- Two engines with the settings of a first one that differ in nothing but their caches, which are
sound. -/
structure Agree (base e f : Engine) : Prop where
  settings : base = { e with bindings := base.bindings, cache := base.cache }
  same : f = { e with cache := f.cache }
  left : e.CacheSound
  right : f.CacheSound

end Engine

/-! ## Computations in agreeing engines -/

/-- Two computations that have related results in agreeing engines, and keep them agreeing. -/
def EngineInStep (base : Engine) {α β : Type} (R : α → β → Prop) (x : EngineM α) (y : EngineM β) :
    Prop :=
  ∀ e f : Engine, base.Agree e f →
    InStep 0 (fun p q => R p.1 q.1 ∧ base.Agree p.2 q.2) (x.run e) (y.run f)

variable {base : Engine}

namespace EngineInStep

variable {α β γ δ : Type} {R : α → β → Prop} {S : γ → δ → Prop}

/-- Related results without effects. -/
theorem pure {a : α} {b : β} (h : R a b) : EngineInStep base R (Pure.pure a) (Pure.pure b) :=
  fun _ _ hagree => InStep.pure ⟨h, hagree⟩

/-- What follows two computations in step. -/
theorem bind {x : EngineM α} {y : EngineM β} {f : α → EngineM γ} {g : β → EngineM δ}
    (h : EngineInStep base R x y) (hf : ∀ a b, R a b → EngineInStep base S (f a) (g b)) :
    EngineInStep base S (x >>= f) (y >>= g) :=
  fun e e' hagree => InStep.bind (h e e' hagree) fun p q hpq => hf p.1 q.1 hpq.1 p.2 q.2 hpq.2

/-- Computations that have nothing to do with the engine. -/
theorem lift {x : StateM Effects α} {y : StateM Effects β} (h : InStep 0 R x y) :
    EngineInStep base R (liftM x : EngineM α) (liftM y : EngineM β) := by
  intro e f hagree
  change InStep 0 _ (do let a ← x; Pure.pure (a, e)) (do let b ← y; Pure.pure (b, f))
  exact InStep.bind h fun a b hab => InStep.pure ⟨hab, hagree⟩

/-- Agreeing engines are looked at. -/
theorem fetched : EngineInStep base base.Agree get get :=
  fun _ _ hagree => InStep.pure ⟨hagree, hagree⟩

/-- Agreeing engines are stored. -/
theorem stored {e f : Engine} (h : base.Agree e f) :
    EngineInStep base (fun _ _ => True) (set e) (set f) :=
  fun _ _ _ => InStep.pure ⟨trivial, h⟩

/-- Agreeing engines are changed. -/
theorem modified {g : Engine → Engine}
    (h : ∀ e f : Engine, base.Agree e f → base.Agree (g e) (g f)) :
    EngineInStep base (fun _ _ => True) (modify g) (modify g) :=
  fun e f hagree => InStep.pure ⟨trivial, h e f hagree⟩

end EngineInStep

/-! ## Compiling -/

/-- Two outcomes of compiling with the same evaluator, which its expression compiles to. -/
def SameCompiled (x y : Except CompileError Compiled) : Prop :=
  x.map (·.evaluator) = y.map (·.evaluator) ∧ ∀ c, x = .ok c → c.evaluator.IsCompiled

/-- An outcome is the one that is meant by a key. -/
theorem sameCompiled_of_key {x y : Except CompileError Compiled} {key : CacheKey}
    (hx : x.map (·.evaluator) = key.evaluator) (hy : y.map (·.evaluator) = key.evaluator) :
    SameCompiled x y := by
  refine ⟨hx.trans hy.symm, fun c hc => ?_⟩
  rw [hc] at hx
  exact Evaluator.isCompiled_of_ofText hx.symm

/-- Outcomes with the same evaluator are both failures or both evaluators. -/
theorem SameCompiled.cases {x y : Except CompileError Compiled} (h : SameCompiled x y) :
    (∃ error, x = .error error ∧ y = .error error) ∨
      ∃ c c', x = .ok c ∧ y = .ok c' ∧ c.evaluator = c'.evaluator ∧ c.evaluator.IsCompiled := by
  obtain ⟨hsame, hcompiled⟩ := h
  cases x with
  | error error =>
    cases y with
    | error error' =>
      obtain rfl := Except.error.inj hsame
      exact .inl ⟨error, rfl, rfl⟩
    | ok c => exact nomatch hsame
  | ok c =>
    cases y with
    | error error => exact nomatch hsame
    | ok c' => exact .inr ⟨c, c', rfl, rfl, Except.ok.inj hsame, hcompiled c rfl⟩

/-- Two results of parsing with the same evaluator, which its expression compiles to. -/
def SameParsed (x y : Option Compiled) : Prop :=
  x.map (·.evaluator) = y.map (·.evaluator) ∧ ∀ c, x = some c → c.evaluator.IsCompiled

namespace Engine

/-- What is looked up for a key or made, where compiling may nest so many calls if that is limited,
and the cache after it. -/
def compiled (e : Engine) (key : CacheKey) (room : Option Nat := none) :
    Except CompileError Compiled × Cache CacheKey Compiled :=
  e.cache.getOrMake key fun key => return ⟨e.cache.counts.compiles, ← key.evaluator room⟩

variable {e f : Engine}

/-- What is made for a key is what is meant by it. -/
theorem map_make (n : Nat) (key : CacheKey) :
    Except.map Compiled.evaluator (do return ⟨n, ← key.evaluator⟩) = key.evaluator := by
  cases key.evaluator <;> rfl

/-- What is made for a key within limits is what is meant by it. -/
theorem evaluator_of_make {n : Nat} {key : CacheKey} {room : Option Nat} {c : Compiled}
    (h : (do return ⟨n, ← key.evaluator room⟩) = Except.ok (ε := CompileError) c) :
    key.evaluator = .ok c.evaluator := by
  obtain ⟨e, he, hc⟩ := bind_eq_ok_iff.mp h
  obtain rfl := Except.ok.inj hc
  exact Evaluator.ofText_of_ofText he

/-- An engine with a sound cache gives what is meant by a key. -/
theorem CacheSound.compiled_fst (h : e.CacheSound) (key : CacheKey) :
    (e.compiled key).1.map (·.evaluator) = key.evaluator := h.getOrMake_fst (map_make _ key)

/-- Engines agree after something was compiled in both. -/
theorem Agree.compiled (h : base.Agree e f) (key : CacheKey) :
    base.Agree { e with cache := (e.compiled key).2 } { f with cache := (f.compiled key).2 } where
  settings := h.settings
  same := by rw [h.same]
  left := h.left.getOrMake_snd fun _ => evaluator_of_make
  right := h.right.getOrMake_snd fun _ => evaluator_of_make

/-- Agreeing engines have the same environment. -/
theorem Agree.environment (h : base.Agree e f) (host : Host) :
    f.environment host = e.environment host := by
  rw [h.same]
  rfl

/-- Agreeing engines mean the same context. -/
theorem Agree.contextName (h : base.Agree e f) (context : Option String) :
    f.contextName context = e.contextName context := by
  rw [h.same]
  rfl

/-- Expressions are compiled alike in a context that is known. -/
theorem compileIn_inStep (expression : String) (context : ContextKind) (target : Option String) :
    EngineInStep base SameCompiled (compileIn expression context target)
      (compileIn expression context target) := by
  refine EngineInStep.bind EngineInStep.fetched fun e f h => ?_
  have hsame := sameCompiled_of_key (h.left.compiled_fst ⟨expression, context, target⟩)
    (h.right.compiled_fst ⟨expression, context, target⟩)
  exact EngineInStep.bind (EngineInStep.stored (h.compiled _)) fun _ _ _ => EngineInStep.pure hsame

/-- Expressions are compiled alike. -/
theorem compile_inStep (expression : String) (context target : Option String) :
    EngineInStep base SameCompiled (compile expression context target)
      (compile expression context target) := by
  refine EngineInStep.bind EngineInStep.fetched fun e f h => ?_
  dsimp only
  rw [h.contextName]
  cases ContextKind.ofName? (e.contextName context) with
  | some kind => exact compileIn_inStep expression kind target
  | none => exact EngineInStep.pure ⟨rfl, fun _ hc => nomatch hc⟩

/-- Expressions are parsed alike. -/
theorem parse_inStep (expression : String) (context target : Option String) :
    EngineInStep base SameParsed (parse expression context target)
      (parse expression context target) := by
  refine EngineInStep.bind (compile_inStep expression context target) fun x y hxy => ?_
  obtain ⟨error, rfl, rfl⟩ | ⟨c, c', rfl, rfl, hsame, hcompiled⟩ := hxy.cases
  · refine EngineInStep.bind EngineInStep.fetched fun e f h => ?_
    have hnone : SameParsed none none := ⟨rfl, fun _ hc => nomatch hc⟩
    have hflag : f.logFailures = e.logFailures := by rw [h.same]
    rw [hflag]
    cases e.logFailures with
    | true =>
      exact EngineInStep.bind (EngineInStep.lift (InStep.report _ _)) fun _ _ _ =>
        EngineInStep.pure hnone
    | false => exact EngineInStep.pure hnone
  · refine EngineInStep.pure ⟨congrArg some hsame, fun c₀ hc₀ => ?_⟩
    obtain rfl := Option.some.inj hc₀
    exact hcompiled

/-- Expressions about records are parsed alike. -/
theorem parseObject_inStep (expression : String) (target : Option String) :
    EngineInStep base SameParsed (parseObject expression target)
      (parseObject expression target) := by
  refine EngineInStep.bind EngineInStep.fetched fun e f h => ?_
  have htarget : f.defaultTarget = e.defaultTarget := by rw [h.same]
  rw [htarget]
  exact parse_inStep expression _ _

/-- Expressions are found to be wrong alike. -/
theorem validate_inStep (expression : String) (context : Option String) :
    EngineInStep base Eq (validate expression context) (validate expression context) := by
  refine EngineInStep.bind (compile_inStep expression context none) fun x y hxy => ?_
  obtain ⟨error, rfl, rfl⟩ | ⟨c, c', rfl, rfl, -, -⟩ := hxy.cases <;> exact EngineInStep.pure rfl

/-! ## Evaluating -/

section

variable (host : Host)

/-- Evaluators have the same outcomes. -/
theorem runEvaluator_inStep (ev : Evaluator) (data : Value) (bindings : Fields) :
    EngineInStep base Eq (runEvaluator host ev data bindings)
      (runEvaluator host ev data bindings) := by
  refine EngineInStep.bind EngineInStep.fetched fun e f h => ?_
  rw [h.environment]
  exact EngineInStep.lift (ev.run_inStep_self _ data bindings)

/-- Evaluators have the same values. -/
theorem callEvaluator_inStep (ev : Evaluator) (data : Value) (bindings : Fields) :
    EngineInStep base Eq (callEvaluator host ev data bindings)
      (callEvaluator host ev data bindings) := by
  refine EngineInStep.bind EngineInStep.fetched fun e f h => ?_
  rw [h.environment]
  exact EngineInStep.lift (ev.call_inStep _ data bindings)

/-- What was parsed alike has the same value. -/
theorem callOrNull_inStep {x y : Option Compiled} (h : SameParsed x y) (data : Value)
    (bindings : Fields) :
    EngineInStep base Eq (callOrNull host x data bindings) (callOrNull host y data bindings) := by
  obtain ⟨hsame, -⟩ := h
  cases x with
  | none =>
    cases y with
    | none => exact EngineInStep.pure rfl
    | some c => exact nomatch hsame
  | some c =>
    cases y with
    | none => exact nomatch hsame
    | some c' =>
      have hevaluator : c.evaluator = c'.evaluator := Option.some.inj hsame
      rw [callOrNull, callOrNull, hevaluator]
      exact callEvaluator_inStep host c'.evaluator data bindings

/-- Expressions about a text have the same value. -/
theorem evaluateText_inStep (expression : String) (data : Value) (bindings : Fields) :
    EngineInStep base Eq (evaluateText host expression data bindings)
      (evaluateText host expression data bindings) :=
  EngineInStep.bind (parse_inStep expression _ _) fun _ _ hxy =>
    callOrNull_inStep host hxy data bindings

/-- Expressions about a record have the same value. -/
theorem evaluateObject_inStep (expression : String) (data : Value) (target : Option String)
    (bindings : Fields) :
    EngineInStep base Eq (evaluateObject host expression data target bindings)
      (evaluateObject host expression data target bindings) :=
  EngineInStep.bind (parseObject_inStep expression target) fun _ _ hxy =>
    callOrNull_inStep host hxy data bindings

/-- Expressions about some data have the same value. -/
theorem evaluate_inStep (expression : String) (data : Value) (bindings : Fields) :
    EngineInStep base Eq (evaluate host expression data bindings)
      (evaluate host expression data bindings) := by
  cases data with
  | null | str => exact evaluateText_inStep host expression _ bindings
  | _ => exact evaluateObject_inStep host expression _ none bindings

end

/-! ## The state of a session -/

/-- Agreeing engines agree after the same change of their namespaces. -/
theorem Agree.withBindings (h : base.Agree e f) (bindings : Fields) :
    base.Agree { e with bindings } { f with bindings } where
  settings := h.settings
  same := by rw [h.same]
  left := h.left
  right := h.right

/-- Namespaces are added to agreeing engines. -/
theorem setBindings_inStep (bindings : Fields) :
    EngineInStep base (fun _ _ => True) (setBindings bindings) (setBindings bindings) := by
  refine EngineInStep.modified fun e f h => ?_
  have hbindings : f.bindings = e.bindings := by rw [h.same]
  rw [hbindings]
  exact h.withBindings _

/-- The namespaces of agreeing engines are replaced. -/
theorem replaceBindings_inStep (bindings : Fields) :
    EngineInStep base (fun _ _ => True) (replaceBindings bindings) (replaceBindings bindings) :=
  EngineInStep.modified fun _ _ h => h.withBindings bindings

/-- A cache without entries is sound. -/
theorem cacheSound_clear : CacheSound { e with cache := e.cache.clear.2 } :=
  Cache.sound_of_entries_eq_nil rfl

/-- The caches of agreeing engines are emptied. -/
theorem clearCache_inStep : EngineInStep base (fun _ _ => True) clearCache clearCache := by
  refine EngineInStep.bind EngineInStep.fetched fun e f h => ?_
  have hcleared :
      base.Agree { e with cache := e.cache.clear.2 } { f with cache := f.cache.clear.2 } :=
    ⟨h.settings, by rw [h.same], cacheSound_clear, cacheSound_clear⟩
  refine EngineInStep.bind (EngineInStep.stored hcleared) fun _ _ _ => ?_
  exact EngineInStep.bind (EngineInStep.lift (InStep.report _ _)) fun _ _ _ =>
    EngineInStep.pure trivial

end Engine

/-! ## Finding records -/

/-- Queries are taken as the same test. -/
theorem RecordPredicate.ofQuery_inStep (host : Host) (query : RecordQuery)
    (target titleField : Option String) :
    EngineInStep base Eq (RecordPredicate.ofQuery host query target titleField)
      (RecordPredicate.ofQuery host query target titleField) := by
  refine EngineInStep.bind EngineInStep.fetched fun e f h => ?_
  have htitle : f.titleField = e.titleField := by rw [h.same]
  cases query with
  | function | evaluator => exact EngineInStep.pure rfl
  | titled fields =>
    dsimp only
    rw [htitle]
    cases fields.lookup (Engine.givenOr e.titleField id titleField) <;> exact EngineInStep.pure rfl
  | text query =>
    dsimp only
    rw [htitle, h.environment]
    refine EngineInStep.bind (Engine.compileIn_inStep query .object target) fun x y hxy => ?_
    obtain ⟨error, rfl, rfl⟩ | ⟨c, c', rfl, rfl, hsame, -⟩ := hxy.cases
    · cases error <;> exact EngineInStep.pure rfl
    · exact EngineInStep.pure (by rw [hsame])
  | other v =>
    have hcounted (counts counts' : CacheCounts) :
        base.Agree { e with cache.counts := counts } { f with cache.counts := counts' } :=
      ⟨h.settings, by rw [h.same], h.left, h.right⟩
    dsimp only
    cases v.isHashable with
    | true => exact EngineInStep.bind (EngineInStep.stored (hcounted _ _)) fun _ _ _ =>
        EngineInStep.pure rfl
    | false => exact EngineInStep.pure rfl

/-- The same records are found for a query. -/
theorem findRecords_inStep (host : Host) (query : RecordQuery) (source : RecordSource)
    (first : Bool) (target titleField : Option String) :
    EngineInStep base Eq (findRecords host query source first target titleField)
      (findRecords host query source first target titleField) := by
  refine EngineInStep.bind (RecordPredicate.ofQuery_inStep host query target titleField)
    fun x y hxy => ?_
  subst hxy
  cases x with
  | error e => exact EngineInStep.pure rfl
  | ok p =>
    refine EngineInStep.bind (EngineInStep.lift (p.search_inStep host first source))
      fun a b hab => ?_
    exact EngineInStep.pure (congrArg Except.ok (outcomes_eq_iff.mp hab))

end Trigger
