import Trigger.Proofs.Session.Transparency

/-!
# Reachable sessions

A session is reached from a new engine by operations, and by compiling texts and taking queries as
predicates wherever the calls of a compilation may not be nested deeply. What is evaluated beside it
changes nothing but what evaluations leave behind. Whatever was done, every evaluator in the cache of
the engine is what its key means.
-/

namespace Trigger

/-- The result of a computation in a session, and the session after it. -/
def Session.compute {α : Type} (s : Session) (x : EngineM α) : α × Session :=
  let outcome := (x.run s.engine).run s.effects
  (outcome.1.1, { s with engine := outcome.1.2, effects := outcome.2 })

/-- The sessions that can be reached. -/
inductive Session.Reached (host : Host) : Session → Prop
  | new {o : EngineOptions} {e : Engine} (he : Engine.ofOptions o = .ok e) (effects : Effects) :
      Reached host { engine := e, effects }
  | perform {s : Session} (h : Reached host s) (op : Operation) :
      Reached host (s.perform host op).2
  | predicate {s : Session} (h : Reached host s) (query : RecordQuery)
      (target titleField : Option String) (room : Option Nat) :
      Reached host (s.compute (RecordPredicate.ofQuery host query target titleField room)).2
  | compile {s : Session} (h : Reached host s) (expression : String) (context : ContextKind)
      (target : Option String) (room : Option Nat) :
      Reached host (s.compute (Engine.compileIn expression context target room)).2
  | evaluated {s : Session} (h : Reached host s) (effects : Effects) :
      Reached host { s with effects }

variable {host : Host} {base : Engine} {s : Session}

/-- An engine in which something was compiled is still sound. -/
theorem Engine.CacheSound.compiled_snd {e : Engine} (h : e.CacheSound) (key : CacheKey)
    (room : Option Nat) : Engine.CacheSound { e with cache := (e.compiled key room).2 } :=
  h.getOrMake_snd fun _ => Engine.evaluator_of_make

namespace Session

/-! ## Computations in a session -/

/-- Nothing happens. -/
@[simp]
theorem compute_pure {α : Type} (a : α) : s.compute (pure a) = (a, s) := rfl

/-- The engine is looked at. -/
@[simp]
theorem compute_get : s.compute get = (s.engine, s) := rfl

/-- The engine is replaced. -/
@[simp]
theorem compute_set (e : Engine) : s.compute (set e) = ((), { s with engine := e }) := rfl

/-- One computation goes on in the session after another. -/
theorem compute_bind {α β : Type} (x : EngineM α) (f : α → EngineM β) :
    s.compute (x >>= f) = (s.compute x).2.compute (f (s.compute x).1) := rfl

/-- Compiling looks an evaluator up or makes it. -/
theorem compute_compileIn (text : String) (context : ContextKind) (target : Option String)
    (room : Option Nat) :
    s.compute (Engine.compileIn text context target room) =
      ((s.engine.compiled ⟨text, context, target⟩ room).1,
        { s with engine :=
          { s.engine with cache := (s.engine.compiled ⟨text, context, target⟩ room).2 } }) := rfl

/-- A text is taken as a predicate by compiling it. -/
theorem compute_ofQuery_snd (text : String) (target titleField : Option String) (room : Option Nat) :
    (s.compute (RecordPredicate.ofQuery host (.text text) target titleField room)).2 =
      { s with engine :=
        { s.engine with cache := (s.engine.compiled ⟨text, .object, target⟩ room).2 } } := by
  unfold RecordPredicate.ofQuery
  rw [compute_bind, compute_get]
  dsimp only
  rw [compute_bind, compute_compileIn]
  cases (s.engine.compiled ⟨text, .object, target⟩ room).1 with
  | ok c => rfl
  | error error => cases error <;> rfl

/-! ## Soundness -/

/-- A session is still sound if its engine has other counts and entries that are sound. -/
theorem Sound.withCache (h : s.Sound base) {cache : Cache CacheKey Compiled}
    (hcache : cache.Sound Compiled.evaluator CacheKey.evaluator) :
    Sound base { s with engine := { s.engine with cache } } :=
  ⟨⟨h.engine.settings, rfl, hcache, hcache⟩, h.saved⟩

/-- A session stays sound when a query is taken as a predicate. -/
theorem Sound.predicate (h : s.Sound base) (query : RecordQuery)
    (target titleField : Option String) (room : Option Nat) :
    (s.compute (RecordPredicate.ofQuery host query target titleField room)).2.Sound base := by
  have hsound : s.engine.CacheSound := h.engine.left
  cases query with
  | function f => exact h
  | evaluator ev env => exact h
  | titled fields =>
    unfold RecordPredicate.ofQuery
    rw [compute_bind, compute_get]
    dsimp only
    cases fields.lookup (Engine.givenOr s.engine.titleField id titleField) <;> exact h
  | text text =>
    rw [compute_ofQuery_snd]
    exact h.withCache (hsound.compiled_snd ⟨text, .object, target⟩ room)
  | other v =>
    unfold RecordPredicate.ofQuery
    rw [compute_bind, compute_get]
    dsimp only
    cases v.isHashable with
    | true => exact h.withCache hsound
    | false => exact h

/-- Every session that can be reached is sound. -/
theorem Reached.sound (h : Reached host s) : ∃ base, s.Sound base := by
  induction h with
  | new he effects => exact ⟨_, sound_of_ofOptions he effects⟩
  | perform _ op ih =>
    obtain ⟨base, hs⟩ := ih
    exact ⟨base, (hs.alike.perform host op).2.sound⟩
  | predicate _ query target titleField room ih =>
    obtain ⟨base, hs⟩ := ih
    exact ⟨base, hs.predicate query target titleField room⟩
  | compile _ expression context target room ih =>
    obtain ⟨base, hs⟩ := ih
    exact ⟨base, hs.withCache (hs.engine.left.compiled_snd ⟨expression, context, target⟩ room)⟩
  | evaluated _ effects ih =>
    obtain ⟨base, hs⟩ := ih
    exact ⟨base, hs.engine, hs.saved⟩

end Session

end Trigger
