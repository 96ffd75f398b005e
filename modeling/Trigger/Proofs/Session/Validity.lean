import Trigger.Eval.Standard
import Trigger.Proofs.Printing.RoundTrip
import Trigger.Proofs.Session.Reached
import Trigger.Proofs.Validity.Basic

/-!
# Which texts are valid

In every session that can be reached, whatever is in its cache, a text that cannot be read does not
compile, for the reason of reading, and one that can be read compiles to what was read. Compiling,
parsing, validating and taking a text as a predicate all go by this. They part where the calls of a
compilation may not be nested so deeply: a text that is valid but too deep for this is no title.
-/

namespace Trigger.Session

variable {host : Host} {base : Engine} {s : Session} {text : String}

/-! ## Limits -/

/-- A sum with so many signs. -/
def onesSum : Nat → Expr
  | 0 => .literal (.int 1)
  | n + 1 => .binary .add (onesSum n) (.literal (.int 1))

/-- Sums are written without parentheses. -/
theorem wellFormed_onesSum (n : Nat) : Expr.WellFormed .anywhere (onesSum n) := by
  induction n with
  | zero => exact .int 1 (by decide)
  | succ n ih => exact .binary (by simp) ih (.int 1 (by decide))

/-- Every operator of a sum takes two nested calls. -/
theorem compileDepth_onesSum (n : Nat) : (onesSum n).compileDepth = 2 * n + 1 := by
  induction n with
  | zero => rfl
  | succ n ih =>
    rw [onesSum, Expr.compileDepth, ih, Expr.compileDepth]
    omega

/-- Whatever the limit is, there is a text that can be read but takes more nested calls. -/
theorem exists_read_not_fits (limit : Nat) :
    ∃ text body, Expr.read text = .ok body ∧ body.fits (some limit) = false := by
  refine ⟨_, _, Expr.read_print (wellFormed_onesSum limit), ?_⟩
  rw [Expr.fits, compileDepth_onesSum, decide_eq_false_iff_not]
  omega

/-! ## Compiling -/

/-- In a sound session a text is looked up as what it means, or made within limits. -/
theorem Sound.compiled_cases (h : s.Sound base) (key : CacheKey) (room : Option Nat) :
    (∃ c, (s.engine.compiled key room).1 = .ok c ∧ key.evaluator = .ok c.evaluator ∧
        s.engine.cache.contains key = true) ∨
      s.engine.cache.contains key = false ∧
        (s.engine.compiled key room).1.map (·.evaluator) = key.evaluator room := by
  unfold Cache.contains Engine.compiled Cache.getOrMake
  cases hget : s.engine.cache.get? key with
  | some c => exact .inl ⟨c, rfl, h.engine.left.get? hget, rfl⟩
  | none =>
    refine .inr ⟨rfl, ?_⟩
    dsimp only
    cases key.evaluator room <;> rfl

/-- In a sound session a text that can be read is looked up or made as what was read, if that can be
compiled with so many nested calls or is there already. -/
theorem Sound.compiled_of_fits (h : s.Sound base) {body : Expr} (hread : Expr.read text = .ok body)
    {kind : ContextKind} {target : Option String} {room : Option Nat}
    (hroom : body.fits room = true ∨ s.engine.cache.contains ⟨text, kind, target⟩ = true) :
    ∃ c, (s.engine.compiled ⟨text, kind, target⟩ room).1 = .ok c ∧
      c.evaluator = ⟨text, kind, target, body⟩ := by
  obtain ⟨c, hc, hmeant, -⟩ | ⟨hmissing, hmade⟩ := h.compiled_cases ⟨text, kind, target⟩ room
  · have hwhole := Evaluator.ofText_of_read hread kind target
    exact ⟨c, hc, Except.ok.inj (hmeant.symm.trans hwhole)⟩
  · rw [hmissing] at hroom
    have hfits := hroom.resolve_right Bool.false_ne_true
    rw [CacheKey.evaluator, Evaluator.ofText_of_fits hread hfits] at hmade
    cases houtcome : (s.engine.compiled ⟨text, kind, target⟩ room).1 with
    | ok c =>
      rw [houtcome] at hmade
      exact ⟨c, rfl, Except.ok.inj hmade⟩
    | error error =>
      rw [houtcome] at hmade
      cases hmade

/-- In a sound session a text that can be read is looked up or made as what was read, where nested
calls are not limited. -/
theorem Sound.compiled_of_read (h : s.Sound base) {body : Expr} (hread : Expr.read text = .ok body)
    (kind : ContextKind) (target : Option String) :
    ∃ c, (s.engine.compiled ⟨text, kind, target⟩).1 = .ok c ∧
      c.evaluator = ⟨text, kind, target, body⟩ :=
  h.compiled_of_fits hread (.inl rfl)

/-- In a sound session, what a text fails for that is not there already is what compiling it fails
for. -/
theorem Sound.compiled_of_failure (h : s.Sound base) {kind : ContextKind} {target : Option String}
    {room : Option Nat} {error : CompileError}
    (hmissing : s.engine.cache.contains ⟨text, kind, target⟩ = false)
    (herror : Evaluator.ofText text kind target room = .error error) :
    (s.engine.compiled ⟨text, kind, target⟩ room).1 = .error error := by
  obtain ⟨c, -, -, hfound⟩ | ⟨-, hmade⟩ := h.compiled_cases ⟨text, kind, target⟩ room
  · exact nomatch hmissing.symm.trans hfound
  · rw [CacheKey.evaluator, herror] at hmade
    cases houtcome : (s.engine.compiled ⟨text, kind, target⟩ room).1 with
    | ok c =>
      rw [houtcome] at hmade
      cases hmade
    | error error' =>
      rw [houtcome] at hmade
      cases hmade
      rfl

/-- In a sound session a text that cannot be read fails for the reason of reading. -/
theorem Sound.compiled_of_error (h : s.Sound base) {error : ReadError}
    (hread : Expr.read text = .error error) (kind : ContextKind) (target : Option String)
    (room : Option Nat) :
    (s.engine.compiled ⟨text, kind, target⟩ room).1 = .error (.read error) := by
  refine h.compiled_of_failure ?_ (Evaluator.ofText_of_error hread kind target)
  obtain ⟨c, -, hmeant, -⟩ | ⟨hmissing, -⟩ := h.compiled_cases ⟨text, kind, target⟩ room
  · exact nomatch (Evaluator.ofText_of_error hread kind target).symm.trans hmeant
  · exact hmissing

/-- Where nested calls are not limited, there are never too many. -/
theorem compiled_ne_tooDeep (key : CacheKey) : (s.engine.compiled key).1 ≠ .error .tooDeep := by
  unfold Engine.compiled Cache.getOrMake
  cases s.engine.cache.get? key with
  | some c => exact fun h => nomatch h
  | none =>
    have hne : key.evaluator ≠ .error .tooDeep := Evaluator.ofText_ne_tooDeep _ _ _
    dsimp only
    cases houtcome : key.evaluator with
    | ok e => exact fun h => nomatch h
    | error error =>
      rw [houtcome] at hne
      exact fun h => hne (congrArg Except.error (Except.error.inj h))

/-- In a context that is known, a text is compiled in this context. -/
theorem compute_compile {context : Option String} {kind : ContextKind}
    (hkind : ContextKind.ofName? (s.engine.contextName context) = some kind)
    (target : Option String) (room : Option Nat) :
    s.compute (Engine.compile text context target room) =
      s.compute (Engine.compileIn text kind target room) := by
  unfold Engine.compile
  rw [compute_bind, compute_get]
  dsimp only
  rw [hkind]

/-! ## Entry points -/

section

variable {context : Option String} {kind : ContextKind}

/-- What a text compiles to is looked up or made. -/
theorem compute_compile_fst
    (hkind : ContextKind.ofName? (s.engine.contextName context) = some kind)
    (target : Option String) (room : Option Nat) :
    (s.compute (Engine.compile text context target room)).1 =
      (s.engine.compiled ⟨text, kind, target⟩ room).1 := by
  rw [compute_compile hkind, compute_compileIn]

/-- What a text compiles to, if it does, is what parsing it gives. -/
theorem compute_parse_fst
    (hkind : ContextKind.ofName? (s.engine.contextName context) = some kind)
    (target : Option String) (room : Option Nat) :
    (s.compute (Engine.parse text context target room)).1 =
      (s.engine.compiled ⟨text, kind, target⟩ room).1.toOption := by
  rw [Engine.parse, compute_bind, compute_compile hkind, compute_compileIn]
  cases (s.engine.compiled ⟨text, kind, target⟩ room).1 with
  | ok c => rfl
  | error error =>
    dsimp only
    rw [compute_bind, compute_get]
    cases s.engine.logFailures <;> rfl

/-- The wording of the error, if there is one. -/
def wording? {α : Type} : Except CompileError α → Option String
  | .ok _ => none
  | .error error => some error.message

/-- The wording of the error, if there is one, is what validating a text gives. -/
theorem compute_validate_fst
    (hkind : ContextKind.ofName? (s.engine.contextName context) = some kind) (room : Option Nat) :
    (s.compute (Engine.validate text context room)).1 =
      wording? (s.engine.compiled ⟨text, kind, none⟩ room).1 := by
  rw [Engine.validate, compute_bind, compute_compile hkind, compute_compileIn]
  cases (s.engine.compiled ⟨text, kind, none⟩ room).1 <;> rfl

/-- The answer of an operation is that of its computation. -/
theorem perform_fst (op : Operation) :
    (s.perform host op).1 = (s.compute (op.execute host s.saved)).1.1 := rfl

/-- In a sound session the answer of compiling a text is what the text means. -/
theorem Sound.perform_compile (h : s.Sound base)
    (hkind : ContextKind.ofName? (s.engine.contextName context) = some kind)
    (target : Option String) :
    (s.perform host (.compile text context target)).1 =
      .compiled (Evaluator.ofText text kind target) := by
  have hmeant := h.engine.left.compiled_fst ⟨text, kind, target⟩
  rw [perform_fst, Operation.execute, compute_bind, compute_compile hkind, compute_compileIn]
  exact congrArg Answer.compiled hmeant

end

/-- In a sound session an expression about a text has the value of what is read. -/
theorem Sound.compute_evaluateText (h : s.Sound base) {body : Expr}
    (hread : Expr.read text = .ok body) (data : Value) (bindings : Fields) :
    (s.compute (Engine.evaluateText host text data bindings)).1 =
      ((Evaluator.call ⟨text, .text, none, body⟩ (s.engine.environment host) data bindings).run
        s.effects).1 := by
  obtain ⟨c, hc, hevaluator⟩ := h.compiled_of_read hread .text none
  have hkind : ContextKind.ofName? (s.engine.contextName (some ContextKind.text.name)) =
      some .text := rfl
  unfold Engine.evaluateText Engine.parseText Engine.parse
  rw [compute_bind, compute_bind, compute_compile hkind, compute_compileIn, hc, ← hevaluator]
  rfl

section

variable {target : Option String} {room : Option Nat}

/-- A text that compiles is taken as the predicate of its evaluator. -/
theorem compute_ofQuery_of_ok {c : Compiled}
    (hc : (s.engine.compiled ⟨text, .object, target⟩ room).1 = .ok c)
    (titleField : Option String) :
    (s.compute (RecordPredicate.ofQuery host (.text text) target titleField room)).1 =
      .ok (.evaluates c.evaluator (s.engine.environment host)) := by
  unfold RecordPredicate.ofQuery
  rw [compute_bind, compute_get]
  dsimp only
  rw [compute_bind, compute_compileIn, hc]
  rfl

/-- A text that does not compile is taken as a title, unless it is nested too deeply. -/
theorem compute_ofQuery_of_error {error : CompileError}
    (herror : (s.engine.compiled ⟨text, .object, target⟩ room).1 = .error error)
    (hdeep : error ≠ .tooDeep) (titleField : Option String) :
    (s.compute (RecordPredicate.ofQuery host (.text text) target titleField room)).1 =
      .ok (.hasTitle (.str text) (Engine.givenOr s.engine.titleField id titleField)) := by
  unfold RecordPredicate.ofQuery
  rw [compute_bind, compute_get]
  dsimp only
  rw [compute_bind, compute_compileIn, herror]
  cases error with
  | tooDeep => exact absurd rfl hdeep
  | _ => rfl

/-- A text that is nested too deeply is no predicate. -/
theorem compute_ofQuery_of_tooDeep
    (herror : (s.engine.compiled ⟨text, .object, target⟩ room).1 = .error .tooDeep)
    (titleField : Option String) :
    (s.compute (RecordPredicate.ofQuery host (.text text) target titleField room)).1 =
      .error .tooDeep := by
  unfold RecordPredicate.ofQuery
  rw [compute_bind, compute_get]
  dsimp only
  rw [compute_bind, compute_compileIn, herror]
  rfl

end

/-! ## Validity -/

/-- In every session that can be reached and in every context that is known, a text that cannot be
read fails with the error of reading, and all ways to take it agree on this: it has no evaluator, the
error is what is wrong with it, and as a query it is a title. A text that can be read passes the check,
and all ways agree on what was read, as long as it can be compiled with so many nested calls or is in
the cache. Otherwise it has no evaluator either and this is what is wrong with it, but as a query it
is refused instead of being taken as a title. -/
theorem Reached.decided_by_read (hs : Reached host s) (text : String) (room : Option Nat)
    {context : Option String} {kind : ContextKind}
    (hkind : ContextKind.ofName? (s.engine.contextName context) = some kind)
    (target titleField : Option String) :
    let compile := (s.compute (Engine.compile text context target room)).1.map (·.evaluator)
    let parse := (s.compute (Engine.parse text context target room)).1.map (·.evaluator)
    let validate := (s.compute (Engine.validate text context room)).1
    let query :=
      (s.compute (RecordPredicate.ofQuery host (.text text) target titleField room)).1
    let isCached (kind : ContextKind) (target : Option String) : Bool :=
      s.engine.cache.contains ⟨text, kind, target⟩
    (∀ body, Expr.read text = .ok body →
      body.check = .ok () ∧
      (body.fits room = true ∨ isCached kind target = true →
        compile = .ok ⟨text, kind, target, body⟩ ∧ parse = some ⟨text, kind, target, body⟩) ∧
      (body.fits room = true ∨ isCached kind none = true → validate = none) ∧
      (body.fits room = true ∨ isCached .object target = true →
        query = .ok (.evaluates ⟨text, .object, target, body⟩ (s.engine.environment host))) ∧
      (body.fits room = false →
        (isCached kind target = false → compile = .error .tooDeep ∧ parse = none) ∧
        (isCached kind none = false → validate = some CompileError.tooDeep.message) ∧
        (isCached .object target = false → query = .error .tooDeep))) ∧
    ∀ error, Expr.read text = .error error →
      compile = .error (.read error) ∧ parse = none ∧ validate = some error.message ∧
      query = .ok (.hasTitle (.str text) (Engine.givenOr s.engine.titleField id titleField)) := by
  intro compile parse validate query isCached
  obtain ⟨base, hsound⟩ := hs.sound
  have hcompile : compile = (s.engine.compiled ⟨text, kind, target⟩ room).1.map (·.evaluator) :=
    congrArg (Except.map (·.evaluator)) (compute_compile_fst hkind target room)
  have hparse : parse =
      (s.engine.compiled ⟨text, kind, target⟩ room).1.toOption.map (·.evaluator) :=
    congrArg (Option.map (·.evaluator)) (compute_parse_fst hkind target room)
  have hvalidate : validate = wording? (s.engine.compiled ⟨text, kind, none⟩ room).1 :=
    compute_validate_fst hkind room
  constructor
  · -- validating asks for no target and a query for records, so each has a key of its own
    intro body hread
    refine ⟨Expr.check_of_read hread, fun hfits => ?_, fun hfits => ?_, fun hfits => ?_,
      fun hdeep => ⟨fun hmissing => ?_, fun hmissing => ?_, fun hmissing => ?_⟩⟩
    · obtain ⟨c, hc, hevaluator⟩ := hsound.compiled_of_fits hread hfits
      rw [hcompile, hparse, hc, ← hevaluator]
      exact ⟨rfl, rfl⟩
    · obtain ⟨c, hc, -⟩ := hsound.compiled_of_fits hread hfits
      rw [hvalidate, hc]
      rfl
    · obtain ⟨c, hc, hevaluator⟩ := hsound.compiled_of_fits hread hfits
      rw [← hevaluator]
      exact compute_ofQuery_of_ok hc titleField
    · have hnone := Evaluator.ofText_of_not_fits hread hdeep kind target
      rw [hcompile, hparse, hsound.compiled_of_failure hmissing hnone]
      exact ⟨rfl, rfl⟩
    · have hnone := Evaluator.ofText_of_not_fits hread hdeep kind none
      rw [hvalidate, hsound.compiled_of_failure hmissing hnone]
      rfl
    · have hnone := Evaluator.ofText_of_not_fits hread hdeep .object target
      exact compute_ofQuery_of_tooDeep (hsound.compiled_of_failure hmissing hnone) titleField
  · intro error hread
    have herror := hsound.compiled_of_error hread kind target room
    refine ⟨?_, ?_, ?_, ?_⟩
    · rw [hcompile, herror]
      rfl
    · rw [hparse, herror]
      rfl
    · rw [hvalidate, hsound.compiled_of_error hread kind none room]
      rfl
    · exact compute_ofQuery_of_error (hsound.compiled_of_error hread .object target room)
        (fun h => nomatch h) titleField

/-- In a new engine a name is valid, a character that is in no expression is a title, and a negation
is neither where no more than two calls may be nested. -/
theorem Reached.decided_by_read_name_and_title :
    let host : Host := .standard fun name _ => .ok (.str name)
    let error : ReadError := .lex ⟨.unexpectedCharacter '@', 0⟩
    ∃ e, Engine.ofOptions {} = .ok e ∧
      let s : Session := { engine := e, effects := {} }
      Reached host s ∧
      ContextKind.ofName? (e.contextName (some "object")) = some .object ∧
      Expr.read "a" = .ok (.name "a") ∧
      (s.compute (Engine.parse "a" (some "object") none)).1.map (·.evaluator) =
        some ⟨"a", .object, none, .name "a"⟩ ∧
      Expr.read "@" = .error error ∧
      (s.compute (Engine.validate "@" (some "object"))).1 =
        some "Unexpected character '@' at position 0" ∧
      (s.compute (RecordPredicate.ofQuery host (.text "@") none none)).1 =
        .ok (.hasTitle (.str "@") e.titleField) ∧
      Expr.read "! a" = .ok (.unary .not (.name "a")) ∧
      (s.compute (Engine.validate "! a" (some "object") (some 2))).1 =
        some "maximum recursion depth exceeded" ∧
      (s.compute (RecordPredicate.ofQuery host (.text "! a") none none (some 2))).1 =
        .error .tooDeep := by
  intro host error
  obtain ⟨e, he⟩ : ∃ e, Engine.ofOptions {} = .ok e := ⟨_, rfl⟩
  have hs : Reached host { engine := e, effects := {} } := .new he {}
  have hempty : e.cache.entries = [] := by
    cases he
    rfl
  have hmissing (key : CacheKey) : e.cache.contains key = false := by
    rw [Cache.contains, Cache.get?, hempty]
    rfl
  have hname : Expr.read "a" = .ok (.name "a") :=
    Expr.read_of_wellFormed (.name (by decide)) (by decide +kernel)
  have hnegation : Expr.read "! a" = .ok (.unary .not (.name "a")) :=
    Expr.read_of_wellFormed (.unary (by simp) (.name (by decide))) (by decide +kernel)
  have hlexed : Token.readAll "@" = .error ⟨.unexpectedCharacter '@', 0⟩ := by
    change Token.readFrom 0 ['@'] = _
    rw [Token.readFrom]
    rfl
  have hwrong : Expr.read "@" = .error error := by
    unfold Expr.read
    rw [hlexed]
  have hwording : error.message = "Unexpected character '@' at position 0" := by decide
  have hkind : ContextKind.ofName? (e.contextName (some "object")) = some .object := rfl
  obtain ⟨hvalid, -⟩ := hs.decided_by_read "a" none hkind none none
  obtain ⟨-, hinvalid⟩ := hs.decided_by_read "@" none hkind none none
  obtain ⟨hdeep, -⟩ := hs.decided_by_read "! a" (some 2) hkind none none
  obtain ⟨-, hknown, -⟩ := hvalid _ hname
  obtain ⟨-, -, hunknown, htitle⟩ := hinvalid _ hwrong
  obtain ⟨-, -, -, -, hrefused⟩ := hdeep _ hnegation
  obtain ⟨-, hreason, hquery⟩ := hrefused rfl
  exact ⟨e, he, hs, hkind, hname, (hknown (.inl rfl)).2, hwrong, hunknown.trans
    (congrArg some hwording), htitle, hnegation, hreason (hmissing _), hquery (hmissing _)⟩

end Trigger.Session
