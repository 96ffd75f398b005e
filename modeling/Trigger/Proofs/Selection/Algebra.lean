import Trigger.Proofs.Composition.Basic
import Trigger.Proofs.Selection.Determined
import Trigger.Proofs.Session.Validity

/-!
# Queries as sets of records

A text that is a query selects the records for which its expression decides, in their order. Put in
round brackets, texts are combined by connectives as the sets of records that they select: the
operands decide for each record what they decide on their own.
-/

namespace Trigger

/-! ## Texts -/

namespace Expr

variable {q₁ q₂ : String} {n₁ n₂ : Expr}

/-- The conjunction of two texts in round brackets. -/
theorem read_and (h₁ : Expr.read q₁ = .ok n₁) (h₂ : Expr.read q₂ = .ok n₂) :
    Expr.read ("(" ++ q₁ ++ ") && (" ++ q₂ ++ ")") = .ok (.logical .and n₁ n₂) := by
  have hop : ("&&", .logical .and) ∈ Connective.spellings := by decide
  simpa [String.append_assoc, Connective.join] using read_join h₁ h₂ hop

/-- The disjunction of two texts in round brackets. -/
theorem read_or (h₁ : Expr.read q₁ = .ok n₁) (h₂ : Expr.read q₂ = .ok n₂) :
    Expr.read ("(" ++ q₁ ++ ") || (" ++ q₂ ++ ")") = .ok (.logical .or n₁ n₂) := by
  have hop : ("||", .logical .or) ∈ Connective.spellings := by decide
  simpa [String.append_assoc, Connective.join] using read_join h₁ h₂ hop

end Expr

/-! ## Tests of records -/

section

variable {host : Host} {env : Environment} {e : Evaluator} {bound : Nat}

/-- The value of an evaluator is that of its expression, if there is one. -/
theorem Evaluator.call_of_ok {record v : Value} {s t : Effects}
    (h : (evaluateIn (surroundings env e.context record []) e.body).run s = (.ok v, t)) :
    (e.call env record).run s = (v, t) := by
  have hrun : (e.run env record).run s = (.ok v, t) := run_bind_of_run h
  exact run_bind_of_run hrun

namespace RecordPredicate

/-- A record passes the test of an evaluator if its expression decides for the record. -/
theorem yields_holds {record : Value} {answer : Bool}
    (h : e.body.Decides bound (Evaluator.surroundings env e.context record []) answer) :
    Eval.Yields bound ((evaluates e env).holds host record) (· = answer) := by
  intro s hs
  obtain ⟨v, t, hrun, htruth, ht⟩ := h s hs
  have hcall := Eval.run_lift_of_run (Evaluator.call_of_ok hrun)
  exact ⟨_, t, Eval.run_bind_of_ok hcall, htruth, ht⟩

/-- The records that pass a test are those for which it yields the answer yes. -/
theorem yields_filter {p : RecordPredicate} {m : Value → Bool} {records : List Value}
    (h : ∀ r ∈ records, Eval.Yields bound (p.holds host r) (· = m r)) :
    Eval.Yields bound (p.filter host records) (· = records.filter m) := by
  induction records with
  | nil => exact .pure rfl
  | cons r rest ih =>
    obtain ⟨hr, hrest⟩ := List.forall_mem_cons.mp h
    refine .bind hr fun keep hkeep => .bind (ih hrest) fun kept hkept => .pure ?_
    rw [hkeep, hkept, List.filter_cons]

end RecordPredicate

end

/-! ## Queries -/

namespace Session

variable {host : Host} {base : Engine} {s : Session} {records : List Value}
variable {query : RecordQuery} {target titleField : Option String}

/-- What is found in a session. -/
def found (s : Session) (host : Host) (query : RecordQuery) (source : RecordSource)
    (first : Bool) (target titleField : Option String) :
    Except RecordQueryError (Except Fault FoundRecords) :=
  (s.compute (findRecords host query source first target titleField)).1

/-- A query that is taken as a test finds what passes it, in the session after that. -/
theorem found_of_ofQuery {p : RecordPredicate}
    (hp : (s.compute (RecordPredicate.ofQuery host query target titleField)).1 = .ok p)
    (source : RecordSource) (first : Bool) :
    s.found host query source first target titleField =
      .ok ((p.search host first source).run.run
        (s.compute (RecordPredicate.ofQuery host query target titleField)).2.effects).1 := by
  unfold found findRecords
  rw [compute_bind, hp]
  rfl

/-- A text selects, of some records, those for which a function is true: they are found for it, in
their order. -/
def Selects (s : Session) (host : Host) (text : String) (records : List Value)
    (target titleField : Option String) (m : Value → Bool) : Prop :=
  (s.perform host (.find text (.items records) false target titleField)).1 =
    .found (.ok (.ok (.items (records.filter m))))

/-- A text that can be read selects the records for which its expression decides. -/
theorem Sound.selects_of_read (h : s.Sound base) {text : String} {body : Expr}
    (hread : Expr.read text = .ok body) {m : Value → Bool}
    (hdecides : ∀ r ∈ records, body.Decides s.effects.nextId
      (Evaluator.surroundings (s.engine.environment host) .object r []) (m r))
    (target titleField : Option String) :
    s.Selects host text records target titleField m := by
  obtain ⟨c, hc, hevaluator⟩ := h.compiled_of_read hread .object target
  have hholds : ∀ r ∈ records, Eval.Yields s.effects.nextId
      ((RecordPredicate.evaluates c.evaluator (s.engine.environment host)).holds host r)
      (· = m r) := by
    rw [hevaluator]
    exact fun r hr => RecordPredicate.yields_holds (hdecides r hr)
  obtain ⟨kept, t, hrun, rfl, -⟩ := RecordPredicate.yields_filter hholds s.effects (Nat.le_refl _)
  have hsearch : ((RecordPredicate.evaluates c.evaluator (s.engine.environment host)).search host
      false (.items records)).run.run s.effects = (.ok (.items (records.filter m)), t) :=
    Eval.run_bind_of_ok hrun
  have hpredicate : (s.compute (RecordPredicate.ofQuery host (.text text) target titleField)).1 =
      .ok (.evaluates c.evaluator (s.engine.environment host)) :=
    compute_ofQuery_of_ok hc titleField
  have hfound := found_of_ofQuery hpredicate (.items records) false
  rw [compute_ofQuery_snd, hsearch] at hfound
  exact congrArg Answer.found hfound

/-- What a text compiles to in the object context is what was read. -/
theorem Sound.read_of_compiled (h : s.Sound base) {text : String} {target : Option String}
    {e : Evaluator}
    (he : (s.perform host (.compile text (some "object") target)).1 = .compiled (.ok e)) :
    Expr.read text = .ok e.body ∧ e.context = .object := by
  have hkind : ContextKind.ofName? (s.engine.contextName (some "object")) = some .object := rfl
  rw [h.perform_compile hkind] at he
  obtain ⟨-, hcontext, -, hread⟩ := Evaluator.parts_of_ofText (Answer.compiled.inj he)
  exact ⟨hread, hcontext⟩

/-- Texts that compile are composed as the sets of records that they select. If the evaluators of
two texts answer for every record, each text selects the records for which its evaluator answers
yes, a conjunction of both those for which both do, a disjunction those for which at least one of
them does, and the negation of the first one those for which it does not. -/
theorem Reached.selects_composed (hs : Reached host s) {q₁ q₂ : String}
    {target₁ target₂ : Option String} {e₁ e₂ : Evaluator}
    (h₁ : (s.perform host (.compile q₁ (some "object") target₁)).1 = .compiled (.ok e₁))
    (h₂ : (s.perform host (.compile q₂ (some "object") target₂)).1 = .compiled (.ok e₂))
    {m₁ m₂ : Value → Bool}
    (hm₁ : ∀ r ∈ records, e₁.Answers (s.engine.environment host) s.effects r (m₁ r))
    (hm₂ : ∀ r ∈ records, e₂.Answers (s.engine.environment host) s.effects r (m₂ r))
    (target titleField : Option String) :
    s.Selects host q₁ records target titleField m₁ ∧
    s.Selects host q₂ records target titleField m₂ ∧
    s.Selects host ("(" ++ q₁ ++ ") && (" ++ q₂ ++ ")") records target titleField
      (fun r => m₁ r && m₂ r) ∧
    s.Selects host ("(" ++ q₁ ++ ") || (" ++ q₂ ++ ")") records target titleField
      (fun r => m₁ r || m₂ r) ∧
    s.Selects host ("!(" ++ q₁ ++ ")") records target titleField (fun r => !m₁ r) := by
  obtain ⟨base, hsound⟩ := hs.sound
  obtain ⟨hread₁, hcontext₁⟩ := hsound.read_of_compiled h₁
  obtain ⟨hread₂, hcontext₂⟩ := hsound.read_of_compiled h₂
  have hdecides₁ (r : Value) (hr : r ∈ records) := (hm₁ r hr).decides
  have hdecides₂ (r : Value) (hr : r ∈ records) := (hm₂ r hr).decides
  rw [hcontext₁] at hdecides₁
  rw [hcontext₂] at hdecides₂
  have hand := Expr.read_and hread₁ hread₂
  have hor := Expr.read_or hread₁ hread₂
  have hnot := Expr.read_not hread₁
  refine ⟨hsound.selects_of_read hread₁ hdecides₁ target titleField,
    hsound.selects_of_read hread₂ hdecides₂ target titleField,
    hsound.selects_of_read hand (fun r hr => ?_) target titleField,
    hsound.selects_of_read hor (fun r hr => ?_) target titleField,
    hsound.selects_of_read hnot (fun r hr => ?_) target titleField⟩
  · exact (hdecides₁ r hr).and (hdecides₂ r hr)
  · exact (hdecides₁ r hr).or (hdecides₂ r hr)
  · exact (hdecides₁ r hr).not

/-- Among records, a query selects those with its field, and a nest of queries is settled against
each record. -/
theorem Reached.selects_composed_nest :
    let host : Host := .standard fun name _ => .ok (.str name)
    let both : Value := .map [("a", .int 1), ("b", .int 2)]
    let first : Value := .map [("a", .int 1)]
    let second : Value := .map [("b", .int 2)]
    let e₁ : Evaluator := ⟨"a : 1", .object, none, .query "a" .equals (.literal (.int 1))⟩
    let e₂ : Evaluator := ⟨"b : 2 || ! a : 1", .object, none,
      .logical .or (.query "b" .equals (.literal (.int 2)))
        (.unary .not (.query "a" .equals (.literal (.int 1))))⟩
    let rt : Runtime := { toLanguage := .standard, scene := none }
    let m₁ (r : Value) : Bool := (r.property rt "a").strictEquals .standard (.int 1)
    let m₂ (r : Value) : Bool := (r.property rt "b").strictEquals .standard (.int 2) || !m₁ r
    ∃ e, Engine.ofOptions {} = .ok e ∧
      let s : Session := { engine := e, effects := {} }
      Reached host s ∧
      (s.perform host (.compile "a : 1" (some "object") none)).1 = .compiled (.ok e₁) ∧
      (s.perform host (.compile "b : 2 || ! a : 1" (some "object") none)).1 =
        .compiled (.ok e₂) ∧
      (∀ r ∈ [both, first, second], e₁.Answers (e.environment host) {} r (m₁ r)) ∧
      (∀ r ∈ [both, first, second], e₂.Answers (e.environment host) {} r (m₂ r)) ∧
      (s.perform host (.find "(a : 1) && (b : 2 || ! a : 1)" (.items [both, first, second]) false
        none none)).1 = .found (.ok (.ok (.items [both]))) ∧
      (s.perform host (.find "!(a : 1)" (.items [both, first, second]) false none none)).1 =
        .found (.ok (.ok (.items [second]))) := by
  intro host both first second e₁ e₂ rt m₁ m₂
  obtain ⟨e, he⟩ : ∃ e, Engine.ofOptions {} = .ok e := ⟨_, rfl⟩
  have henvironment := Engine.environment_of_ofOptions he rfl rfl host
  have hs : Reached host { engine := e, effects := {} } := .new he {}
  have hsound := sound_of_ofOptions he {}
  have hkind : ContextKind.ofName? (e.contextName (some "object")) = some .object := rfl
  have hread₁ : Expr.read "a : 1" = .ok e₁.body :=
    Expr.read_of_wellFormed (.query (by simp) (by decide) (.int 1 (by decide))) (by decide +kernel)
  have hread₂ : Expr.read "b : 2 || ! a : 1" = .ok e₂.body :=
    Expr.read_of_wellFormed (.logical (by simp)
      (.query (by simp) (by decide) (.int 2 (by decide)))
      (.unary (by simp) (.query (by simp) (by decide) (.int 1 (by decide))))) (by decide +kernel)
  have h₁ : (Session.perform host { engine := e, effects := {} }
      (.compile "a : 1" (some "object") none)).1 = .compiled (.ok e₁) := by
    rw [hsound.perform_compile hkind, Evaluator.ofText_of_read hread₁]
  have h₂ : (Session.perform host { engine := e, effects := {} }
      (.compile "b : 2 || ! a : 1" (some "object") none)).1 = .compiled (.ok e₂) := by
    rw [hsound.perform_compile hkind, Evaluator.ofText_of_read hread₂]
  have hdata : ∀ r ∈ [both, first, second], r.isData = true := by
    simp [both, first, second, Value.isData, Value.fieldsAreData]
  have hm₁ : ∀ r ∈ [both, first, second], e₁.Answers (e.environment host) {} r (m₁ r) := by
    intro r hr
    have hrun : ((e₁.run (ownEnvironment {} [] host) r).run {}).1 = .ok (.bool (m₁ r)) := by
      simp only [List.mem_cons, List.not_mem_nil, or_false] at hr
      rcases hr with rfl | rfl | rfl <;> rfl
    have hplain : e₁.body.Plain := rfl
    rw [henvironment]
    exact Evaluator.answers_of_run hplain rfl {} Language.standard_isUniform rfl (hdata r hr) hrun {}
  have hm₂ : ∀ r ∈ [both, first, second], e₂.Answers (e.environment host) {} r (m₂ r) := by
    intro r hr
    have hrun : ((e₂.run (ownEnvironment {} [] host) r).run {}).1 = .ok (.bool (m₂ r)) := by
      simp only [List.mem_cons, List.not_mem_nil, or_false] at hr
      rcases hr with rfl | rfl | rfl <;> rfl
    have hplain : e₂.body.Plain := ⟨rfl, rfl⟩
    rw [henvironment]
    exact Evaluator.answers_of_run hplain rfl {} Language.standard_isUniform rfl (hdata r hr) hrun {}
  obtain ⟨-, -, hboth, -, hnot⟩ := hs.selects_composed h₁ h₂ hm₁ hm₂ none none
  exact ⟨e, he, hs, h₁, h₂, hm₁, hm₂, hboth, hnot⟩

end Session

end Trigger
