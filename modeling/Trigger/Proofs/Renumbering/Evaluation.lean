import Trigger.Evaluator
import Trigger.Proofs.Renumbering.Members
import Trigger.Proofs.Renumbering.Method
import Trigger.Proofs.Text.Search

/-!
# Expressions in step

Two evaluations of an expression stay in step if their surroundings agree on the names that the
expression looks up and on the fields that its queries start with. Arrow functions hold only their
parameters, so a function that one evaluation makes does in it what the matching function does in
the other one. Calls are compared by induction on how deeply they may be nested.

A base has no matching values. It is never the value of an expression within the accord, so the
expressions around a base are compared by what they ask of it.
-/

namespace Trigger

variable {A : Accord}

/-! ## Subjects -/

/-- Two records with matching members, or two mappings whose entries match for the names that
queries start with, and share their members for the names of bases. -/
def SubjectsAgree (A : Accord) (v w : Value) : Prop :=
  Value.SharesMembers A v w ∨ ∃ entries others : Fields, v = .map entries ∧ w = .map others ∧
    (∀ x, A.heads x → others.lookup x = (entries.lookup x).map (Value.renumber A.distance) ∧
      ∀ u, entries.lookup x = some u → u.Within A) ∧
    ∀ x, A.bases x → Value.SharesMembers A ((entries.lookup x).getD .undefined)
      ((others.lookup x).getD .undefined)

/-- A path has a first name. -/
theorem pathNames_eq_cons (path : String) :
    ∃ rest, Value.pathNames path = headName path :: rest := by
  have hnames : Value.pathNames path ≠ [] := fun h =>
    Text.cutFrom_ne_nil _ _ _ _ (List.map_eq_nil_iff.mp h)
  obtain ⟨name, rest, hpath⟩ := List.exists_cons_of_ne_nil hnames
  exact ⟨rest, by rw [headName, hpath, List.headD_cons]⟩

/-- A path starts with an entry of a mapping. -/
theorem resolvePath_map (rt : Runtime) (entries : Fields) (path : String) (rest : List String)
    (hpath : Value.pathNames path = headName path :: rest) :
    (Value.map entries).resolvePath rt path =
      ((entries.lookup (headName path)).getD .undefined).follow rt rest := by
  rw [Value.resolvePath, hpath]
  rfl

/-- Agreeing subjects give the same answers to queries within the accord. -/
theorem SubjectsAgree.passes_inStep {rt rt' : Runtime} (hrt : RuntimesAgree A rt rt') {v w : Value}
    (h : SubjectsAgree A v w) {field : String} (hfield : A.Reads field) (op : QueryOperator)
    (value : Value) :
    InStep A.distance Eq (v.passes rt field op value)
      (w.passes rt' field op (value.renumber A.distance)) := by
  obtain ⟨rest, hpath⟩ := pathNames_eq_cons field
  rcases h with hshares | ⟨entries, others, rfl, rfl, hheads, hbases⟩
  · refine Trigger.passes_inStep hrt op value hshares.isScalar.symm ?_
    rw [Value.resolvePath, Value.resolvePath, hpath]
    exact hshares.follow hrt _ _
  · refine Trigger.passes_inStep hrt op value rfl ?_
    rw [resolvePath_map rt' others field rest hpath, resolvePath_map rt entries field rest hpath]
    rcases hfield with hhead | ⟨hbase, hlong⟩
    · obtain ⟨heq, hwithin⟩ := hheads _ hhead
      rw [heq]
      cases hfound : entries.lookup (headName field) with
      | none => exact (Value.follow_matched hrt (v := .undefined) trivial rest).1
      | some u => exact (Value.follow_matched hrt (hwithin u hfound) rest).1
    · rw [hpath, List.length_cons] at hlong
      obtain ⟨name, path, rfl⟩ := List.exists_cons_of_length_pos (Nat.le_of_succ_le_succ hlong)
      exact (hbases _ hbase).follow hrt name path

/-- Matching fields in front of matching records. -/
theorem overlay_matched {v w : Value} (h : Value.Matched A v w) {fields : Fields}
    (hfields : Value.FieldsWithin A fields) :
    Value.Matched A (Scene.overlay fields v)
      (Scene.overlay (Value.renumberFields A.distance fields) w) := by
  obtain ⟨rfl, hv⟩ := h
  cases v with
  | map entries =>
    refine ⟨?_, ?_⟩
    · simp only [Value.renumber, Scene.overlay, Value.renumberFields_append]
    · rw [Scene.overlay, Value.Within, Value.fieldsWithin_iff, List.forall_mem_append]
      exact ⟨Value.fieldsWithin_iff.mp hfields, Value.fieldsWithin_iff.mp hv⟩
  | _ => exact ⟨rfl, hfields⟩

/-- Matching fields in front of agreeing subjects. -/
theorem SubjectsAgree.overlay {v w : Value} (h : SubjectsAgree A v w) {fields : Fields}
    (hfields : Value.FieldsWithin A fields) :
    SubjectsAgree A (Scene.overlay fields v)
      (Scene.overlay (Value.renumberFields A.distance fields) w) := by
  rcases h with (hmatched | hobjects) | ⟨entries, others, rfl, rfl, hheads, hbases⟩
  · exact .inl (.same (overlay_matched hmatched hfields))
  · exact .inl (.same ⟨rfl, hfields⟩)
  · refine .inr ⟨_, _, rfl, rfl, fun x hx => ?_, fun x hx => ?_⟩
    · obtain ⟨heq, hwithin⟩ := hheads x hx
      rw [List.lookup_append, List.lookup_append, heq, Value.lookup_renumberFields]
      cases hfound : fields.lookup x with
      | none => exact ⟨rfl, hwithin⟩
      | some v =>
        refine ⟨rfl, fun u hu => ?_⟩
        obtain rfl := Option.some.inj hu
        exact Value.within_of_lookup hfields hfound
    · rw [List.lookup_append, List.lookup_append, Value.lookup_renumberFields]
      cases hfound : fields.lookup x with
      | none => exact hbases x hx
      | some v => exact .same ⟨rfl, Value.within_of_lookup hfields hfound⟩

/-! ## Surroundings and frames -/

/-- A value with the label of its scope, with numbers changed. -/
def renumberFound (d : Nat) (found : Value × String) : Value × String :=
  (found.1.renumber d, found.2)

/-- Surroundings that agree on the names of an accord. -/
structure AroundsAgree (A : Accord) (a b : Surroundings) : Prop where
  runtime : RuntimesAgree A a.runtime b.runtime
  resolve : ∀ x, A.names x → ScopeChain.resolve b.runtime x b.scopes =
    (ScopeChain.resolve a.runtime x a.scopes).map (renumberFound A.distance)
  within : ∀ x found, A.names x → ScopeChain.resolve a.runtime x a.scopes = some found →
    found.1.Within A
  /-- Predicates on texts are found only where the texts are the same. -/
  text : ∀ x found, A.names x → ScopeChain.resolve a.runtime x a.scopes = some found →
    found.2 = Frame.predicateLabel → a.text = b.text
  bases : ∀ x, A.bases x → Value.SharesMembers A (ScopeChain.valueOf a.runtime x a.scopes)
    (ScopeChain.valueOf b.runtime x b.scopes)
  subject : SubjectsAgree A a.subject b.subject
  host : A.hosts → a.host = b.host

/-- Frames with agreeing surroundings and matching parameters. -/
structure FramesAgree (A : Accord) (f g : Frame) : Prop where
  around : AroundsAgree A f.around g.around
  locals : g.locals = Value.renumberLocals A.distance f.locals
  within : Value.LocalsWithin A f.locals

namespace FramesAgree

variable {f g : Frame}

/-- Agreeing frames have agreeing runtimes. -/
theorem runtime (h : FramesAgree A f g) : RuntimesAgree A f.runtime g.runtime := h.around.runtime

/-- Agreeing frames have the same language. -/
theorem language (h : FramesAgree A f g) : g.around.host.language = f.around.host.language :=
  h.around.runtime.language

/-- The language of agreeing frames does not look at numbers. -/
theorem ignoresNumbers (h : FramesAgree A f g) :
    f.around.host.language.IgnoresNumbers A.distance := h.around.runtime.keeps.numbers

/-- The parameters of a function inside agreeing frames. -/
theorem inside (h : FramesAgree A f g) {fields : Fields} (hfields : Value.FieldsWithin A fields) :
    FramesAgree A (f.inside fields) (g.inside (Value.renumberFields A.distance fields)) where
  around := h.around
  locals := by rw [Frame.inside, Frame.inside, Value.renumberLocals, h.locals]
  within := ⟨hfields, h.within⟩

/-- Agreeing frames have agreeing subjects. -/
theorem subject (h : FramesAgree A f g) : SubjectsAgree A f.subject g.subject := by
  have hfold (locals : List Fields) (hlocals : Value.LocalsWithin A locals) :
      SubjectsAgree A (locals.foldr Scene.overlay f.around.subject)
        ((Value.renumberLocals A.distance locals).foldr Scene.overlay g.around.subject) := by
    induction locals with
    | nil => exact h.around.subject
    | cons fields locals ih => exact (ih hlocals.2).overlay hlocals.1
  rw [Frame.subject, Frame.subject, h.locals]
  exact hfold f.locals h.within

/-- Agreeing frames resolve a name alike. -/
theorem resolve (h : FramesAgree A f g) {x : String} (hx : A.names x) :
    g.scopes.resolve g.runtime x =
        (f.scopes.resolve f.runtime x).map (renumberFound A.distance) ∧
      ∀ found, f.scopes.resolve f.runtime x = some found → found.1.Within A ∧
        (found.2 = Frame.predicateLabel → f.around.text = g.around.text) := by
  obtain ⟨around, locals⟩ := f
  obtain ⟨around', locals'⟩ := g
  obtain ⟨haround, hlocals, hwithin⟩ := h
  simp only at haround hlocals hwithin
  subst hlocals
  induction locals with
  | nil =>
    exact ⟨haround.resolve x hx, fun found hfound =>
      ⟨haround.within x found hx hfound, haround.text x found hx hfound⟩⟩
  | cons fields locals ih =>
    simp only [Frame.scopes, Scene.inside, Value.renumberLocals, List.map_cons, List.cons_append,
      ScopeChain.resolve, ScopeChain.lookupIn, Value.lookup_renumberFields]
    cases hfound : fields.lookup x with
    | none => exact ih hwithin.2
    | some v =>
      refine ⟨rfl, fun found heq => ?_⟩
      obtain rfl := Option.some.inj heq
      exact ⟨Value.within_of_lookup hwithin.1 hfound, fun hlabel =>
        absurd hlabel (show "locals" ≠ Frame.predicateLabel by decide)⟩

/-- Agreeing frames give matching values to a name. -/
theorem valueOf (h : FramesAgree A f g) {x : String} (hx : A.names x) :
    Value.Matched A (f.scopes.valueOf f.runtime x) (g.scopes.valueOf g.runtime x) := by
  obtain ⟨hresolve, hfound⟩ := h.resolve hx
  unfold ScopeChain.valueOf
  rw [hresolve]
  cases hf : f.scopes.resolve f.runtime x with
  | none => exact Value.matched_of_isData rfl
  | some found => exact ⟨rfl, (hfound found hf).1⟩

/-- Agreeing frames give values that share their members to a base. -/
theorem valueOf_base (h : FramesAgree A f g) {x : String} (hx : A.bases x) :
    Value.SharesMembers A (f.scopes.valueOf f.runtime x) (g.scopes.valueOf g.runtime x) := by
  obtain ⟨around, locals⟩ := f
  obtain ⟨around', locals'⟩ := g
  obtain ⟨haround, hlocals, hwithin⟩ := h
  simp only at haround hlocals hwithin
  subst hlocals
  induction locals with
  | nil => exact haround.bases x hx
  | cons fields locals ih =>
    have ih := ih hwithin.2
    simp only [Frame.scopes, Scene.inside, ScopeChain.valueOf, Value.renumberLocals, List.map_cons,
      List.cons_append, ScopeChain.resolve, ScopeChain.lookupIn,
      Value.lookup_renumberFields] at ih ⊢
    cases hfound : fields.lookup x with
    | none => exact ih
    | some v => exact .same ⟨rfl, Value.within_of_lookup hwithin.1 hfound⟩

/-- Matching operands stand for matching values. -/
theorem settle (h : FramesAgree A f g) {v : Value} (hv : v.Within A) :
    EvalInStep A.distance (Value.Matched A) (f.settle v) (g.settle (v.renumber A.distance)) := by
  cases v with
  | query id field op value =>
    refine EvalInStep.bind (EvalInStep.lift (h.subject.passes_inStep h.runtime hv.1 op value)) ?_
    intro answer other hsame
    subst hsame
    exact EvalInStep.pure (Value.matched_of_isData rfl)
  | _ => exact EvalInStep.pure ⟨rfl, hv⟩

/-- Operands that share their members stand for values that do. -/
theorem settle_sharing (h : FramesAgree A f g) {v w : Value} (hvw : Value.SharesMembers A v w) :
    EvalInStep A.distance (Value.SharesMembers A) (f.settle v) (g.settle w) := by
  cases hvw with
  | same hvw =>
    obtain ⟨rfl, hv⟩ := hvw
    exact (h.settle hv).mono fun _ _ => .same
  | objects hobjects => exact EvalInStep.pure (.objects hobjects)

end FramesAgree

/-! ## Expressions of one kind -/

section

variable {apply apply' : Value → List Value → Eval Value} {f g : Frame}

/-- The outcome of an operator on numbers and texts is the same data for matching operands. -/
theorem ofExcept_inStep {x y : Except Fault Value} (hxy : y = x)
    (hdata : ∀ v, x = .ok v → v.isData = true) :
    EvalInStep A.distance (Value.Matched A) (Eval.ofExcept x) (Eval.ofExcept y) := by
  subst hxy
  refine EvalInStep.ofExcept ?_
  cases y with
  | ok v => exact Value.matched_of_isData (hdata v rfl)
  | error e => rfl

/-- A truth value made from the same outcome is the same. -/
theorem ofExcept_bool_inStep {x y : Except Fault Bool} (hxy : y = x) (k : Bool → Bool) :
    EvalInStep A.distance (Value.Matched A) (do return .bool (k (← Eval.ofExcept x)))
      (do return .bool (k (← Eval.ofExcept y))) := by
  subst hxy
  exact (Steady.sameData (Steady.ofExcept _) fun _ => rfl).matched

/-- Narrowing a result gives a number. -/
theorem isData_narrow (x : Float) (a b : Value) : (Value.narrow x a b).isData = true := by
  unfold Value.narrow
  split <;> rfl

/-- A quotient is a number. -/
theorem isData_quotient (x y : Float) (a b : Value) : (Value.quotient x y a b).isData = true := by
  unfold Value.quotient
  split
  · split <;> rfl
  · simp only
    split
    · exact isData_narrow _ a b
    · rfl

/-- A sum is a number or a text. -/
theorem isData_of_add {a b v : Value} (h : Value.add a b = .ok v) : v.isData = true := by
  unfold Value.add at h
  simp only at h
  split at h
  · obtain rfl := Except.ok.inj h
    rfl
  · obtain ⟨x, -, h⟩ := bind_eq_ok_iff.mp h
    obtain ⟨y, -, h⟩ := bind_eq_ok_iff.mp h
    obtain rfl := Except.ok.inj h
    exact isData_narrow _ _ _

/-- Arithmetic gives numbers and texts. -/
theorem isData_of_arithmetic {op : BinaryOperator} {a b v : Value}
    (h : Value.arithmetic op a b = .ok v) : v.isData = true := by
  unfold Value.arithmetic at h
  split at h
  · exact isData_of_add h
  · obtain ⟨x, -, h⟩ := bind_eq_ok_iff.mp h
    obtain ⟨y, -, h⟩ := bind_eq_ok_iff.mp h
    split at h
    · obtain rfl := Except.ok.inj h
      exact isData_narrow _ _ _
    · obtain rfl := Except.ok.inj h
      exact isData_narrow _ _ _
    · obtain rfl := Except.ok.inj h
      exact isData_quotient _ _ _ _
    · split at h
      · obtain rfl := Except.ok.inj h
        rfl
      · obtain rfl := Except.ok.inj h
        exact isData_narrow _ _ _
    · cases h

/-- Signs give numbers. -/
theorem isData_of_negate {a v : Value} (h : a.negate = .ok v) : v.isData = true := by
  unfold Value.negate at h
  split at h
  · obtain rfl := Except.ok.inj h
    rfl
  · obtain ⟨x, -, h⟩ := bind_eq_ok_iff.mp h
    obtain rfl := Except.ok.inj h
    rfl

/-- Signs give numbers. -/
theorem isData_of_posit {a v : Value} (h : a.posit = .ok v) : v.isData = true := by
  unfold Value.posit at h
  split at h
  · obtain rfl := Except.ok.inj h
    rfl
  · obtain ⟨x, -, h⟩ := bind_eq_ok_iff.mp h
    obtain rfl := Except.ok.inj h
    rfl

/-- A base gives values that share their members. -/
theorem base_inStep (hframes : FramesAgree A f g) {e : Expr} (h : e.IsBase A) :
    EvalInStep A.distance (Value.SharesMembers A) (evaluate apply f e) (evaluate apply' g e) := by
  cases e with
  | name x => exact EvalInStep.pure (hframes.valueOf_base h)
  | _ => exact h.elim

/-- An expression of which only the members are asked gives values that share them. -/
theorem shares_inStep (hframes : FramesAgree A f g) {e : Expr} (h : e.Within A ∨ e.IsBase A)
    (he : e.Within A →
      EvalInStep A.distance (Value.Matched A) (evaluate apply f e) (evaluate apply' g e)) :
    EvalInStep A.distance (Value.SharesMembers A) (evaluate apply f e) (evaluate apply' g e) :=
  h.elim (fun h => (he h).mono fun _ _ => .same) (base_inStep hframes)

/-- A sign keeps evaluations in step. -/
theorem unary_inStep (hframes : FramesAgree A f g) (op : UnaryOperator) {e : Expr}
    (he : EvalInStep A.distance (Value.SharesMembers A) (evaluate apply f e)
      (evaluate apply' g e)) :
    EvalInStep A.distance (Value.Matched A) (evaluate apply f (.unary op e))
      (evaluate apply' g (.unary op e)) := by
  rw [evaluate, evaluate]
  refine EvalInStep.bind he fun v w hvw => ?_
  cases op with
  | not =>
    refine EvalInStep.bind (hframes.settle_sharing hvw) fun a b hab => ?_
    rw [hab.isTruthy]
    exact EvalInStep.pure (Value.matched_of_isData rfl)
  | minus => exact ofExcept_inStep hvw.negate fun _ => isData_of_negate
  | plus => exact ofExcept_inStep hvw.posit fun _ => isData_of_posit
  | other s => exact EvalInStep.throw _

/-- An operator on two operands keeps evaluations in step. -/
theorem binary_inStep (hframes : FramesAgree A f g) (op : BinaryOperator) {left right : Expr}
    (hleft : EvalInStep A.distance (Value.Matched A) (evaluate apply f left)
      (evaluate apply' g left))
    (hright : EvalInStep A.distance (Value.Matched A) (evaluate apply f right)
      (evaluate apply' g right)) :
    EvalInStep A.distance (Value.Matched A) (evaluate apply f (.binary op left right))
      (evaluate apply' g (.binary op left right)) := by
  rw [evaluate, evaluate]
  refine EvalInStep.bind hleft fun a a' ha => EvalInStep.bind hright fun b b' hb => ?_
  obtain ⟨rfl, -⟩ := ha
  obtain ⟨rfl, -⟩ := hb
  rw [hframes.language]
  have hloose := Value.looseEquals_renumber hframes.ignoresNumbers a b
  cases op with
  | lt | le | gt | ge => exact ofExcept_bool_inStep (Value.compare_renumber _ a b) id
  | looseEq => exact ofExcept_bool_inStep hloose id
  | looseNe => exact ofExcept_bool_inStep hloose not
  | strictEq | strictNe =>
    simp only [Value.strictEquals_renumber hframes.ignoresNumbers]
    exact EvalInStep.pure (Value.matched_of_isData rfl)
  | add | sub | mul | div | rem | other =>
    exact ofExcept_inStep (Value.arithmetic_renumber _ a b) fun _ => isData_of_arithmetic

/-- An operator on numbers keeps evaluations in step if its operands share their members. -/
theorem numeric_inStep {op : BinaryOperator} (hop : op.isNumeric = true) {left right : Expr}
    (hleft : EvalInStep A.distance (Value.SharesMembers A) (evaluate apply f left)
      (evaluate apply' g left))
    (hright : EvalInStep A.distance (Value.SharesMembers A) (evaluate apply f right)
      (evaluate apply' g right)) :
    EvalInStep A.distance (Value.Matched A) (evaluate apply f (.binary op left right))
      (evaluate apply' g (.binary op left right)) := by
  rw [evaluate, evaluate]
  refine EvalInStep.bind hleft fun a a' ha => EvalInStep.bind hright fun b b' hb => ?_
  cases op with
  | lt | le | gt | ge => exact ofExcept_bool_inStep (ha.compare hb _) id
  | sub | mul | div | rem =>
    exact ofExcept_inStep (ha.arithmetic hb (by decide)) fun _ => isData_of_arithmetic
  | _ => cases hop

/-- A comparison with a constant keeps evaluations in step if the other operands share their
members. -/
theorem constant_inStep (hframes : FramesAgree A f g) {op : BinaryOperator}
    (hop : op.isEquality = true) {left right : Expr}
    (hright : right.isConstant = true)
    (hleft : EvalInStep A.distance (Value.SharesMembers A) (evaluate apply f left)
      (evaluate apply' g left)) :
    EvalInStep A.distance (Value.Matched A) (evaluate apply f (.binary op left right))
      (evaluate apply' g (.binary op left right)) := by
  cases right with
  | literal u =>
    have hu : u.unbox.kind ≠ .object := of_decide_eq_true hright
    rw [evaluate, evaluate]
    refine EvalInStep.bind hleft fun v w hvw => ?_
    simp only [evaluate, pure_bind]
    rw [hframes.language]
    have hloose := hvw.looseEquals hframes.ignoresNumbers hu
    cases op with
    | looseEq => exact ofExcept_bool_inStep hloose id
    | looseNe => exact ofExcept_bool_inStep hloose not
    | strictEq | strictNe =>
      simp only [hvw.strictEquals hframes.ignoresNumbers hu]
      exact EvalInStep.pure (Value.matched_of_isData rfl)
    | _ => cases hop
  | _ => cases hright

/-- The second operand of a connective stands for matching values. -/
theorem settled_inStep (hframes : FramesAgree A f g) {e : Expr}
    (he : EvalInStep A.distance (Value.Matched A) (evaluate apply f e) (evaluate apply' g e)) :
    EvalInStep A.distance (Value.Matched A) (do f.settle (← evaluate apply f e))
      (do g.settle (← evaluate apply' g e)) := by
  refine EvalInStep.bind he fun v w hvw => ?_
  obtain ⟨rfl, hv⟩ := hvw
  exact hframes.settle hv

/-- A conjunction keeps evaluations in step if the members of its first operand are shared. -/
theorem and_inStep (hframes : FramesAgree A f g) {left right : Expr}
    (hleft : EvalInStep A.distance (Value.SharesMembers A) (evaluate apply f left)
      (evaluate apply' g left))
    (hright : EvalInStep A.distance (Value.Matched A) (evaluate apply f right)
      (evaluate apply' g right)) :
    EvalInStep A.distance (Value.Matched A) (evaluate apply f (.logical .and left right))
      (evaluate apply' g (.logical .and left right)) := by
  rw [evaluate, evaluate]
  refine EvalInStep.bind hleft fun v w hvw => ?_
  refine EvalInStep.bind (hframes.settle_sharing hvw) fun a b hab => ?_
  simp only [hab.isTruthy]
  split
  · exact settled_inStep hframes hright
  · rename_i hfalse
    exact EvalInStep.pure (hab.matched_of_not_isTruthy hfalse)

/-- A connective of logic keeps evaluations in step. -/
theorem logical_inStep (hframes : FramesAgree A f g) (op : LogicalOperator) {left right : Expr}
    (hleft : EvalInStep A.distance (Value.Matched A) (evaluate apply f left)
      (evaluate apply' g left))
    (hright : EvalInStep A.distance (Value.Matched A) (evaluate apply f right)
      (evaluate apply' g right)) :
    EvalInStep A.distance (Value.Matched A) (evaluate apply f (.logical op left right))
      (evaluate apply' g (.logical op left right)) := by
  have hsettled : EvalInStep A.distance (Value.Matched A) (do f.settle (← evaluate apply f right))
      (do g.settle (← evaluate apply' g right)) := settled_inStep hframes hright
  cases op with
  | and => exact and_inStep hframes (hleft.mono fun _ _ => .same) hright
  | or =>
    rw [evaluate, evaluate]
    refine EvalInStep.bind hleft fun v w hvw => ?_
    obtain ⟨rfl, hv⟩ := hvw
    refine EvalInStep.bind (hframes.settle hv) fun a b hab => ?_
    obtain ⟨rfl, ha⟩ := hab
    simp only [Value.isTruthy_renumber]
    split
    · exact EvalInStep.pure ⟨rfl, ha⟩
    · exact hsettled
  | other s =>
    rw [evaluate, evaluate]
    refine EvalInStep.bind hleft fun v w hvw => ?_
    obtain ⟨rfl, hv⟩ := hvw
    exact EvalInStep.bind (hframes.settle hv) fun _ _ _ => EvalInStep.throw _

/-- A call of a name keeps evaluations in step. The text is added for predicates on texts, and these
are found only where the texts are the same. -/
theorem callName_inStep (hcalls : CallsInStep A apply apply') (hframes : FramesAgree A f g)
    {x : String} (hx : A.names x) {args : List Expr}
    (hargs : EvalInStep A.distance (Value.AllMatched A) (evaluateAll apply f args)
      (evaluateAll apply' g args)) :
    EvalInStep A.distance (Value.Matched A) (evaluate apply f (.call (.name x) args))
      (evaluate apply' g (.call (.name x) args)) := by
  obtain ⟨hresolve, hfound⟩ := hframes.resolve hx
  rw [evaluate, evaluate, hresolve]
  cases hf : f.scopes.resolve f.runtime x with
  | none => exact EvalInStep.throw _
  | some found =>
    obtain ⟨v, label⟩ := found
    obtain ⟨hv, htext⟩ := hfound _ hf
    simp only [Option.map_some, renumberFound, Value.isCallable_renumber]
    split
    · refine EvalInStep.bind hargs fun vs ws hvs => ?_
      obtain ⟨rfl, hvs⟩ := hvs
      by_cases hlabel : label = Frame.predicateLabel
      · rw [if_pos hlabel, if_pos hlabel, ← htext hlabel]
        exact hcalls v (.str f.around.text :: vs) hv ⟨trivial, hvs⟩
      · rw [if_neg hlabel, if_neg hlabel]
        exact hcalls v vs hv hvs
    · exact EvalInStep.throw _

/-- A call of a method keeps evaluations in step. -/
theorem callMethod_inStep (hcalls : CallsInStep A apply apply') (hframes : FramesAgree A f g)
    {obj : Expr} {property : String} {args : List Expr}
    (hobj : EvalInStep A.distance (Value.SharesMembers A) (evaluate apply f obj)
      (evaluate apply' g obj))
    (hargs : EvalInStep A.distance (Value.AllMatched A) (evaluateAll apply f args)
      (evaluateAll apply' g args)) :
    EvalInStep A.distance (Value.Matched A) (evaluate apply f (.call (.member obj property) args))
      (evaluate apply' g (.call (.member obj property) args)) := by
  rw [evaluate, evaluate]
  refine EvalInStep.bind hobj fun v w hvw => ?_
  obtain ⟨hv, hw⟩ | ⟨m, m', hv, hw, rfl, hm⟩ := cases_of_rel (hvw.method? hframes.runtime property)
  · rw [hv, hw]
    exact EvalInStep.throw _
  · rw [hv, hw, hframes.language]
    refine EvalInStep.bind hargs fun vs ws hvs => ?_
    obtain ⟨rfl, hvs⟩ := hvs
    exact Method.call_inStep hframes.ignoresNumbers hcalls hm hvs

/-- A call of the value of an expression keeps evaluations in step. -/
theorem callValue_inStep (hcalls : CallsInStep A apply apply') {callee : Expr} {args : List Expr}
    (hcallee : EvalInStep A.distance (Value.Matched A) (evaluate apply f callee)
      (evaluate apply' g callee))
    (hargs : EvalInStep A.distance (Value.AllMatched A) (evaluateAll apply f args)
      (evaluateAll apply' g args)) :
    EvalInStep A.distance (Value.Matched A)
      (do
        let v ← evaluate apply f callee
        if v.isCallable then apply v (← evaluateAll apply f args)
        else throw (.notAFunction anonymousName))
      (do
        let v ← evaluate apply' g callee
        if v.isCallable then apply' v (← evaluateAll apply' g args)
        else throw (.notAFunction anonymousName)) := by
  refine EvalInStep.bind hcallee fun v w hvw => ?_
  obtain ⟨rfl, hv⟩ := hvw
  rw [Value.isCallable_renumber]
  split
  · refine EvalInStep.bind hargs fun vs ws hvs => ?_
    obtain ⟨rfl, hvs⟩ := hvs
    exact hcalls v vs hv hvs
  · exact EvalInStep.throw _

/-- A member keeps evaluations in step. -/
theorem member_inStep (hframes : FramesAgree A f g) {obj : Expr} (property : String)
    (hobj : EvalInStep A.distance (Value.SharesMembers A) (evaluate apply f obj)
      (evaluate apply' g obj)) :
    EvalInStep A.distance (Value.Matched A) (evaluate apply f (.member obj property))
      (evaluate apply' g (.member obj property)) := by
  rw [evaluate, evaluate]
  exact EvalInStep.bind hobj fun _ _ hvw => EvalInStep.pure (hvw.property hframes.runtime property)

/-- An item at a key keeps evaluations in step. -/
theorem index_inStep (hframes : FramesAgree A f g) {obj key : Expr}
    (hobj : EvalInStep A.distance (Value.SharesMembers A) (evaluate apply f obj)
      (evaluate apply' g obj))
    (hkey : EvalInStep A.distance (Value.Matched A) (evaluate apply f key)
      (evaluate apply' g key)) :
    EvalInStep A.distance (Value.Matched A) (evaluate apply f (.index obj key))
      (evaluate apply' g (.index obj key)) := by
  rw [evaluate, evaluate]
  refine EvalInStep.bind hobj fun v w hvw => EvalInStep.bind hkey fun k l hkl => ?_
  obtain ⟨rfl, -⟩ := hkl
  exact EvalInStep.ofExcept (hvw.member hframes.runtime k)

/-! ## All expressions -/

mutual

/-- Evaluations of an expression within an accord are in step in agreeing frames. -/
theorem evaluate_inStep (hcalls : CallsInStep A apply apply') (hframes : FramesAgree A f g) :
    ∀ e : Expr, e.Within A →
      EvalInStep A.distance (Value.Matched A) (evaluate apply f e) (evaluate apply' g e)
  | .literal _, h => EvalInStep.pure ⟨h.2.symm, h.1⟩
  | .name _, h => EvalInStep.pure (hframes.valueOf h)
  | .list items, h => EvalInStep.bind (evaluateAll_inStep hcalls hframes items h) fun _ _ hvs =>
    EvalInStep.pure (Value.matched_list hvs)
  | .member obj property, h =>
    member_inStep hframes property (shares_inStep hframes h (evaluate_inStep hcalls hframes obj))
  | .index obj key, h => index_inStep hframes
    (shares_inStep hframes h.1 (evaluate_inStep hcalls hframes obj))
    (evaluate_inStep hcalls hframes key h.2)
  | .call (.name _) args, h =>
    callName_inStep hcalls hframes h.1 (evaluateAll_inStep hcalls hframes args h.2)
  | .call (.member obj _) args, h => callMethod_inStep hcalls hframes
    (shares_inStep hframes h.1 (evaluate_inStep hcalls hframes obj))
    (evaluateAll_inStep hcalls hframes args h.2)
  | .call (.literal v) args, h => callValue_inStep hcalls
    (evaluate_inStep hcalls hframes (.literal v) h.1) (evaluateAll_inStep hcalls hframes args h.2)
  | .call (.index obj key) args, h => callValue_inStep hcalls
    (evaluate_inStep hcalls hframes (.index obj key) h.1)
    (evaluateAll_inStep hcalls hframes args h.2)
  | .call (.call callee inner) args, h => callValue_inStep hcalls
    (evaluate_inStep hcalls hframes (.call callee inner) h.1)
    (evaluateAll_inStep hcalls hframes args h.2)
  | .call (.unary op e) args, h => callValue_inStep hcalls
    (evaluate_inStep hcalls hframes (.unary op e) h.1) (evaluateAll_inStep hcalls hframes args h.2)
  | .call (.binary op a b) args, h => callValue_inStep hcalls
    (evaluate_inStep hcalls hframes (.binary op a b) h.1)
    (evaluateAll_inStep hcalls hframes args h.2)
  | .call (.logical op a b) args, h => callValue_inStep hcalls
    (evaluate_inStep hcalls hframes (.logical op a b) h.1)
    (evaluateAll_inStep hcalls hframes args h.2)
  | .call (.arrow params body) args, h => callValue_inStep hcalls
    (evaluate_inStep hcalls hframes (.arrow params body) h.1)
    (evaluateAll_inStep hcalls hframes args h.2)
  | .call (.list items) args, h => callValue_inStep hcalls
    (evaluate_inStep hcalls hframes (.list items) h.1)
    (evaluateAll_inStep hcalls hframes args h.2)
  | .call (.query field op value) args, h => callValue_inStep hcalls
    (evaluate_inStep hcalls hframes (.query field op value) h.1)
    (evaluateAll_inStep hcalls hframes args h.2)
  | .call (.foreign v) args, h => callValue_inStep hcalls
    (evaluate_inStep hcalls hframes (.foreign v) h.1)
    (evaluateAll_inStep hcalls hframes args h.2)
  | .unary op operand, h =>
    unary_inStep hframes op (shares_inStep hframes h (evaluate_inStep hcalls hframes operand))
  | .binary op left right, h => by
    obtain ⟨hleft, hright⟩ | ⟨hop, hleft, hright⟩ | ⟨hop, hbase, hconstant⟩ := h
    · exact binary_inStep hframes op (evaluate_inStep hcalls hframes left hleft)
        (evaluate_inStep hcalls hframes right hright)
    · exact numeric_inStep hop
        (shares_inStep hframes hleft (evaluate_inStep hcalls hframes left))
        (shares_inStep hframes hright (evaluate_inStep hcalls hframes right))
    · exact constant_inStep hframes hop hconstant (base_inStep hframes hbase)
  | .logical op left right, h => by
    obtain ⟨h | ⟨rfl, hbase⟩, hright⟩ := h
    · exact logical_inStep hframes op (evaluate_inStep hcalls hframes left h)
        (evaluate_inStep hcalls hframes right hright)
    · exact and_inStep hframes (base_inStep hframes hbase)
        (evaluate_inStep hcalls hframes right hright)
  | .arrow params body, h => EvalInStep.bind EvalInStep.freshId fun i j hij =>
    EvalInStep.pure
      ⟨by rw [hij, hframes.locals, Value.renumber], h.1, h.2, hframes.within⟩
  | .query field op value, h =>
    EvalInStep.bind (evaluate_inStep hcalls hframes value h.2) fun v w hvw =>
      EvalInStep.bind EvalInStep.freshId fun i j hij =>
        EvalInStep.pure ⟨by rw [hij, hvw.1, Value.renumber], h.1, hvw.2⟩
  | .foreign _, _ => EvalInStep.throw _

/-- Evaluations of expressions within an accord are in step in agreeing frames. -/
theorem evaluateAll_inStep (hcalls : CallsInStep A apply apply') (hframes : FramesAgree A f g) :
    ∀ es : List Expr, Expr.AllWithin A es →
      EvalInStep A.distance (Value.AllMatched A) (evaluateAll apply f es) (evaluateAll apply' g es)
  | [], _ => EvalInStep.pure ⟨rfl, trivial⟩
  | e :: rest, h => EvalInStep.bind (evaluate_inStep hcalls hframes e h.1) fun _ _ hvw =>
    EvalInStep.bind (evaluateAll_inStep hcalls hframes rest h.2) fun _ _ hvs =>
      EvalInStep.pure (Value.allMatched_cons hvw hvs)

end

end

/-! ## Calls -/

/-- Calls of functions of the host are in step with themselves, as nothing is renumbered. -/
theorem host_inStep (h : A.hosts) (host : Host) (name : String) (args : List Value) :
    EvalInStep A.distance (Value.Matched A) (host.call name args) (host.call name args) := by
  unfold Host.call
  intro s t hdistance
  cases host.functions name args with
  | ok v =>
    have hsame : v.renumber A.distance = v := by
      rw [(A.all_of_hosts h).1, Value.renumber_zero]
    exact ⟨⟨hsame.symm, Value.within_of_hosts h v⟩, hdistance⟩
  | error kind => exact ⟨rfl, hdistance⟩

/-- A call is in step if the calls inside it are. -/
theorem applyWith_inStep {apply apply' : Value → List Value → Eval Value} {a b : Surroundings}
    (hcalls : CallsInStep A apply apply') (haround : AroundsAgree A a b) :
    CallsInStep A (applyWith apply a) (applyWith apply' b) := by
  intro v args hv hargs
  cases v with
  | query id field op value =>
    rcases args with _ | ⟨record, _ | ⟨_, _⟩⟩
    · exact EvalInStep.throw _
    · have hanswer : InStep A.distance Eq (record.passes a.runtime field op value)
          ((record.renumber A.distance).passes b.runtime field op (value.renumber A.distance)) :=
        passes_inStep haround.runtime op value (Value.isScalar_renumber record).symm
          (Value.follow_matched haround.runtime hargs.1 (Value.pathNames field)).1
      refine EvalInStep.bind (EvalInStep.lift hanswer) ?_
      intro answer other hsame
      subst hsame
      exact EvalInStep.pure (Value.matched_of_isData rfl)
    · exact EvalInStep.throw _
  | builtin f settings =>
    change EvalInStep _ _ _ (f.call settings (args.map _))
    rw [Builtin.call_renumber]
    exact (Builtin.sameData_call settings f args).matched
  | «global» f =>
    change EvalInStep _ _ _ (f.call (args.map _))
    rw [GlobalFunction.call_renumber]
    exact (GlobalFunction.sameData_call f args).matched
  | host name =>
    change EvalInStep _ _ (a.host.call name args) (b.host.call name (args.map _))
    rw [map_renumber_of_hosts hv, haround.host hv]
    exact host_inStep hv b.host name args
  | native kind parts =>
    have hlanguage : b.host.language = a.host.language := haround.runtime.language
    simp only [applyWith, Value.renumber, hlanguage]
    split
    · exact (haround.runtime.keeps.calls (.native kind parts) args hv hargs).run hcalls
    · exact EvalInStep.throw _
  | arrow id params body locals =>
    have hframes : FramesAgree A (Frame.mk a locals)
        (Frame.mk b (Value.renumberLocals A.distance locals)) := ⟨haround, rfl, hv.2.2⟩
    have hinside := hframes.inside (within_bind params hargs)
    rw [← bind_renumber] at hinside
    refine EvalInStep.bind (evaluate_inStep hcalls hinside body hv.2.1) fun w w' hw => ?_
    obtain ⟨rfl, hw⟩ := hw
    exact hinside.settle hw
  | _ => exact EvalInStep.throw _

/-- Calls in agreeing surroundings are in step however deeply they are nested. -/
theorem applyAt_inStep {a b : Surroundings} (haround : AroundsAgree A a b) (depth : Nat) :
    CallsInStep A (applyAt a depth) (applyAt b depth) := by
  induction depth with
  | zero => exact fun _ _ _ _ => EvalInStep.throw _
  | succ depth ih => exact applyWith_inStep ih haround

/-- Evaluations of an expression within an accord are in step in agreeing surroundings. -/
theorem evaluateIn_inStep {a b : Surroundings} (haround : AroundsAgree A a b) {e : Expr}
    (he : e.Within A) :
    EvalInStep A.distance (Value.Matched A) (evaluateIn a e) (evaluateIn b e) := by
  have hframes : FramesAgree A { around := a } { around := b } := ⟨haround, rfl, trivial⟩
  have hcalls : CallsInStep A (applyAt a callDepth) (applyAt b callDepth) :=
    applyAt_inStep haround callDepth
  refine EvalInStep.bind (evaluate_inStep hcalls hframes e he) fun v w hvw => ?_
  obtain ⟨rfl, hv⟩ := hvw
  exact hframes.settle hv

/-- Outcomes of an evaluator within an accord are in step in agreeing surroundings. -/
theorem Evaluator.run_inStep {e : Evaluator} {env env' : Environment} {data data' : Value}
    {bindings bindings' : Fields}
    (haround : AroundsAgree A (surroundings env e.context data bindings)
      (surroundings env' e.context data' bindings'))
    (he : e.body.Within A) :
    InStep A.distance (Outcomes (Value.Matched A)) (e.run env data bindings)
      (e.run env' data' bindings') := by
  refine InStep.bind (evaluateIn_inStep haround he) fun x y hxy => ?_
  cases x with
  | ok v =>
    cases y with
    | ok w => exact InStep.pure hxy
    | error fault => exact hxy.elim
  | error fault =>
    cases y with
    | ok w => exact hxy.elim
    | error fault' => exact InStep.bind (InStep.report _ _) fun _ _ _ => InStep.pure hxy

/-- Where functions of the host are called, calls outside of every expression are in step. -/
theorem callFunction_inStep (h : A.hosts) (host : Host) :
    CallsInStep A (callFunction host) (callFunction host) := by
  have haround : AroundsAgree A { text := "", scopes := [], subject := .undefined, host }
      { text := "", scopes := [], subject := .undefined, host } :=
    { runtime := runtimesAgree_of_hosts h _
      resolve := fun _ _ => rfl
      within := fun _ _ _ hfound => by cases hfound
      text := fun _ _ _ hfound => by cases hfound
      bases := fun _ _ => .same (Value.matched_of_isData rfl)
      subject := .inl (.same (Value.matched_of_isData rfl))
      host := fun _ => rfl }
  exact applyAt_inStep haround callDepth

end Trigger
