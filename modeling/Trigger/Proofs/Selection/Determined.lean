import Trigger.Engine
import Trigger.Proofs.Mention.Influence
import Trigger.Proofs.Renumbering.Scopes
import Trigger.Proofs.Selection.Verdict

/-!
# One run decides

Where all that an expression can name is plain data or a function of this library, its value does
not depend on which numbers come next, except for the numbers in it. So one run of an evaluator
that does not fail decides what it answers for the same record ever after.
-/

namespace Trigger

/-- Everything means the same in both evaluations, but the second one adds to the numbers. Functions
of the host are not called. -/
def Accord.moved (distance : Nat) : Accord where
  distance
  names := fun _ => True
  heads := fun _ => True
  hosts := False
  all_of_hosts := False.elim

/-- An expression with plain data is within the accord. -/
theorem Expr.Plain.within_moved {e : Expr} (h : e.Plain) (distance : Nat) :
    e.Within (.moved distance) :=
  within_of_plain e h ⟨fun _ _ => trivial, fun _ _ => trivial, fun _ => trivial⟩

variable {A : Accord}

/-! ## Surroundings without numbers -/

/-- A scene that matches itself. -/
structure Scene.IsFixed (A : Accord) (s : Scene) : Prop where
  scopes : ∀ scope ∈ s.scopes, Value.Matched A scope.2 scope.2
  subject : Value.Matched A s.subject s.subject

/-- Two rows of scopes with the same labels that match one by one. -/
abbrev ChainsMatch (A : Accord) : ScopeChain → ScopeChain → Prop :=
  List.Forall₂ fun a b => a.1 = b.1 ∧ Value.Matched A a.2 b.2

/-- Scopes with their labels as lists match if the scopes do. -/
theorem ChainsMatch.lists {chain chain' : ScopeChain} (h : ChainsMatch A chain chain') :
    Value.AllMatched A (chain.map fun (label, scope) => .list .tuple [.str label, scope])
      (chain'.map fun (label, scope) => .list .tuple [.str label, scope]) := by
  induction h with
  | nil => exact ⟨rfl, trivial⟩
  | @cons a b _ _ hscope _ ih =>
    obtain ⟨label, scope⟩ := a
    obtain ⟨label', scope'⟩ := b
    obtain ⟨rfl, rfl, hwithin⟩ := hscope
    exact Value.allMatched_cons ⟨rfl, trivial, hwithin, trivial⟩ ih

namespace Scene.IsFixed

variable {s : Scene}

/-- The scopes inside matching arrow functions match. -/
theorem inside_scopes (h : s.IsFixed A) {locals : List Fields}
    (hlocals : Value.LocalsWithin A locals) :
    ChainsMatch A (s.inside locals).scopes
      (s.inside (Value.renumberLocals A.distance locals)).scopes := by
  induction locals with
  | nil => exact List.forall₂_same.mpr fun scope hscope => ⟨rfl, h.scopes scope hscope⟩
  | cons fields locals ih => exact .cons ⟨rfl, rfl, hlocals.1⟩ (ih hlocals.2)

/-- The subjects inside matching arrow functions match. -/
theorem inside_subject (h : s.IsFixed A) {locals : List Fields}
    (hlocals : Value.LocalsWithin A locals) :
    Value.Matched A (s.inside locals).subject
      (s.inside (Value.renumberLocals A.distance locals)).subject := by
  induction locals with
  | nil => exact h.subject
  | cons fields locals ih => exact overlay_matched (ih hlocals.2) hlocals.1

/-- What matching arrow functions show of a scene that matches itself matches. -/
theorem shown (h : s.IsFixed A) {locals : List Fields} (hlocals : Value.LocalsWithin A locals) :
    Value.Matched A (s.inside locals).toValue
      (s.inside (Value.renumberLocals A.distance locals)).toValue := by
  obtain ⟨hscopes, hwithin⟩ := (h.inside_scopes hlocals).lists
  obtain ⟨hsubject, hsubjectWithin⟩ := h.inside_subject hlocals
  refine ⟨?_, ⟨⟨hwithin, trivial⟩, trivial, hsubjectWithin, trivial⟩⟩
  simp only [Scene.toValue, Value.renumber, Value.renumberFields, Value.renumberAll_eq_map, hscopes,
    hsubject]
  rfl

end Scene.IsFixed

/-- Surroundings whose scopes and subject match themselves agree with themselves. -/
theorem aroundsAgree_self {a : Surroundings} (huniform : a.host.language.IsUniform)
    (hscene : a.toScene.IsFixed A) : AroundsAgree A a a := by
  have hruntime : RuntimesAgree A a.runtime a.runtime := by
    refine ⟨rfl, huniform A, fun _ locals hlocals => ?_⟩
    unfold Runtime.shownFrame Surroundings.runtime
    split
    · exact .some (hscene.shown hlocals)
    · exact .none
  have hchains : ChainsAgree A a.runtime a.runtime a.scopes a.scopes :=
    List.forall₂_same.mpr fun scope hscope =>
      ⟨rfl, (Value.SharesMembers.same (hscene.scopes scope hscope)).scopesAgree hruntime⟩
  exact aroundsAgree_of_chains hruntime hchains rfl (.inl (.same hscene.subject)) rfl

/-- Plain data in a session with the functions of this library give surroundings that agree with
themselves. -/
theorem aroundsAgree_own (settings : BuiltinSettings) {host : Host}
    (huniform : host.language.IsUniform) {ambient : Fields}
    (hambient : Value.fieldsAreData ambient = true) {record : Value}
    (hrecord : record.isData = true) :
    let around := Evaluator.surroundings (ownEnvironment settings ambient host) .object record []
    AroundsAgree A around around := by
  have hmatched : Value.Matched A record record := Value.matched_of_isData hrecord
  have hnames : Fixed A ([] ++ ambient ++ [("record", record)]) :=
    (fixed_of_fieldsAreData hambient).append (fixed_of_fieldsAreData (by
      rw [Value.fieldsAreData, hrecord]
      rfl))
  refine aroundsAgree_self huniform ⟨fun scope hscope => ?_, hmatched⟩
  simp only [Evaluator.surroundings, ownEnvironment, List.mem_cons, List.not_mem_nil,
    or_false] at hscope
  rcases hscope with rfl | rfl | rfl | rfl
  · exact hmatched
  · exact (fixed_builtins settings).matched
  · exact hnames.matched
  · exact fixed_globals.matched

/-- A new engine to which no functions are given has those of this library. -/
theorem Engine.environment_of_ofOptions {o : EngineOptions} {e : Engine}
    (he : Engine.ofOptions o = .ok e) (hbuiltins : o.builtins = none) (hglobals : o.globals = none)
    (host : Host) :
    e.environment host = ownEnvironment
      { fuzzyThreshold := o.fuzzyThreshold, nearReach := o.nearReach } o.bindings host := by
  unfold Engine.ofOptions at he
  split at he
  · cases he
  · obtain ⟨cache, -, he⟩ := bind_eq_ok_iff.mp he
    obtain rfl := Except.ok.inj he
    rw [Engine.environment, hbuiltins, hglobals]
    rfl

/-! ## Answers -/

/-- One run of an evaluator that ends without a failure decides what it answers ever after. -/
theorem Evaluator.answers_of_run {e : Evaluator} (hplain : e.body.Plain)
    (hcontext : e.context = .object) (settings : BuiltinSettings) {host : Host}
    (huniform : host.language.IsUniform) {ambient : Fields}
    (hambient : Value.fieldsAreData ambient = true) {record : Value} (hrecord : record.isData = true) {s : Effects} {v : Value}
    (hrun : ((e.run (ownEnvironment settings ambient host) record).run s).1 = .ok v)
    (t : Effects) : e.Answers (ownEnvironment settings ambient host) t record v.isTruthy := by
  intro n _
  have hstep (d : Nat) : InStep d (Outcomes (Value.Matched (.moved d)))
      (e.run (ownEnvironment settings ambient host) record)
      (e.run (ownEnvironment settings ambient host) record) :=
    e.run_inStep (hcontext ▸ aroundsAgree_own settings huniform hambient hrecord)
      (hplain.within_moved d)
  -- the run that is known has the smaller numbers, or else the larger ones
  rcases Nat.le_total s.nextId n with hle | hle
  · obtain ⟨d, rfl⟩ := Nat.exists_eq_add_of_le hle
    have hresult := (hstep d s { t with nextId := s.nextId + d } rfl).1
    obtain ⟨w, hw, rfl, -⟩ := Outcomes.of_ok_left (hrun ▸ hresult)
    exact ⟨_, hw, Value.isTruthy_renumber v⟩
  · obtain ⟨d, hd⟩ := Nat.exists_eq_add_of_le hle
    have hresult := (hstep d { t with nextId := n } s hd).1
    obtain ⟨w, hw, rfl, -⟩ := Outcomes.of_ok_right (hrun ▸ hresult)
    exact ⟨w, hw, (Value.isTruthy_renumber w).symm⟩

end Trigger
