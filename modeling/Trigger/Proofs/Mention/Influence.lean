import Trigger.Eval.Standard
import Trigger.Proofs.Mention.Basic
import Trigger.Proofs.Printing.RoundTrip
import Trigger.Proofs.Renumbering.Evaluation
import Trigger.Proofs.Renumbering.Standard

/-!
# What can influence an expression

An expression about a text takes only the names that it mentions from the namespaces, and the text
itself only through predicates on texts and through its name. Two evaluations with the same
namespaces as far as they are mentioned are in step, whatever else is bound.

An arrow function shows the scene in which it is made as one of its attributes, and the text and all
bindings with it. So this holds of expressions without arrow functions, and of all others as far as
they would come out the same if arrow functions did not show their scene.
-/

namespace Trigger

/-! ## Surroundings of an expression about a text -/

/-- The accord of two evaluations of an expression whose numbers are so far apart: what it mentions
means the same in both. -/
def Expr.accord (e : Expr) (distance : Nat) : Accord where
  distance
  names := (· ∈ e.names)
  heads := (· ∈ e.heads)
  arrows := e.hasArrow = true
  hosts := False
  all_of_hosts := False.elim

/-- The program with arrow functions that do not show the scene in which they are made. -/
def Host.discreet (host : Host) : Host := { host with showsScene := false }

/-- The namespaces of an expression about a text. -/
def textNames (ambient : Fields) (data : Value) (bindings : Fields) : Fields :=
  bindings ++ ambient ++ [("text", .str data.textOrEmpty)]

/-- The environment of a session with the functions of this library. -/
def ownEnvironment (settings : BuiltinSettings) (ambient : Fields) (host : Host) :
    Environment where
  builtins := Builtin.entries settings
  globals := GlobalFunction.entries
  ambient
  host

variable {A : Accord}

/-- Surroundings with the same host have runtimes that agree, if arrow functions do not show them. -/
theorem runtimesAgree_surroundings {host : Host} (huniform : host.language.IsUniform)
    (settings : BuiltinSettings) (ambient ambient' : Fields) (context : ContextKind)
    (data data' : Value) (bindings bindings' : Fields)
    (hscene : A.arrows → host.showsScene = false) :
    RuntimesAgree A
      (Evaluator.surroundings (ownEnvironment settings ambient host) context data bindings).runtime
      (Evaluator.surroundings (ownEnvironment settings ambient' host) context data'
        bindings').runtime := by
  have hhost (ambient : Fields) (data : Value) (bindings : Fields) :
      (Evaluator.surroundings (ownEnvironment settings ambient host) context data bindings).host =
        host := by
    cases context <;> rfl
  refine runtimesAgree_of_hidden ?_ ?_ fun harrow => ⟨?_, ?_⟩
  · simp only [Surroundings.runtime, hhost]
  · simp only [Surroundings.runtime, hhost]
    exact huniform A
  · simp [Surroundings.runtime, hhost, hscene harrow]
  · simp [Surroundings.runtime, hhost, hscene harrow]

/-- Fields without numbers that look up nothing outside an accord. -/
structure Fixed (A : Accord) (fields : Fields) : Prop where
  renumber : Value.renumberFields A.distance fields = fields
  within : Value.FieldsWithin A fields

/-- What is found in fixed fields is fixed. -/
theorem Fixed.of_lookup {fields : Fields} (h : Fixed A fields) {x : String} {v : Value}
    (hv : fields.lookup x = some v) : v.renumber A.distance = v ∧ v.Within A := by
  have hlookup := Value.lookup_renumberFields (d := A.distance) x fields
  rw [h.renumber, hv] at hlookup
  exact ⟨(Option.some.inj hlookup).symm, Value.within_of_lookup h.within hv⟩

/-- A mapping with fixed fields matches itself. -/
theorem Fixed.matched {fields : Fields} (h : Fixed A fields) :
    Value.Matched A (.map fields) (.map fields) :=
  ⟨by rw [Value.renumber, h.renumber], h.within⟩

/-- Plain data are fixed. -/
theorem fixed_of_fieldsAreData {fields : Fields} (h : Value.fieldsAreData fields = true) :
    Fixed A fields :=
  ⟨Value.renumberFields_of_areData fields h, Value.fieldsWithin_of_areData fields h⟩

/-- Fixed fields in front of others. -/
theorem Fixed.append {fields others : Fields} (h : Fixed A fields) (hothers : Fixed A others) :
    Fixed A (fields ++ others) where
  renumber := by rw [Value.renumberFields_append, h.renumber, hothers.renumber]
  within := by
    rw [Value.fieldsWithin_iff, List.forall_mem_append, ← Value.fieldsWithin_iff,
      ← Value.fieldsWithin_iff]
    exact ⟨h.within, hothers.within⟩

/-- The predicates on texts are fixed. -/
theorem fixed_builtins (settings : BuiltinSettings) : Fixed A (Builtin.entries settings) where
  renumber := rfl
  within := by
    refine Value.fieldsWithin_iff.mpr fun entry hentry => ?_
    obtain ⟨_, -, rfl⟩ := List.mem_map.mp hentry
    trivial

/-- The global functions are fixed. -/
theorem fixed_globals : Fixed A GlobalFunction.entries where
  renumber := rfl
  within := by
    have hmath : GlobalFunction.math.Within A := by
      refine Value.fieldsWithin_iff.mpr fun entry hentry => ?_
      obtain ⟨_, -, rfl⟩ := List.mem_map.mp hentry
      trivial
    exact ⟨hmath, trivial, trivial, trivial, trivial, trivial⟩

/-- Plain namespaces of an expression about a text are fixed. -/
theorem fixed_textNames {ambient bindings : Fields} (hambient : Value.fieldsAreData ambient = true)
    (hbindings : Value.fieldsAreData bindings = true) (data : Value) :
    Fixed A (textNames ambient data bindings) :=
  ((fixed_of_fieldsAreData hbindings).append (fixed_of_fieldsAreData hambient)).append
    (fixed_of_fieldsAreData rfl)

/-- A name is looked up in a mapping and then in the scopes behind it. -/
theorem resolve_map (rt : Runtime) (x label : String) (entries : Fields) (rest : ScopeChain) :
    ScopeChain.resolve rt x ((label, .map entries) :: rest) =
      ((entries.lookup x).map (·, label)).or (ScopeChain.resolve rt x rest) := by
  rw [ScopeChain.resolve, ScopeChain.lookupIn]
  cases entries.lookup x <;> rfl

/-- A name is looked up in the predicates on texts, then in the namespaces, then in the global
functions. -/
theorem resolve_text (rt : Runtime) (settings : BuiltinSettings) (ambient : Fields) (host : Host)
    (data : Value) (bindings : Fields) (x : String) :
    ScopeChain.resolve rt x (Evaluator.surroundings (ownEnvironment settings ambient host) .text data
        bindings).scopes =
      (((Builtin.entries settings).lookup x).map (·, Frame.predicateLabel)).or
        ((((textNames ambient data bindings).lookup x).map (·, "bindings")).or
          ((GlobalFunction.entries.lookup x).map (·, "globals"))) := by
  change ScopeChain.resolve rt x [(Frame.predicateLabel, .map (Builtin.entries settings)),
    ("bindings", .map (textNames ambient data bindings)),
    ("globals", .map GlobalFunction.entries)] = _
  rw [resolve_map, resolve_map, resolve_map, ScopeChain.resolve, Option.or_none]

/-- The predicates on texts have the names of the table. -/
theorem lookup_builtins (settings : BuiltinSettings) (x : String) :
    (Builtin.entries settings).lookup x =
      (Builtin.table.lookup x).map fun f => Value.builtin f settings := by
  have hmap (table : List (String × Builtin)) :
      (table.map fun entry => (entry.1, Value.builtin entry.2 settings)).lookup x =
        (table.lookup x).map fun f => Value.builtin f settings := by
    induction table with
    | nil => rfl
    | cons entry table ih =>
      obtain ⟨name, f⟩ := entry
      rw [List.map_cons, List.lookup_cons, List.lookup_cons]
      cases x == name with
      | true => rfl
      | false => exact ih
  exact hmap Builtin.table

/-- What a name stands for in an expression about a text has no numbers and looks up nothing, and it
is a predicate on texts only if it has the name of one. -/
theorem resolve_text_eq_some {rt : Runtime} {settings : BuiltinSettings} {ambient : Fields}
    {host : Host} {data : Value} {bindings : Fields}
    (hnames : Fixed A (textNames ambient data bindings)) {x : String} {found : Value × String}
    (h : ScopeChain.resolve rt x (Evaluator.surroundings (ownEnvironment settings ambient host) .text
      data bindings).scopes = some found) :
    (found.1.renumber A.distance = found.1 ∧ found.1.Within A) ∧
      (found.2 = Frame.predicateLabel → (Builtin.table.lookup x).isSome = true) := by
  rw [resolve_text, Option.or_eq_some_iff, Option.or_eq_some_iff] at h
  obtain hbuiltin | ⟨-, hname | ⟨-, hglobal⟩⟩ := h
  · obtain ⟨v, hv, rfl⟩ := Option.map_eq_some_iff.mp hbuiltin
    refine ⟨(fixed_builtins settings).of_lookup hv, fun _ => ?_⟩
    rw [lookup_builtins] at hv
    obtain ⟨f, hf, -⟩ := Option.map_eq_some_iff.mp hv
    rw [hf, Option.isSome_some]
  · obtain ⟨v, hv, rfl⟩ := Option.map_eq_some_iff.mp hname
    have hother : "bindings" ≠ Frame.predicateLabel := by decide
    exact ⟨hnames.of_lookup hv, fun hlabel => absurd hlabel hother⟩
  · obtain ⟨v, hv, rfl⟩ := Option.map_eq_some_iff.mp hglobal
    have hother : "globals" ≠ Frame.predicateLabel := by decide
    exact ⟨fixed_globals.of_lookup hv, fun hlabel => absurd hlabel hother⟩

/-! ## Two evaluations of an expression -/

section

variable {e : Expr} {ambient bindings bindings' : Fields} {data data' : Value}

/-- Names that are mentioned mean the same in namespaces that share what is mentioned. -/
theorem lookup_textNames
    (hnames : ∀ x ∈ e.mentioned, bindings.lookup x = bindings'.lookup x)
    (htext : "text" ∈ e.mentioned → data.textOrEmpty = data'.textOrEmpty) {x : String}
    (hx : x ∈ e.mentioned) :
    (textNames ambient data bindings).lookup x = (textNames ambient data' bindings').lookup x := by
  rw [textNames, textNames, List.lookup_append, List.lookup_append, List.lookup_append,
    List.lookup_append, hnames x hx]
  congr 1
  by_cases hname : x = "text"
  · subst hname
    rw [htext hx]
  · have hne : (x == "text") = false := beq_eq_false_iff_ne.mpr hname
    rw [List.lookup_cons, List.lookup_cons, hne]

/-- A name in an expression stands for the same in namespaces that share what is mentioned. -/
theorem resolve_text_of_mentioned {rt rt' : Runtime} (settings : BuiltinSettings) (host : Host)
    (hshared : ∀ x ∈ e.mentioned, (textNames ambient data' bindings').lookup x =
      (textNames ambient data bindings).lookup x) {x : String} (hx : x ∈ e.names) :
    ScopeChain.resolve rt' x (Evaluator.surroundings (ownEnvironment settings ambient host) .text
        data' bindings').scopes =
      ScopeChain.resolve rt x (Evaluator.surroundings (ownEnvironment settings ambient host) .text
        data bindings).scopes := by
  rw [resolve_text, resolve_text]
  cases hbuiltin : (Builtin.entries settings).lookup x with
  | some v => rfl
  | none =>
    rw [lookup_builtins, Option.map_eq_none_iff] at hbuiltin
    rw [hshared x (Expr.mem_mentioned_of_name hx hbuiltin)]

/-- An expression that shares what it mentions with another evaluation has surroundings that agree
with those of the other one, if its arrow functions do not show them. -/
theorem aroundsAgree_text (settings : BuiltinSettings) {host : Host} (distance : Nat)
    (huniform : host.language.IsUniform) (hscene : e.hasArrow = true → host.showsScene = false)
    (hambient : Value.fieldsAreData ambient = true)
    (hbindings : Value.fieldsAreData bindings = true)
    (hnames : ∀ x ∈ e.mentioned, bindings.lookup x = bindings'.lookup x)
    (htext : e.mentionsBuiltin = true ∨ "text" ∈ e.mentioned →
      data.textOrEmpty = data'.textOrEmpty) :
    AroundsAgree (e.accord distance)
      (Evaluator.surroundings (ownEnvironment settings ambient host) .text data bindings)
      (Evaluator.surroundings (ownEnvironment settings ambient host) .text data' bindings') := by
  have hfixed : Fixed (e.accord distance) (textNames ambient data bindings) :=
    fixed_textNames hambient hbindings data
  have hshared (x : String) (hx : x ∈ e.mentioned) :
      (textNames ambient data' bindings').lookup x = (textNames ambient data bindings).lookup x :=
    (lookup_textNames hnames (fun h => htext (.inr h)) hx).symm
  refine ⟨runtimesAgree_surroundings huniform settings ambient ambient .text data data' bindings
      bindings' hscene,
    fun x hx => ?_, fun x found _ hfound => ?_, fun x found hx hfound hlabel => ?_,
    fun _ hx => hx.elim, ?_, False.elim⟩
  · generalize (Evaluator.surroundings (ownEnvironment settings ambient host) .text data
      bindings).runtime = rt
    rw [resolve_text_of_mentioned settings host hshared hx]
    cases hfound : ScopeChain.resolve rt x (Evaluator.surroundings
        (ownEnvironment settings ambient host) .text data bindings).scopes with
    | none => rfl
    | some found =>
      have hrenumber := (resolve_text_eq_some hfixed hfound).1.1
      exact congrArg some (Prod.ext hrenumber.symm rfl)
  · exact (resolve_text_eq_some hfixed hfound).1.2
  · have hbuiltin := (resolve_text_eq_some hfixed hfound).2 hlabel
    exact htext (.inl (List.any_eq_true.mpr ⟨x, hx, hbuiltin⟩))
  · refine .inr ⟨_, _, rfl, rfl, fun x hx => ⟨?_, fun u hu => ?_⟩, fun _ hx => hx.elim⟩
    · have hlookup := Value.lookup_renumberFields (d := distance) x (textNames ambient data bindings)
      have hsame := congrArg (List.lookup x) hfixed.renumber
      exact (hshared x (Expr.mem_mentioned_of_head hx)).trans (hsame.symm.trans hlookup)
    · exact (hfixed.of_lookup hu).2

end

/-! ## Outcomes -/

/-- Two values of which both or none are plain data, and which are equal if they are. -/
def Value.SameIfData (v w : Value) : Prop := v.isData = w.isData ∧ (v.isData = true → v = w)

/-- Two outcomes that are the same failure or values that are the same as far as they are data. -/
abbrev SameOutcome : Except Fault Value → Except Fault Value → Prop := Outcomes Value.SameIfData

/-- The same outcomes in the other order. -/
theorem SameOutcome.symm {x y : Except Fault Value} (h : SameOutcome x y) : SameOutcome y x := by
  cases x with
  | ok v =>
    cases y with
    | ok w =>
      obtain ⟨hdata, hequal⟩ := h
      exact ⟨hdata.symm, fun hw => (hequal (hdata.trans hw)).symm⟩
    | error fault => exact h.elim
  | error fault =>
    cases y with
    | ok w => exact h.elim
    | error fault' => exact Eq.symm h

/-- Every outcome is the same as itself. -/
theorem SameOutcome.refl (x : Except Fault Value) : SameOutcome x x := by
  cases x with
  | ok v => exact ⟨rfl, fun _ => rfl⟩
  | error fault => rfl

/-- The same outcomes one after the other. -/
theorem SameOutcome.trans {x y z : Except Fault Value} (h : SameOutcome x y)
    (h' : SameOutcome y z) : SameOutcome x z := by
  cases x with
  | ok u =>
    cases y with
    | ok v =>
      cases z with
      | ok w =>
        obtain ⟨hdata, hequal⟩ := h
        obtain ⟨hdata', hequal'⟩ := h'
        exact ⟨hdata.trans hdata', fun hu => (hequal hu).trans (hequal' (hdata.symm.trans hu))⟩
      | error fault => exact h'.elim
    | error fault => exact h.elim
  | error fault =>
    cases y with
    | ok v => exact h.elim
    | error fault' =>
      cases z with
      | ok w => exact h'.elim
      | error fault'' => exact Eq.trans h h'

/-- Two runs have the same outcome if they have when arrow functions do not show their scene, and
arrow functions do not matter to either run or there are none. -/
theorem SameOutcome.of_discreet {x x' y y' : Except Fault Value} {hasArrow : Bool}
    (hnone : hasArrow = false → SameOutcome x y) (hdiscreet : SameOutcome x' y')
    (hshown : hasArrow = true → SameOutcome x x' ∧ SameOutcome y y') : SameOutcome x y := by
  cases hasArrow with
  | false => exact hnone rfl
  | true =>
    obtain ⟨hfirst, hsecond⟩ := hshown rfl
    exact (hfirst.trans hdiscreet).trans hsecond.symm

/-- Matching values are the same as far as they are data. -/
theorem sameIfData_of_matched {v w : Value} (h : Value.Matched A v w) : Value.SameIfData v w := by
  obtain ⟨rfl, -⟩ := h
  exact ⟨(Value.isData_renumber _ v).symm, fun hv => (Value.renumber_of_isData v hv).symm⟩

namespace Evaluator

variable {ev : Evaluator} {ambient bindings bindings' : Fields} {data data' : Value} {host : Host}

/-- Runs that share what is mentioned have the same outcome, if arrow functions do not show their
scene and the first run gives no larger numbers. -/
theorem run_of_shared_of_le (hplain : ev.body.Plain) (htextual : ev.context = .text)
    (settings : BuiltinSettings) (huniform : host.language.IsUniform)
    (hscene : ev.body.hasArrow = true → host.showsScene = false)
    (hambient : Value.fieldsAreData ambient = true)
    (hbindings : Value.fieldsAreData bindings = true)
    (hnames : ∀ x ∈ ev.body.mentioned, bindings.lookup x = bindings'.lookup x)
    (htext : ev.body.mentionsBuiltin = true ∨ "text" ∈ ev.body.mentioned →
      data.textOrEmpty = data'.textOrEmpty)
    {effects effects' : Effects} (hle : effects.nextId ≤ effects'.nextId) :
    SameOutcome (ev.run (ownEnvironment settings ambient host) data bindings effects).1
      (ev.run (ownEnvironment settings ambient host) data' bindings' effects').1 := by
  obtain ⟨distance, hdistance⟩ := Nat.exists_eq_add_of_le hle
  have haround := aroundsAgree_text settings distance huniform hscene hambient hbindings hnames htext
  rw [← htextual] at haround
  have hwithin : ev.body.Within (ev.body.accord distance) :=
    Expr.within_of_plain ev.body hplain ⟨fun _ hx => hx, fun _ hx => hx, fun harrow => harrow⟩
  have hrun := Evaluator.run_inStep haround hwithin effects effects' hdistance
  exact Outcomes.mono (fun _ _ => sameIfData_of_matched) hrun.1

/-- Runs that share what is mentioned have the same outcome, if arrow functions do not show their
scene. -/
theorem run_of_shared (hplain : ev.body.Plain) (htextual : ev.context = .text)
    (settings : BuiltinSettings) (host : Host) (huniform : host.language.IsUniform)
    (hscene : ev.body.hasArrow = true → host.showsScene = false)
    (hambient : Value.fieldsAreData ambient = true)
    (hbindings : Value.fieldsAreData bindings = true)
    (hbindings' : Value.fieldsAreData bindings' = true)
    (hnames : ∀ x ∈ ev.body.mentioned, bindings.lookup x = bindings'.lookup x)
    (htext : ev.body.mentionsBuiltin = true ∨ "text" ∈ ev.body.mentioned →
      data.textOrEmpty = data'.textOrEmpty)
    (effects effects' : Effects) :
    SameOutcome (ev.run (ownEnvironment settings ambient host) data bindings effects).1
      (ev.run (ownEnvironment settings ambient host) data' bindings' effects').1 := by
  obtain hle | hle := Nat.le_total effects.nextId effects'.nextId
  · exact run_of_shared_of_le hplain htextual settings huniform hscene hambient hbindings hnames
      htext hle
  · exact (run_of_shared_of_le hplain htextual settings huniform hscene hambient hbindings'
      (fun x hx => (hnames x hx).symm) (fun h => (htext h).symm) hle).symm

/-- The outcome of an expression about a text depends only on the namespaces that it mentions, and
on the text only where it mentions a predicate on texts or the text by its name, if it has no arrow
function or comes out the same when arrow functions do not show their scene. No binding takes the
place of a predicate, and an expression that mentions nothing does not depend on the text. -/
theorem run_of_mentioned {text : String} {target : Option String}
    (hev : ofText text .text target = .ok ev)
    (settings : BuiltinSettings) (host : Host) (huniform : host.language.IsUniform)
    (hambient : Value.fieldsAreData ambient = true)
    (hbindings : Value.fieldsAreData bindings = true)
    (hbindings' : Value.fieldsAreData bindings' = true)
    (hnames : ∀ x ∈ ev.body.mentioned, bindings.lookup x = bindings'.lookup x)
    (htext : ev.body.mentionsBuiltin = true ∨ "text" ∈ ev.body.mentioned →
      data.textOrEmpty = data'.textOrEmpty)
    (effects effects' : Effects) :
    let env := ownEnvironment settings ambient host
    let discreet := ownEnvironment settings ambient host.discreet
    ((ev.body.hasArrow = true →
        SameOutcome (ev.run env data bindings effects).1
            (ev.run discreet data bindings effects).1 ∧
          SameOutcome (ev.run env data' bindings' effects').1
            (ev.run discreet data' bindings' effects').1) →
        SameOutcome (ev.run env data bindings effects).1 (ev.run env data' bindings' effects').1) ∧
      (∀ x f, Builtin.table.lookup x = some f →
        ScopeChain.resolve (surroundings env .text data bindings).runtime x
            (surroundings env .text data bindings).scopes =
          some (.builtin f settings, Frame.predicateLabel)) ∧
      (ev.body.names = [] → ev.body.heads = [] → ev.body.hasArrow = false → ∀ other : Value,
        SameOutcome (ev.run env data bindings effects).1
          (ev.run env other bindings effects').1) := by
  intro env discreet
  obtain ⟨-, htextual, -, -⟩ := parts_of_ofText hev
  have hplain := plain_of_ofText hev
  refine ⟨fun hshown => ?_, fun x f hf => ?_, fun hnone hnoHeads hnoArrow other => ?_⟩
  · have hdiscreet := run_of_shared hplain htextual settings host.discreet huniform (fun _ => rfl)
      hambient hbindings hbindings' hnames htext effects effects'
    refine SameOutcome.of_discreet (fun hnoArrow => ?_) hdiscreet hshown
    exact run_of_shared hplain htextual settings host huniform (by simp [hnoArrow]) hambient
      hbindings hbindings' hnames htext effects effects'
  · rw [resolve_text, lookup_builtins, hf]
    rfl
  · refine run_of_shared hplain htextual settings host huniform (by simp [hnoArrow]) hambient
      hbindings hbindings (fun _ _ => rfl) (fun h => ?_) effects effects'
    rw [Expr.mentionsBuiltin, Expr.mentioned, hnone, hnoHeads] at h
    simp at h

/-- A sum of a name and a number is the same for other texts and other values of other names, as is a
search of a list by an arrow function, and a sum of numbers for all texts. -/
theorem run_of_mentioned_sum :
    let host : Host := .standard fun name _ => .ok (.str name)
    let env := ownEnvironment {} [("text", .int 2)] host
    let sum : Evaluator := ⟨"a + 1", .text, none, .binary .add (.name "a") (.literal (.int 1))⟩
    let search : Evaluator := ⟨"a . some ( i => i )", .text, none,
      .call (.member (.name "a") "some") [.arrow ["i"] (.name "i")]⟩
    let one : Evaluator := ⟨"1 + 1", .text, none,
      .binary .add (.literal (.int 1)) (.literal (.int 1))⟩
    SameOutcome (sum.run env (.str "x") [("any", .null), ("a", .int 4)] {}).1
        (sum.run env (.str "y") [("a", .int 4), ("b", .str "z")] { nextId := 3 }).1 ∧
      SameOutcome (search.run env (.str "x") [("a", .ofList [.int 0, .int 4])] {}).1
        (search.run env (.str "y") [("a", .ofList [.int 0, .int 4])] { nextId := 3 }).1 ∧
      SameOutcome (one.run env (.str "x") [("a", .int 4)] {}).1
        (one.run env (.str "y") [("a", .int 4)] {}).1 := by
  intro host env sum search one
  have hliteral : Expr.WellFormed .anywhere (.literal (.int 1)) := .int 1 (by decide)
  have hreadSum : Expr.read "a + 1" = .ok (.binary .add (.name "a") (.literal (.int 1))) :=
    Expr.read_of_wellFormed (.binary (by simp) (.name (by decide)) hliteral) (by decide +kernel)
  have hreadSearch : Expr.read "a . some ( i => i )" = .ok search.body :=
    Expr.read_of_wellFormed (.method (.name (by decide)) (by decide) (List.forall_mem_singleton.mpr
      (.arrow (by decide) rfl (.name (by decide))))) (by decide +kernel)
  have hreadOne : Expr.read "1 + 1" = .ok (.binary .add (.literal (.int 1)) (.literal (.int 1))) :=
    Expr.read_of_wellFormed (.binary (by simp) hliteral hliteral) (by decide +kernel)
  have hsum : ofText "a + 1" .text none = .ok sum := by
    rw [ofText, hreadSum]
    rfl
  have hsearch : ofText "a . some ( i => i )" .text none = .ok search := by
    rw [ofText, hreadSearch]
    rfl
  have hone : ofText "1 + 1" .text none = .ok one := by
    rw [ofText, hreadOne]
    rfl
  have hshared : ∀ x ∈ sum.body.mentioned,
      List.lookup x [("any", Value.null), ("a", .int 4)] =
        List.lookup x [("a", .int 4), ("b", .str "z")] := by
    intro x hx
    obtain rfl : x = "a" := List.mem_singleton.mp hx
    rfl
  have hdata (e : Expr) (h : ¬ (e.mentionsBuiltin = true ∨ "text" ∈ e.mentioned)) :
      e.mentionsBuiltin = true ∨ "text" ∈ e.mentioned →
        (Value.str "x").textOrEmpty = (Value.str "y").textOrEmpty :=
    fun hmentions => absurd hmentions h
  have hambient : Value.fieldsAreData [("text", .int 2)] = true := rfl
  have ha : Value.fieldsAreData [("a", .int 4)] = true := rfl
  have hitems : Value.fieldsAreData [("a", .ofList [.int 0, .int 4])] = true := rfl
  have hfirst := run_of_mentioned hsum {} host Language.standard_isUniform hambient rfl rfl hshared
    (hdata sum.body (by decide)) {} { nextId := 3 }
  have hsecond := run_of_mentioned hsearch {} host Language.standard_isUniform hambient hitems
    hitems (fun _ _ => rfl) (hdata search.body (by decide)) {} { nextId := 3 }
  have hthird := run_of_mentioned hone {} host Language.standard_isUniform hambient ha ha
    (fun _ _ => rfl) (hdata one.body (by decide)) {} {}
  exact ⟨hfirst.1 (fun harrow => nomatch harrow),
    hsecond.1 fun _ => ⟨⟨rfl, fun _ => rfl⟩, ⟨rfl, fun _ => rfl⟩⟩,
    hthird.2.2 rfl rfl rfl (.str "y")⟩

/-- The text that an outcome is. -/
def outcomeText? : Except Fault Value → Option String
  | .ok (.str s) => some s
  | _ => none

/-- An outcome that is a text. -/
theorem eq_of_outcomeText? {x : Except Fault Value} {s : String} (h : outcomeText? x = some s) :
    x = .ok (.str s) := by
  unfold outcomeText? at h
  split at h
  · rw [Option.some.inj h]
  · cases h

/-- An arrow function that is given to a method for missing texts is among the texts that a search
finds, and shows the text that the expression is about. -/
theorem run_shows_text :
    let host : Host := .standard fun name _ => .ok (.str name)
    let env := ownEnvironment {} [] host
    let text := "RegExp ( \"(a)?\" ) . search ( \"\" ) . groups ( i => i ) [ 0 ] . frame . text"
    let search : Expr := .call (.member (.call (.name "RegExp") [.literal (.str "(a)?")]) "search")
      [.literal (.str "")]
    let ev : Evaluator := ⟨text, .text, none,
      .member (.member (.index (.call (.member search "groups") [.arrow ["i"] (.name "i")])
        (.literal (.int 0))) "frame") "text"⟩
    ofText text .text none = .ok ev ∧ ev.body.mentioned = ["RegExp", "i"] ∧
      ev.body.mentionsBuiltin = false ∧
      (ev.run env (.str "x") [] {}).1 = .ok (.str "x") ∧
      (ev.run env (.str "y") [] {}).1 = .ok (.str "y") ∧
      ¬ SameOutcome (ev.run env (.str "x") [] {}).1 (ev.run env (.str "y") [] {}).1 := by
  intro host env text search ev
  have hread : Expr.read text = .ok ev.body :=
    Expr.read_of_wellFormed (.member (.member (.index (.method (.method (.call (by decide)
      (List.forall_mem_singleton.mpr (.argument (.str _)))) (by decide)
      (List.forall_mem_singleton.mpr (.argument (.str _)))) (by decide)
      (List.forall_mem_singleton.mpr (.arrow (by decide) rfl (.name (by decide)))))
      (.int 0 (by decide))) (by decide)) (by decide)) (by decide +kernel)
  have hev : ofText text .text none = .ok ev := by
    rw [ofText, hread]
    rfl
  have hx : (ev.run env (.str "x") [] {}).1 = .ok (.str "x") :=
    eq_of_outcomeText? (by decide +kernel)
  have hy : (ev.run env (.str "y") [] {}).1 = .ok (.str "y") :=
    eq_of_outcomeText? (by decide +kernel)
  refine ⟨hev, rfl, rfl, hx, hy, fun hsame => ?_⟩
  rw [hx, hy] at hsame
  have hequal : Value.str "x" = .str "y" := hsame.2 rfl
  exact absurd (Value.str.inj hequal) (by decide)

end Evaluator

end Trigger
