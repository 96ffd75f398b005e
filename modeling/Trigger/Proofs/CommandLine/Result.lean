import Trigger.CommandLine.Run
import Trigger.Config.Standard
import Trigger.Proofs.Json.Undefined
import Trigger.Proofs.Session.Validity

/-!
# Printed results

The result of a run is printed as one line of JSON. An undefined result is printed as null, but
undefined within a list or a mapping as the string that describes it. So the result is read back
from the line, with null for undefined, exactly if no undefined stands within it.
-/

namespace Trigger.CommandLine

variable {language : Language} {library : SchemaLibrary} {files : Files} {words : List String}
variable {args : Arguments} {engine : Engine} {v : Value}

/-! ## The result of a run -/

/-- The result of an expression about a text is the value of what is read, where the namespaces of
the run are added to those of the engine. -/
theorem result_of_read {base : Engine} {body : Expr} {text : String} {state info : Fields}
    (hengine : base.Agree engine engine) (hread : Expr.read args.expression = .ok body)
    (hrecord : args.record = none) (htext : textOf files args = .ok text)
    (hstate : binding "state" args.state = .ok state)
    (hinfo : binding "info" args.info = .ok info) :
    let bindings := engine.bindings.update (state ++ info)
    let evaluator : Evaluator := ⟨args.expression, .text, none, body⟩
    let env := { engine with bindings }.environment (noHost language)
    result language files args engine = .ok ((evaluator.call env (.str text)).run {}).1 := by
  intro bindings evaluator env
  have hs : Session.Sound base { engine := { engine with bindings }, effects := {} } :=
    ⟨hengine.withBindings bindings, fun _ h => absurd h List.not_mem_nil⟩
  have hevaluation : evaluation language files args =
      .ok (Engine.evaluateText (noHost language) args.expression (.str text) []) := by
    rw [evaluation, hrecord]
    change textOf files args >>= _ = _
    rw [htext]
    rfl
  rw [← hs.compute_evaluateText hread, result, hstate, hinfo, hevaluation]
  rfl

/-- Where there is no configuration, the engine of a run has the settings that are there without
one. -/
theorem engineOf_of_no_config (hconfig : files.lookup args.config = none)
    (hnew : Engine.ofOptions {} = .ok engine) : engineOf library files args = .ok engine := by
  rw [engineOf, hconfig]
  dsimp only
  rw [hnew]

/-! ## The line of a result -/

/-- The value that is written for a result. -/
def written : Value → Value
  | .undefined => .null
  | v => v

/-- Only undefined is not written as it is. -/
theorem written_of_ne (hv : v ≠ .undefined) : written v = v := by
  unfold written
  split
  · exact absurd rfl hv
  · rfl

/-- The line for a result, before its end. -/
def line (v : Value) : String := String.ofList (Json.write .spaced (written v))

/-- A result is printed as its line. -/
theorem resultLine_eq (v : Value) : resultLine v = line v ++ "\n" := by
  have hwritten : resultLine v = String.ofList (Json.write .spaced (written v) ++ ['\n']) := by
    cases v <;> rfl
  rw [hwritten, String.ofList_append]
  rfl

/-- A run that gets to a result prints its line. -/
theorem run_of_result (hwords : Arguments.ofWords words = .ok args) (hcheck : args.check = false)
    (hengine : engineOf library files args = .ok engine)
    (hresult : result language files args engine = .ok v) :
    run language library files words = .exit 0 (line v ++ "\n") := by
  have houtcome : outcome language library files args = .ok (.exit 0 (resultLine v)) := by
    rw [outcome, hengine]
    change (if args.check = true then _ else _) = _
    rw [hcheck, if_neg Bool.false_ne_true, hresult]
    rfl
  rw [run, hwords]
  change runArguments language library files args = _
  rw [runArguments, houtcome, resultLine_eq]

/-- The line for a result has printable characters only. -/
theorem isLine_line (v : Value) : Json.IsLine (line v).toList := by
  rw [line, String.toList_ofList]
  exact Json.isLine_write (by simp [Json.IsLine, Json.Style.spaced])
    (by simp [Json.IsLine, Json.Style.spaced]) _

/-- The line for a result is read as what was written, with a string for undefined. -/
theorem read?_line (hv : v.isSimple = true) :
    Json.read? (line v) = some (Value.fillUndefined Json.undefinedText (written v)) := by
  have hwritten : (written v).isSimple = true := by
    cases v <;> exact hv
  rw [line, Json.read?_write Json.isSpaced_spaced, Json.decoded_of_isSimple _ hwritten]

/-- What is written has null for undefined exactly if the result is undefined itself or undefined
does not stand in it. -/
theorem fillUndefined_written_iff (v : Value) :
    Value.fillUndefined Json.undefinedText (written v) = Value.fillUndefined .null v ↔
      v = .undefined ∨ v.holdsUndefined = false := by
  by_cases hv : v = .undefined
  · subst hv
    exact iff_of_true rfl (.inl rfl)
  · have hdiffer : Json.undefinedText ≠ .null := by simp [Json.undefinedText]
    rw [written_of_ne hv, Value.fillUndefined_eq_iff, or_iff_right hdiffer, or_iff_right hv]

/-- A run that gets to a result made of null, undefined, truth values, integers and strings, in
lists and mappings, prints one line of JSON. The line is read as the result with null for undefined
exactly if the result is undefined itself or undefined does not stand in it. Undefined within a list
or a mapping is read as a string. -/
theorem printed_result_iff (hwords : Arguments.ofWords words = .ok args)
    (hcheck : args.check = false) (hengine : engineOf library files args = .ok engine)
    (hresult : result language files args engine = .ok v) (hv : v.isSimple = true) :
    ∃ line w, run language library files words = .exit 0 (line ++ "\n") ∧
      (∀ c ∈ line.toList, ' ' ≤ c ∧ c ≤ '~') ∧ Json.read? line = some w ∧
      (w = Value.fillUndefined .null v ↔ v = .undefined ∨ v.holdsUndefined = false) ∧
      (v ≠ .undefined → w = Value.fillUndefined (.str "undefined") v) := by
  refine ⟨line v, _, run_of_result hwords hcheck hengine hresult, isLine_line v, read?_line hv,
    fillUndefined_written_iff v, fun hne => ?_⟩
  rw [written_of_ne hne]
  rfl

/-- A list with a mapping from the command line and a quote. -/
theorem printed_result_iff_of_state :
    let words := ["[ state , \"\\\"\" ]", "--state", "\x7b\"a\": [null, -1]\x7d"]
    let args : Arguments :=
      { expression := "[ state , \"\\\"\" ]", text := none, textFile := none, record := none,
        state := some "\x7b\"a\": [null, -1]\x7d", info := none, config := defaultConfig,
        check := false }
    let state := Value.map [("a", .ofList [.null, .int (-1)])]
    let v := Value.ofList [state, .str "\""]
    ∃ engine line, Arguments.ofWords words = .ok args ∧ args.check = false ∧
      engineOf .standard [] args = .ok engine ∧ result .standard [] args engine = .ok v ∧
      v.isSimple = true ∧ v.holdsUndefined = false ∧
      run .standard .standard [] words = .exit 0 (line ++ "\n") ∧ Json.read? line = some v := by
  intro words args state v
  obtain ⟨engine, hnew⟩ : ∃ e, Engine.ofOptions {} = .ok e := ⟨_, rfl⟩
  have hwords : Arguments.ofWords words = .ok args := by decide +kernel
  have hengine : engineOf .standard [] args = .ok engine := engineOf_of_no_config rfl hnew
  have hread : Expr.read args.expression =
      .ok (.list [.name "state", .literal (.str "\"")]) := by
    refine Expr.read_of_wellFormed (.list ?_) (by decide +kernel)
    exact List.forall_mem_cons.mpr ⟨.name (by decide), List.forall_mem_singleton.mpr (.str _)⟩
  have hstate : binding "state" args.state = .ok [("state", state)] := by
    have hjson := Json.read?_write Json.isSpaced_spaced state
    have htext : String.ofList (Json.write .spaced state) = "\x7b\"a\": [null, -1]\x7d" := by
      decide +kernel
    rw [htext] at hjson
    rw [binding, jsonValue, hjson]
    rfl
  have hresult : result .standard [] args engine = .ok v := by
    rw [result_of_read (Session.sound_of_ofOptions hnew {}).engine hread rfl rfl hstate rfl]
    cases hnew
    rfl
  obtain ⟨line, w, hrun, -, hline, hnull, -⟩ :=
    printed_result_iff hwords rfl hengine hresult rfl
  exact ⟨engine, line, hwords, rfl, hengine, hresult, rfl, rfl, hrun,
    hline.trans (congrArg some (hnull.mpr (.inr rfl)))⟩

/-- A list with an undefined item is printed with a string in its place, not with null. -/
theorem undefined_item_is_printed_as_string :
    let words := ["[ nothing ]", "--text", ""]
    let args : Arguments :=
      { expression := "[ nothing ]", text := some "", textFile := none, record := none,
        state := none, info := none, config := defaultConfig, check := false }
    ∃ engine line, Arguments.ofWords words = .ok args ∧ engineOf .standard [] args = .ok engine ∧
      result .standard [] args engine = .ok (.ofList [.undefined]) ∧
      run .standard .standard [] words = .exit 0 (line ++ "\n") ∧ line = "[\"undefined\"]" ∧
      Json.read? line = some (.ofList [.str "undefined"]) ∧
      Json.read? line ≠ some (Value.fillUndefined .null (.ofList [.undefined])) := by
  intro words args
  obtain ⟨engine, hnew⟩ : ∃ e, Engine.ofOptions {} = .ok e := ⟨_, rfl⟩
  have hwords : Arguments.ofWords words = .ok args := by decide +kernel
  have hengine : engineOf .standard [] args = .ok engine := engineOf_of_no_config rfl hnew
  have hread : Expr.read args.expression = .ok (.list [.name "nothing"]) := by
    refine Expr.read_of_wellFormed (.list ?_) (by decide +kernel)
    exact List.forall_mem_singleton.mpr (.name (by decide))
  have hresult : result .standard [] args engine = .ok (.ofList [.undefined]) := by
    rw [result_of_read (Session.sound_of_ofOptions hnew {}).engine hread rfl rfl rfl rfl]
    cases hnew
    rfl
  have hline : Json.read? (line (.ofList [.undefined])) = some (.ofList [.str "undefined"]) :=
    read?_line rfl
  refine ⟨engine, _, hwords, hengine, hresult, run_of_result hwords rfl hengine hresult,
    by decide +kernel, hline, ?_⟩
  rw [hline]
  simp [Value.ofList, Value.fillUndefined, Value.fillUndefinedAll]

end Trigger.CommandLine
