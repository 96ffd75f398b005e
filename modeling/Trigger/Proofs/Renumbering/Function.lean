import Trigger.Proofs.Renumbering.Runtime

/-!
# Functions in step

The predicates on texts, the global functions and the tests of record queries look at texts and
numbers of their arguments only, and their results are plain data. So they do the same for
renumbered arguments, whatever was evaluated before. Methods of lists keep two evaluations in step
if the functions that they are given do.
-/

namespace Trigger

variable {d : Nat}

/-- A value without numbers that looks up nothing, whatever evaluations have in common. -/
def Value.IsInert (v : Value) : Prop := ∀ A : Accord, Value.Matched A v v

/-- Plain data are inert. -/
theorem Value.isInert_of_isData {v : Value} (h : v.isData = true) : v.IsInert :=
  fun _ => Value.matched_of_isData h

/-- The values are the same and inert. -/
def SameData (v w : Value) : Prop := v = w ∧ v.IsInert

/-- An evaluation has the same outcome whatever was evaluated before. -/
def Steady {α : Type} (x : Eval α) : Prop := ∀ d, EvalInStep d Eq x x

namespace Steady

variable {α β : Type}

/-- A result without effects. -/
theorem pure (a : α) : Steady (Pure.pure a) := fun _ => EvalInStep.pure rfl

/-- A failure. -/
theorem throw (e : Fault) : Steady (MonadExcept.throw e : Eval α) := fun _ => EvalInStep.throw e

/-- An outcome. -/
theorem ofExcept (x : Except Fault α) : Steady (Eval.ofExcept x) :=
  fun _ => EvalInStep.ofExcept (outcomes_eq_iff.mpr rfl)

/-- A steady evaluation after another one. -/
theorem bind {x : Eval α} {f : α → Eval β} (h : Steady x) (hf : ∀ a, Steady (f a)) :
    Steady (x >>= f) :=
  fun d => EvalInStep.bind (h d) fun a _ hab => hab ▸ hf a d

/-- One of two steady evaluations. -/
theorem ite {c : Prop} [Decidable c] {x y : Eval α} (hx : Steady x) (hy : Steady y) :
    Steady (if c then x else y) := by
  split
  · exact hx
  · exact hy

/-- Data that are made from the result of a steady evaluation. -/
theorem sameData {x : Eval α} (h : Steady x) {f : α → Value} (hf : ∀ a, (f a).isData = true) :
    EvalInStep d SameData (do return f (← x)) (do return f (← x)) :=
  EvalInStep.bind (h d) fun a _ hab => hab ▸ EvalInStep.pure ⟨rfl, Value.isInert_of_isData (hf a)⟩

end Steady

/-! ## Predicates on texts -/

namespace Builtin

/-- Whether a pattern occurs does not depend on earlier evaluations. -/
theorem steady_occurs (text : List Char) (pattern : Value) (modes : String) :
    Steady (occurs text pattern modes) := by
  unfold occurs
  split
  · exact Steady.pure _
  · intro d
    refine EvalInStep.bind (EvalInStep.attempt (EvalInStep.readPattern _ _)) fun x y hxy => ?_
    obtain rfl := outcomes_eq_iff.mp hxy
    split
    · exact EvalInStep.pure rfl
    · exact EvalInStep.bind (EvalInStep.lift (InStep.report _ _)) fun _ _ _ => EvalInStep.pure rfl
    · exact EvalInStep.throw _

/-- The number of occurrences does not depend on earlier evaluations. -/
theorem steady_occurrences (text : List Char) (term : Value) : Steady (occurrences text term) := by
  unfold occurrences
  split
  · exact Steady.pure _
  · exact Steady.bind (fun _ => EvalInStep.wholeWord _) fun _ => Steady.pure _

/-- Whether words are near does not depend on earlier evaluations. -/
theorem steady_areNear (text : List Char) (word other : Value) (reach : Reach) :
    Steady (areNear text word other reach) := by
  refine Steady.bind (fun _ => EvalInStep.wholeWord _) fun _ => ?_
  refine Steady.ite (Steady.pure _) ?_
  exact Steady.bind (fun _ => EvalInStep.wholeWord _) fun _ => Steady.pure _

/-- Whether words follow each other does not depend on earlier evaluations. -/
theorem steady_follows (text : Array Char) (start : Nat) (words : List Value) :
    Steady (follows text start words) := by
  induction words generalizing start with
  | nil => exact Steady.pure _
  | cons word words ih =>
    refine Steady.bind (fun _ => EvalInStep.wholeWord _) fun p => ?_
    split
    · exact Steady.pure _
    · exact ih _

/-- An optional number does not depend on earlier evaluations. -/
theorem steady_numberOr (default : Float) (v : Value) : Steady (numberOr default v) :=
  Steady.ite (Steady.pure _) (Steady.ofExcept _)

/-- An optional reach does not depend on earlier evaluations. -/
theorem steady_reachOr (default : Reach) (v : Value) : Steady (reachOr default v) :=
  Steady.ite (Steady.pure _) (Steady.bind (Steady.ofExcept _) fun _ => Steady.pure _)

/-- Whether there is a similar word does not depend on earlier evaluations. -/
theorem steady_hasSimilarAmong (text : List Char) (threshold : Value) (default : Float)
    (words : List Value) : Steady (hasSimilarAmong text threshold default words) := by
  induction words with
  | nil => exact Steady.pure _
  | cons word words ih =>
    refine Steady.bind (steady_numberOr _ _) fun _ => ?_
    exact Steady.ite (Steady.pure _) ih

/-- The most similar word is a text or nothing. -/
theorem isData_bestMatch (text : List Char) (word : Value) (threshold : Float) :
    (call.bestMatch text word threshold).isData = true := by
  unfold call.bestMatch
  simp only
  split <;> rfl

/-- Whether there is a word similar to one of a list does not depend on earlier evaluations. -/
theorem sameData_similarAmong (settings : BuiltinSettings) (text : List Char)
    (words threshold : Value) : EvalInStep d SameData
      (call.similarAmong settings text words threshold)
      (call.similarAmong settings text words threshold) := by
  unfold call.similarAmong
  split
  · exact (steady_hasSimilarAmong _ _ _ _).sameData fun _ => rfl
  · exact EvalInStep.pure ⟨rfl, Value.isInert_of_isData rfl⟩

/-- A predicate on texts gives data, whatever was evaluated before. -/
theorem sameData_call (settings : BuiltinSettings) (f : Builtin) (args : List Value) :
    EvalInStep d SameData (call settings f args) (call settings f args) := by
  unfold call
  split
  · exact EvalInStep.throw _
  · simp only
    split
    · exact (steady_occurs _ _ _).sameData fun _ => rfl
    · exact (steady_occurs _ _ _).sameData fun _ => rfl
    · exact EvalInStep.pure ⟨rfl, Value.isInert_of_isData rfl⟩
    · exact EvalInStep.pure ⟨rfl, Value.isInert_of_isData rfl⟩
    · exact EvalInStep.pure ⟨rfl, Value.isInert_of_isData rfl⟩
    · exact (steady_occurrences _ _).sameData fun _ => rfl
    · exact (steady_areNear _ _ _ _).sameData fun _ => rfl
    · refine EvalInStep.bind (steady_reachOr _ _ d) fun _ _ hreach => ?_
      obtain rfl := hreach
      exact (steady_areNear _ _ _ _).sameData fun _ => rfl
    · exact (steady_follows _ _ _).sameData fun _ => rfl
    · exact EvalInStep.pure ⟨rfl, Value.isInert_of_isData rfl⟩
    · exact (steady_numberOr _ _).sameData fun _ => rfl
    · exact EvalInStep.pure ⟨rfl, Value.isInert_of_isData (isData_bestMatch _ _ _)⟩
    · exact (steady_numberOr _ _).sameData fun _ => isData_bestMatch _ _ _
    · exact sameData_similarAmong _ _ _ _
    · exact sameData_similarAmong _ _ _ _
    · exact EvalInStep.throw _

/-- A term is in a text whatever its number. -/
theorem hasTerm_renumber (text : List Char) (v : Value) :
    hasTerm text (v.renumber d) = hasTerm text v := by
  have hnullish : (v.renumber d).isNullish = v.isNullish := Value.isNullish_renumber v
  have htext : (v.renumber d).toText = v.toText := Value.toText_renumber v
  cases v with
  | list | map | object | native | query | arrow =>
    simp only [Value.renumber] at hnullish htext ⊢
    simp only [hasTerm, hnullish, htext]
  | _ => rfl

/-- A pattern occurs in a text whatever its number. -/
theorem occurs_renumber (text : List Char) (v : Value) (modes : String) :
    occurs text (v.renumber d) modes = occurs text v modes := by
  have htext : (v.renumber d).toText = v.toText := Value.toText_renumber v
  cases v with
  | list | map | object | native | query | arrow =>
    simp only [Value.renumber] at htext ⊢
    simp only [occurs, htext]
  | _ => rfl

/-- A term occurs as often whatever its number. -/
theorem occurrences_renumber (text : List Char) (v : Value) :
    occurrences text (v.renumber d) = occurrences text v := by
  have htext : (v.renumber d).toText = v.toText := Value.toText_renumber v
  cases v with
  | list | map | object | native | query | arrow =>
    simp only [Value.renumber] at htext ⊢
    simp only [occurrences, htext]
  | _ => rfl

/-- Words follow each other whatever their numbers. -/
theorem follows_renumber (text : Array Char) (start : Nat) (words : List Value) :
    follows text start (words.map (Value.renumber d)) = follows text start words := by
  induction words generalizing start with
  | nil => rfl
  | cons word words ih => simp only [List.map_cons, follows, Value.toText_renumber, ih]

/-- An optional number does not depend on numbers of functions. -/
theorem numberOr_renumber (default : Float) (v : Value) :
    numberOr default (v.renumber d) = numberOr default v := by
  simp only [numberOr, Value.isNullish_renumber, Value.toNumber_renumber]

/-- There is a similar word whatever the numbers of the words. -/
theorem hasSimilarAmong_renumber (text : List Char) (threshold : Value) (default : Float)
    (words : List Value) :
    hasSimilarAmong text (threshold.renumber d) default (words.map (Value.renumber d)) =
      hasSimilarAmong text threshold default words := by
  induction words with
  | nil => rfl
  | cons word words ih =>
    simp only [List.map_cons, hasSimilarAmong, numberOr_renumber, Value.textOrEmpty_renumber, ih]

/-- There is a word similar to one of a list whatever the number of the list. -/
theorem similarAmong_renumber (settings : BuiltinSettings) (text : List Char)
    (words threshold : Value) :
    call.similarAmong settings text (words.renumber d) (threshold.renumber d) =
      call.similarAmong settings text words threshold := by
  cases words with
  | list k words =>
    simp only [Value.renumber, Value.renumberAll_eq_map, call.similarAmong,
      hasSimilarAmong_renumber]
  | _ => rfl

/-- The most similar word does not depend on numbers. -/
theorem bestMatch_renumber (text : List Char) (word : Value) (threshold : Float) :
    call.bestMatch text (word.renumber d) threshold = call.bestMatch text word threshold := by
  simp only [call.bestMatch, Value.textOrEmpty_renumber]

/-- Words are near each other whatever their numbers. -/
theorem areNear_renumber (text : List Char) (word other : Value) (reach : Reach) :
    areNear text (word.renumber d) (other.renumber d) reach = areNear text word other reach := by
  simp only [areNear, Value.toText_renumber]

/-- An optional reach does not depend on numbers of functions. -/
theorem reachOr_renumber (default : Reach) (v : Value) :
    reachOr default (v.renumber d) = reachOr default v := by
  simp only [reachOr, Value.isNullish_renumber, Value.toNumber_renumber]

/-- A predicate on texts does not depend on the numbers of its arguments. -/
theorem call_renumber (settings : BuiltinSettings) (f : Builtin) (args : List Value) :
    call settings f (args.map (Value.renumber d)) = call settings f args := by
  have hterm (text : List Char) : hasTerm text ∘ Value.renumber d = hasTerm text :=
    funext fun v => hasTerm_renumber text v
  cases args with
  | nil => rfl
  | cons text args =>
    rw [List.map_cons]
    cases f with
    | any | all | none =>
      simp only [call, Value.textOrEmpty_renumber, List.any_map, List.all_map, hterm]
    | sequence => simp only [call, Value.textOrEmpty_renumber, follows_renumber]
    | fuzzyAny =>
      have hall (words : Value) :
          call.similarAmong settings text.textOrEmpty.toList (words.renumber d) .null =
            call.similarAmong settings text.textOrEmpty.toList words .null :=
        similarAmong_renumber settings _ words .null
      rcases args with _ | ⟨words, _ | ⟨threshold, _ | ⟨_, _⟩⟩⟩ <;>
        simp only [List.map_nil, List.map_cons, call, Value.textOrEmpty_renumber, hall,
          similarAmong_renumber]
    | regex | count | near | fuzzy | fuzzyFind =>
      rcases args with _ | ⟨first, _ | ⟨second, _ | ⟨third, _ | ⟨_, _⟩⟩⟩⟩ <;>
        simp only [List.map_nil, List.map_cons, call, Value.textOrEmpty_renumber, occurs_renumber,
          occurrences_renumber, areNear_renumber, reachOr_renumber, numberOr_renumber,
          bestMatch_renumber]

end Builtin

/-! ## Global functions -/

namespace GlobalFunction

/-- The number of an argument does not depend on its number as a function. -/
theorem number_renumber : call.number ∘ Value.renumber d = call.number := by
  funext v
  simp only [Function.comp, call.number, Value.toNumber_renumber]

/-- A global function does not depend on the numbers of its arguments. -/
theorem call_renumber (f : GlobalFunction) (args : List Value) :
    call f (args.map (Value.renumber d)) = call f args := by
  have hnumber (v : Value) : call.number (v.renumber d) = call.number v :=
    congrFun number_renumber v
  cases f with
  | min | max => simp only [call, List.mapM_map, number_renumber]
  | _ =>
    rcases args with _ | ⟨first, _ | ⟨second, _ | ⟨_, _⟩⟩⟩ <;>
      simp only [List.map_nil, List.map_cons, call, Value.toText_renumber,
        Value.textOrEmpty_renumber, Value.isTruthy_renumber, hnumber]

/-- The numbers of arguments do not depend on earlier evaluations. -/
theorem steady_numbers (args : List Value) : Steady (args.mapM call.number) := by
  induction args with
  | nil => exact Steady.pure _
  | cons v args ih =>
    rw [List.mapM_cons]
    exact Steady.bind (Steady.ofExcept _) fun _ => Steady.bind ih fun _ => Steady.pure _

/-- A power is a number, plain or complex. -/
theorem sameData_power (x y : Float) : Outcomes SameData (power x y) (power x y) := by
  have hcomplex (re im : Float) : (complex re im).IsInert :=
    fun _ => ⟨rfl, trivial, trivial, trivial⟩
  unfold power complexPower
  split
  · rfl
  · split
    · dsimp only
      split
      · rfl
      · exact ⟨rfl, hcomplex _ _⟩
    · dsimp only
      split
      · rfl
      · exact ⟨rfl, Value.isInert_of_isData rfl⟩

/-- A global function gives an inert value, whatever was evaluated before. -/
theorem sameData_call (f : GlobalFunction) (args : List Value) :
    EvalInStep d SameData (call f args) (call f args) := by
  have hnumber (v : Value) : Steady (call.number v) := Steady.ofExcept _
  have hrounded (rounding : Float → Int) (v : Value) : EvalInStep d SameData
      (do return .int (← Eval.ofExcept (rounded rounding (← call.number v))))
      (do return .int (← Eval.ofExcept (rounded rounding (← call.number v)))) := by
    refine EvalInStep.bind (hnumber v d) fun _ _ hx => ?_
    obtain rfl := hx
    exact (Steady.ofExcept _).sameData fun _ => rfl
  unfold call
  split
  · exact (hnumber _).sameData fun _ => rfl
  · exact EvalInStep.pure ⟨rfl, Value.isInert_of_isData rfl⟩
  · exact EvalInStep.pure ⟨rfl, Value.isInert_of_isData rfl⟩
  · exact Steady.sameData (fun _ => EvalInStep.readPattern _ _) fun _ => rfl
  · exact Steady.sameData (fun _ => EvalInStep.readPattern _ _) fun _ => rfl
  · exact (hnumber _).sameData fun _ => rfl
  · exact (steady_numbers _).sameData fun _ => rfl
  · exact (steady_numbers _).sameData fun _ => rfl
  · exact hrounded _ _
  · exact hrounded _ _
  · refine EvalInStep.bind (hnumber _ d) fun _ _ hx => ?_
    obtain rfl := hx
    exact (Steady.ofExcept _).sameData fun _ => rfl
  · exact (hnumber _).sameData fun _ => rfl
  · refine EvalInStep.bind (hnumber _ d) fun _ _ hx => ?_
    obtain rfl := hx
    refine EvalInStep.bind (hnumber _ d) fun _ _ hy => ?_
    obtain rfl := hy
    exact EvalInStep.ofExcept (sameData_power _ _)
  · exact EvalInStep.throw _

end GlobalFunction

/-! ## Tests of record queries -/

namespace QueryOperator

/-- Whether a pattern occurs in a field does not depend on earlier evaluations. -/
theorem steady_occurs (fieldValue value : Value) : Steady (occurs fieldValue value) := by
  unfold occurs
  refine Steady.ite (Steady.pure _) ?_
  dsimp only
  split
  · exact Steady.pure _
  · exact Steady.bind (fun _ => EvalInStep.readPattern _ _) fun _ => Steady.pure _

/-- A test does not depend on earlier evaluations. -/
theorem steady_test (language : Language) (op : QueryOperator) (fieldValue value : Value) :
    Steady (op.test language fieldValue value) := by
  cases op with
  | contains | includes | startsWith | endsWith => exact Steady.pure _
  | «matches» | regex => exact steady_occurs _ _
  | equals | gt | lt | gte | lte | other => exact Steady.ofExcept _

/-- A test does not depend on the numbers of its operands. -/
theorem test_renumber {language : Language} (hlanguage : language.IgnoresNumbers d)
    (op : QueryOperator) (v w : Value) :
    op.test language (v.renumber d) (w.renumber d) = op.test language v w := by
  have hnumbers (relation : Float → Float → Bool) :
      compareNumbers relation (v.renumber d) (w.renumber d) = compareNumbers relation v w := by
    simp only [compareNumbers, Value.isNullish_renumber, Value.toNumber_renumber]
  have htexts (relation : List Char → List Char → Bool) :
      compareTexts relation (v.renumber d) (w.renumber d) = compareTexts relation v w := by
    simp only [compareTexts, Value.isNullish_renumber, Value.toText_renumber]
  have hoccurs : occurs (v.renumber d) (w.renumber d) = occurs v w := by
    have hnullish : (w.renumber d).isNullish = w.isNullish := Value.isNullish_renumber w
    have htext : (w.renumber d).toText = w.toText := Value.toText_renumber w
    unfold occurs
    rw [Value.isNullish_renumber, Value.toText_renumber]
    cases w with
    | list | map | object | native | query | arrow =>
      simp only [Value.renumber] at hnullish htext ⊢
      simp only [hnullish, htext]
    | _ => rfl
  cases op <;> simp only [test, hnumbers, htexts, hoccurs,
    Value.looseEquals_renumber hlanguage]

end QueryOperator

section

variable {A : Accord} {rt rt' : Runtime} (hrt : RuntimesAgree A rt rt')

include hrt

/-- A field has the same answer whatever was evaluated before. -/
theorem answers_inStep (fieldValue value : Value) (field : String) (op : QueryOperator) :
    InStep A.distance Eq (fieldValue.answers rt field op value)
      ((fieldValue.renumber A.distance).answers rt' field op (value.renumber A.distance)) := by
  unfold Value.answers
  rw [hrt.language, QueryOperator.test_renumber hrt.keeps.numbers]
  refine InStep.bind (QueryOperator.steady_test _ op fieldValue value A.distance) fun x y hxy => ?_
  obtain rfl := outcomes_eq_iff.mp hxy
  cases x with
  | ok answer => exact InStep.pure rfl
  | error e => exact InStep.bind (InStep.report _ _) fun _ _ _ => InStep.pure rfl

/-- A query has the same answer for two records in which its path leads to matching values. -/
theorem passes_inStep {record record' : Value} {field : String} (op : QueryOperator) (value : Value)
    (hscalar : record.isScalar = record'.isScalar)
    (hpath : record'.resolvePath rt' field = (record.resolvePath rt field).renumber A.distance) :
    InStep A.distance Eq (record.passes rt field op value)
      (record'.passes rt' field op (value.renumber A.distance)) := by
  unfold Value.passes
  rw [hscalar, hpath]
  split
  · exact InStep.pure rfl
  · cases record.resolvePath rt field with
    | undefined => exact InStep.pure rfl
    | _ => exact answers_inStep hrt _ value field op

end

end Trigger
