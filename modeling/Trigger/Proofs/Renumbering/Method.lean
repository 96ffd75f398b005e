import Trigger.Proofs.Renumbering.Function

/-!
# Methods in step

Methods of lists call the functions they are given on one item after the other. If the functions
are in step on matching arguments, so are the methods, and their results match. Methods of strings
and mappings do not call functions. The same goes for functions of the language.
-/

namespace Trigger

variable {A : Accord}

/-- Ways to call functions that give matching results for matching arguments. -/
def CallsInStep (A : Accord) (apply apply' : Value → List Value → Eval Value) : Prop :=
  ∀ f args, f.Within A → Value.AllWithin A args →
    EvalInStep A.distance (Value.Matched A) (apply f args)
      (apply' (f.renumber A.distance) (args.map (Value.renumber A.distance)))

/-- Results that are the same inert values match. -/
theorem EvalInStep.matched {x y : Eval Value} (h : EvalInStep A.distance SameData x y) :
    EvalInStep A.distance (Value.Matched A) x y := by
  refine EvalInStep.mono (fun v w hvw => ?_) h
  obtain ⟨rfl, hinert⟩ := hvw
  exact hinert A

/-! ## Lists -/

namespace ListMethod

variable {f g : Value → Eval Value}

/-- Functions on single values that give matching results for matching arguments. -/
def MapsInStep (A : Accord) (f g : Value → Eval Value) : Prop :=
  ∀ v, v.Within A → EvalInStep A.distance (Value.Matched A) (f v) (g (v.renumber A.distance))

/-- What is found in matching lists matches. -/
theorem findItem_inStep (h : MapsInStep A f g) {items : List Value}
    (hitems : Value.AllWithin A items) :
    EvalInStep A.distance
      (fun a b => b = a.map (Value.renumber A.distance) ∧ ∀ v, a = Option.some v → v.Within A)
      (findItem f items) (findItem g (items.map (Value.renumber A.distance))) := by
  induction items with
  | nil => exact EvalInStep.pure ⟨rfl, fun v hv => by cases hv⟩
  | cons v items ih =>
    refine EvalInStep.bind (h v hitems.1) fun a b hab => ?_
    obtain ⟨rfl, -⟩ := hab
    rw [Value.isTruthy_renumber]
    split
    · refine EvalInStep.pure ⟨rfl, fun w hw => ?_⟩
      obtain rfl := Option.some.inj hw
      exact hitems.1
    · exact ih hitems.2

/-- A function is true of all items of one list if it is of a matching one. -/
theorem everyItem_inStep (h : MapsInStep A f g) {items : List Value}
    (hitems : Value.AllWithin A items) :
    EvalInStep A.distance Eq (everyItem f items)
      (everyItem g (items.map (Value.renumber A.distance))) := by
  induction items with
  | nil => exact EvalInStep.pure rfl
  | cons v items ih =>
    refine EvalInStep.bind (h v hitems.1) fun a b hab => ?_
    obtain ⟨rfl, -⟩ := hab
    rw [Value.isTruthy_renumber]
    split
    · exact ih hitems.2
    · exact EvalInStep.pure rfl

/-- The items of matching lists for which a function is true match. -/
theorem filterItems_inStep (h : MapsInStep A f g) {items : List Value}
    (hitems : Value.AllWithin A items) :
    EvalInStep A.distance (Value.AllMatched A) (filterItems f items)
      (filterItems g (items.map (Value.renumber A.distance))) := by
  induction items with
  | nil => exact EvalInStep.pure ⟨rfl, trivial⟩
  | cons v items ih =>
    refine EvalInStep.bind (h v hitems.1) fun a b hab => ?_
    obtain ⟨rfl, -⟩ := hab
    refine EvalInStep.bind (ih hitems.2) fun kept kept' hkept => ?_
    rw [Value.isTruthy_renumber]
    refine EvalInStep.pure ?_
    split
    · exact Value.allMatched_cons ⟨rfl, hitems.1⟩ hkept
    · exact hkept

/-- What a function gives for the items of matching lists matches. -/
theorem mapItems_inStep (h : MapsInStep A f g) {items : List Value}
    (hitems : Value.AllWithin A items) :
    EvalInStep A.distance (Value.AllMatched A) (mapItems f items)
      (mapItems g (items.map (Value.renumber A.distance))) := by
  induction items with
  | nil => exact EvalInStep.pure ⟨rfl, trivial⟩
  | cons v items ih =>
    refine EvalInStep.bind (h v hitems.1) fun a b hab => ?_
    refine EvalInStep.bind (ih hitems.2) fun vs ws hvs => ?_
    exact EvalInStep.pure (Value.allMatched_cons hab hvs)

end ListMethod

namespace Method

/-- Methods of matching lists give matching results. -/
theorem callList_inStep {language : Language} (hlanguage : language.IgnoresNumbers A.distance)
    {apply apply' : Value → List Value → Eval Value}
    (h : CallsInStep A apply apply') (m : ListMethod) {items args : List Value}
    (hitems : Value.AllWithin A items) (hargs : Value.AllWithin A args) :
    EvalInStep A.distance (Value.Matched A) (callList language apply m items args)
      (callList language apply' m (items.map (Value.renumber A.distance))
        (args.map (Value.renumber A.distance))) := by
  have hunary {f : Value} (hf : f.Within A) : ListMethod.MapsInStep A (unary apply f)
      (unary apply' (f.renumber A.distance)) := fun v hv => h f [v] hf ⟨hv, trivial⟩
  have hjoined (separator : String) :
      ListMethod.joined separator (items.map (Value.renumber A.distance)) =
        ListMethod.joined separator items := by
    rw [ListMethod.joined, ListMethod.joined, ← Value.renumberAll_eq_map, Value.itemTexts_renumber]
  have hsame (v : Value) : (fun w : Value => w.strictEquals language (v.renumber A.distance)) ∘
      Value.renumber A.distance = fun w => w.strictEquals language v :=
    funext fun w => Value.strictEquals_renumber hlanguage w v
  rcases args with _ | ⟨f, _ | ⟨_, _⟩⟩
  · cases m with
    | join =>
      change EvalInStep _ _ _ (pure (Value.str (ListMethod.joined "," (items.map _))))
      rw [hjoined]
      exact EvalInStep.pure (Value.matched_of_isData rfl)
    | _ => exact EvalInStep.throw _
  · have hf := hunary hargs.1
    cases m with
    | some =>
      refine EvalInStep.bind (ListMethod.findItem_inStep hf hitems) fun a b hab => ?_
      obtain ⟨rfl, -⟩ := hab
      rw [Option.isSome_map]
      exact EvalInStep.pure (Value.matched_of_isData rfl)
    | every =>
      refine EvalInStep.bind (ListMethod.everyItem_inStep hf hitems) fun a b hab => ?_
      obtain rfl := hab
      exact EvalInStep.pure (Value.matched_of_isData rfl)
    | filter =>
      refine EvalInStep.bind (ListMethod.filterItems_inStep hf hitems) fun a b hab => ?_
      exact EvalInStep.pure (Value.matched_list hab)
    | map =>
      refine EvalInStep.bind (ListMethod.mapItems_inStep hf hitems) fun a b hab => ?_
      exact EvalInStep.pure (Value.matched_list hab)
    | find =>
      refine EvalInStep.bind (ListMethod.findItem_inStep hf hitems) fun a b hab => ?_
      obtain ⟨rfl, hwithin⟩ := hab
      refine EvalInStep.pure ⟨?_, Value.within_getD hwithin⟩
      cases a <;> rfl
    | includes =>
      change EvalInStep _ _ _ (pure (Value.bool ((items.map _).any _)))
      rw [List.any_map, hsame]
      exact EvalInStep.pure (Value.matched_of_isData rfl)
    | indexOf =>
      change EvalInStep _ _ _ (pure (positionValue ((items.map _).findIdx? _)))
      rw [List.findIdx?_map, hsame]
      refine EvalInStep.pure (Value.matched_of_isData ?_)
      cases ListMethod.position? language f items <;> rfl
    | join =>
      change EvalInStep _ _ _
        (pure (Value.str (ListMethod.joined (f.renumber _).toText (items.map _))))
      rw [hjoined, Value.toText_renumber]
      exact EvalInStep.pure (Value.matched_of_isData rfl)
  · cases m <;> exact EvalInStep.throw _

/-! ## Strings and mappings -/

/-- Values are data one by one. -/
theorem areData_iff {vs : List Value} : Value.areData vs = true ↔ ∀ v ∈ vs, v.isData = true := by
  induction vs with
  | nil => exact ⟨fun _ => List.forall_mem_nil _, fun _ => rfl⟩
  | cons v vs ih => rw [Value.areData, Bool.and_eq_true, List.forall_mem_cons, ih]

/-- Values that are all made as data are data. -/
theorem areData_map {α : Type} {f : α → Value} (hf : ∀ a, (f a).isData = true) (as : List α) :
    Value.areData (as.map f) = true := by
  rw [areData_iff, List.forall_mem_map]
  exact fun a _ => hf a

/-- The pieces of a string are data. -/
theorem areData_pieces (s : String) (separator : Value) :
    Value.areData (StringMethod.pieces s separator) = true := by
  unfold StringMethod.pieces
  split
  · rfl
  · exact areData_map (fun piece => by cases piece <;> rfl) _
  · simp only
    split
    · exact areData_map (fun _ => rfl) _
    · exact areData_map (fun _ => rfl) _

/-- As many pieces of a string as a limit allows are data. -/
theorem areData_piecesUpTo {s : String} {separator limit : Value} {vs : List Value}
    (h : StringMethod.piecesUpTo s separator limit = .ok vs) : Value.areData vs = true := by
  have hpieces := areData_iff.mp (areData_pieces s separator)
  unfold StringMethod.piecesUpTo at h
  split at h
  · obtain rfl := Except.ok.inj h
    exact areData_pieces s separator
  · cases hlimit : StringMethod.limitOf limit with
    | error e => rw [hlimit] at h; cases h
    | ok n =>
      rw [hlimit] at h
      obtain rfl := Except.ok.inj h
      rw [areData_iff]
      intro v hv
      unfold StringMethod.upTo at hv
      split at hv
      · exact hpieces v (List.mem_of_mem_take hv)
      · exact hpieces v (List.mem_of_mem_take hv)

/-- A list of pieces is data. -/
theorem isData_ofList_pieces {s : String} {separator limit v : Value}
    (h : (do return .ofList (← StringMethod.piecesUpTo s separator limit)) = Except.ok v) :
    v.isData = true := by
  cases hpieces : StringMethod.piecesUpTo s separator limit with
  | error e => rw [hpieces] at h; cases h
  | ok vs =>
    rw [hpieces] at h
    obtain rfl := Except.ok.inj h
    exact areData_piecesUpTo hpieces

/-- A method of a string gives data. -/
theorem isData_of_callString {m : StringMethod} {s : String} {args : List Value} {v : Value}
    (h : callString m s args = .ok v) : v.isData = true := by
  unfold callString at h
  split at h
  case h_7 => 
    obtain rfl := Except.ok.inj h
    cases Text.find? _ s.toList <;> rfl
  case h_8 | h_9 | h_10 => exact isData_ofList_pieces h
  case h_11 => cases h
  all_goals
    obtain rfl := Except.ok.inj h
    rfl

/-- A method of a string does not depend on the numbers of its arguments. -/
theorem callString_renumber {d : Nat} (m : StringMethod) (s : String) (args : List Value) :
    callString m s (args.map (Value.renumber d)) = callString m s args := by
  have hpieces (v : Value) : StringMethod.pieces s (v.renumber d) = StringMethod.pieces s v := by
    have htext : (v.renumber d).toText = v.toText := Value.toText_renumber v
    cases v with
    | list | map | object | native | query | arrow =>
      simp only [Value.renumber] at htext ⊢
      simp only [StringMethod.pieces, htext]
    | _ => rfl
  have hlimit (v w : Value) : StringMethod.piecesUpTo s (v.renumber d) (w.renumber d) =
      StringMethod.piecesUpTo s v w := by
    have hnumber : (w.renumber d).toNumber = w.toNumber := Value.toNumber_renumber w
    unfold StringMethod.piecesUpTo StringMethod.limitOf
    rw [hpieces]
    cases w with
    | list | map | object | native | query | arrow =>
      simp only [Value.renumber] at hnumber ⊢
      simp only [hnumber]
    | _ => rfl
  have hall (v : Value) : StringMethod.piecesUpTo s (v.renumber d) .undefined =
      StringMethod.piecesUpTo s v .undefined := hlimit v .undefined
  rcases args with _ | ⟨first, _ | ⟨second, _ | ⟨_, _⟩⟩⟩ <;> cases m <;>
    simp only [List.map_nil, List.map_cons, callString, Value.toText_renumber, hlimit, hall]

/-- Methods of matching mappings give matching results. -/
theorem callMap_matched (m : MapMethod) {entries : Fields} {args : List Value}
    (hentries : Value.FieldsWithin A entries) (hargs : Value.AllWithin A args) :
    Outcomes (Value.Matched A) (callMap m entries args)
      (callMap m (Value.renumberFields A.distance entries)
        (args.map (Value.renumber A.distance))) := by
  cases m with
  | keys =>
    rcases args with _ | ⟨_, _⟩
    · have hkeys : (Value.renumberFields A.distance entries).map (fun entry => Value.str entry.1) =
          entries.map fun entry => Value.str entry.1 := by
        rw [Value.renumberFields_eq_map, List.map_map]
        rfl
      change Value.Matched A _ (.ofList ((Value.renumberFields A.distance entries).map _))
      rw [hkeys]
      exact Value.matched_of_isData (areData_map (fun _ => rfl) _)
    · rfl
  | values =>
    rcases args with _ | ⟨_, _⟩
    · refine Value.matched_list ⟨?_, ?_⟩
      · rw [Value.renumberFields_eq_map, List.map_map, List.map_map]
        rfl
      · rw [Value.allWithin_iff, List.forall_mem_map]
        exact Value.fieldsWithin_iff.mp hentries
    · rfl
  | has =>
    rcases args with _ | ⟨key, _ | ⟨_, _⟩⟩
    · rfl
    · have hother : Outcomes (Value.Matched A)
          (if key.isHashable then .ok (.bool false) else .error .unhashableKey)
          (if (key.renumber A.distance).isHashable then .ok (.bool false)
            else .error .unhashableKey) := by
        rw [Value.isHashable_renumber]
        split
        · exact Value.matched_of_isData rfl
        · rfl
      cases key with
      | str k =>
        change Value.Matched A (.bool (entries.lookup k).isSome)
          (.bool ((Value.renumberFields A.distance entries).lookup k).isSome)
        rw [Value.lookup_renumberFields, Option.isSome_map]
        exact Value.matched_of_isData rfl
      | _ => exact hother
    · cases key <;> rfl

/-! ## All methods -/

/-- Methods of matching values give matching results. -/
theorem call_inStep {language : Language} (hlanguage : language.IgnoresNumbers A.distance)
    {apply apply' : Value → List Value → Eval Value}
    (h : CallsInStep A apply apply') {m : Method} {args : List Value} (hm : m.Within A)
    (hargs : Value.AllWithin A args) :
    EvalInStep A.distance (Value.Matched A) (m.call language apply args)
      ((m.renumber A.distance).call language apply' (args.map (Value.renumber A.distance))) := by
  cases m with
  | onList m items => exact callList_inStep hlanguage h m hm hargs
  | onString m s =>
    refine EvalInStep.ofExcept ?_
    rw [callString_renumber]
    cases hcall : callString m s args with
    | ok v => exact Value.matched_of_isData (isData_of_callString hcall)
    | error e => rfl
  | onMap m entries => exact EvalInStep.ofExcept (callMap_matched m hm hargs)
  | member f => exact h f args hm hargs

end Method

/-! ## Functions of the language -/

/-- Functions of the language that are in step give matching results, if the functions that they call
do. -/
theorem Script.InStep.run {apply apply' : Value → List Value → Eval Value}
    (h : CallsInStep A apply apply') {s s' : Script} (hs : Script.InStep A s s') :
    EvalInStep A.distance (Value.Matched A) (s.run apply) (s'.run apply') := by
  induction hs with
  | done houtcome => exact EvalInStep.ofExcept houtcome
  | ask hf hargs _ ih =>
    refine EvalInStep.bind (h _ _ hf hargs) fun v w hvw => ?_
    obtain ⟨rfl, hv⟩ := hvw
    exact ih v hv

end Trigger
