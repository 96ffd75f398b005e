import Trigger.Proofs.Renumbering.Runtime
import Trigger.Value.Standard

/-!
# The standard language is uniform

The methods of numbers and patterns look at data only. The methods of what a pattern finds pass on the
items that it holds and a default value, whatever they are. So matching values have matching
attributes, and a call with matching arguments has matching results.
-/

namespace Trigger

namespace Language

variable {A : Accord}

/-! ## Attributes -/

/-- The attributes of values that are data do not depend on numbers. -/
theorem dataAttribute_matched (v : Value) (name : String) :
    Option.Rel (Value.Matched A) (dataAttribute v name)
      (dataAttribute (v.renumber A.distance) name) := by
  have hsame : dataAttribute (v.renumber A.distance) name = dataAttribute v name := by
    cases v <;> rfl
  rw [hsame]
  cases hfound : dataAttribute v name with
  | none => exact .none
  | some u =>
    have hdata : u.isData = true := by
      unfold dataAttribute integerPart at hfound
      split at hfound <;> grind [Value.isData]
    exact .some (Value.matched_of_isData hdata)

/-- Matching values have methods of the same names. -/
theorem methodNames_renumber (d : Nat) (v : Value) :
    methodNames (v.renumber d) = methodNames v := by
  cases v <;> rfl

/-- The attributes of matching values match. -/
theorem standardAttribute_matched {v : Value} (h : v.Within A) (name : String) :
    Option.Rel (Value.Matched A) (standardAttribute v name)
      (standardAttribute (v.renumber A.distance) name) := by
  refine Value.or_matched (dataAttribute_matched v name) ?_
  rw [methodNames_renumber]
  split
  · exact .some ⟨rfl, h, trivial, trivial⟩
  · exact .none

/-! ## Calls -/

/-- The results are data. -/
theorem outcomes_matched_of_isData {x : Except Fault Value}
    (h : ∀ v, x = .ok v → v.isData = true) : Outcomes (Value.Matched A) x x := by
  cases x with
  | ok v => exact Value.matched_of_isData (h v rfl)
  | error e => rfl

/-- The items of matching parts match. -/
theorem itemsOf_matched {parts : Fields} (h : Value.FieldsWithin A parts) (name : String) :
    Value.AllMatched A (itemsOf parts name)
      (itemsOf (Value.renumberFields A.distance parts) name) := by
  unfold itemsOf
  rw [Value.lookup_renumberFields]
  cases hfound : parts.lookup name with
  | none => exact ⟨rfl, trivial⟩
  | some v =>
    have hv := Value.within_of_lookup h hfound
    cases v with
    | list k items => exact ⟨Value.renumberAll_eq_map items, hv⟩
    | _ => exact ⟨rfl, trivial⟩

/-- There is no group for more than one argument. -/
theorem groupItem_of_two (items : List Value) (v w : Value) (rest : List Value) :
    groupItem items (v :: w :: rest) = .error .wrongArguments := by
  simp [groupItem]

/-- The items of groups match. -/
theorem groupItem_matched {items items' : List Value} (h : Value.AllMatched A items items')
    (args : List Value) :
    Outcomes (Value.Matched A) (groupItem items args)
      (groupItem items' (args.map (Value.renumber A.distance))) := by
  obtain ⟨rfl, hitems⟩ := h
  have hat (i : Int) : Outcomes (Value.Matched A) (groupItem items [.int i])
      (groupItem (items.map (Value.renumber A.distance)) [.int i]) := by
    simp only [groupItem, Value.atPosition_map]
    cases hfound : Value.atPosition items i with
    | none => rfl
    | some v => exact ⟨rfl, Value.allWithin_iff.mp hitems v (Value.mem_of_atPosition hfound)⟩
  -- without an argument the group is the whole match
  rcases args with _ | ⟨v, _ | ⟨w, rest⟩⟩
  · exact hat 0
  · cases v with
    | int i => exact hat i
    | _ => rfl
  · rw [List.map_cons, List.map_cons, groupItem_of_two, groupItem_of_two]
    rfl

/-- The items of pairs match. -/
theorem pairItem_matched {v w : Value} (h : Value.Matched A v w) (second : Bool) :
    Value.Matched A (pairItem second v) (pairItem second w) := by
  obtain ⟨rfl, hv⟩ := h
  cases v with
  | list k items =>
    match items with
    | [a, b] =>
      cases second with
      | true => exact ⟨rfl, hv.2.1⟩
      | false => exact ⟨rfl, hv.1⟩
    | [] | [_] | _ :: _ :: _ :: _ => exact ⟨rfl, hv⟩
  | _ => exact ⟨rfl, hv⟩

/-- Results that are made from matching results. -/
theorem outcomes_map {x y : Except Fault Value} (h : Outcomes (Value.Matched A) x y)
    {f : Value → Value} (hf : ∀ v w, Value.Matched A v w → Value.Matched A (f v) (f w)) :
    Outcomes (Value.Matched A) (x.map f) (y.map f) := by
  cases x with
  | ok v =>
    cases y with
    | ok w => exact hf v w h
    | error e => exact h.elim
  | error e =>
    cases y with
    | ok w => exact h.elim
    | error e' => exact h

/-- The texts of groups match, with matching default values for those that are missing. -/
theorem withDefault_matched {items items' : List Value} (h : Value.AllMatched A items items')
    {default default' : Value} (hdefault : Value.Matched A default default') :
    Value.Matched A
      (.list .tuple (items.map fun v => if v.isNullish then default else v))
      (.list .tuple (items'.map fun v => if v.isNullish then default' else v)) := by
  obtain ⟨rfl, hitems⟩ := h
  obtain ⟨rfl, hdefault⟩ := hdefault
  refine ⟨?_, Value.allWithin_iff.mpr fun u hu => ?_⟩
  · rw [Value.renumber, Value.renumberAll_eq_map, List.map_map, List.map_map]
    congr 1
    refine List.map_congr_left fun v _ => ?_
    simp only [Function.comp_apply, Value.isNullish_renumber]
    split <;> rfl
  · obtain ⟨v, hv, rfl⟩ := List.mem_map.mp hu
    split
    · exact hdefault
    · exact Value.allWithin_iff.mp hitems v hv

/-- The items behind the first one of matching ones match. -/
theorem allMatched_tail {items items' : List Value} (h : Value.AllMatched A items items') :
    Value.AllMatched A items.tail items'.tail := by
  obtain ⟨rfl, hitems⟩ := h
  cases items with
  | nil => exact ⟨rfl, trivial⟩
  | cons v items => exact ⟨rfl, hitems.2⟩

/-- The methods of what patterns find match. -/
theorem callFound_matched {parts : Fields} (h : Value.FieldsWithin A parts) (name : String)
    {args : List Value} (hargs : Value.AllWithin A args) :
    Outcomes (Value.Matched A) (callFound parts name args)
      (callFound (Value.renumberFields A.distance parts) name
        (args.map (Value.renumber A.distance))) := by
  have hgroups := itemsOf_matched h "_groups"
  have hspan := groupItem_matched (itemsOf_matched h "_spans") args
  unfold callFound
  split
  · exact groupItem_matched hgroups args
  · exact hspan
  · exact outcomes_map hspan fun _ _ hpair => pairItem_matched hpair false
  · exact outcomes_map hspan fun _ _ hpair => pairItem_matched hpair true
  · exact withDefault_matched (allMatched_tail hgroups) (Value.matched_of_isData rfl)
  · exact withDefault_matched (allMatched_tail hgroups) ⟨rfl, hargs.1⟩
  · split <;> first | rfl | simp_all

/-- The methods of integers give data. -/
theorem callInteger_matched (i : Int) (name : String) (args : List Value) :
    Outcomes (Value.Matched A) (callInteger i name args)
      (callInteger i name (args.map (Value.renumber A.distance))) := by
  cases args with
  | nil =>
    refine outcomes_matched_of_isData fun v hv => ?_
    unfold callInteger at hv
    split at hv <;> cases hv <;> rfl
  | cons v args =>
    simp [callInteger]
    rfl

/-- The texts and places that a pattern finds are data. -/
theorem areData_map {α : Type} (items : List α) {f : α → Value} (hf : ∀ a, (f a).isData = true) :
    Value.areData (items.map f) = true := by
  induction items with
  | nil => rfl
  | cons a items ih => rw [List.map_cons, Value.areData, hf a, ih, Bool.and_self]

/-- What a pattern finds matches itself. -/
theorem foundOrNull_matched (p : Pattern) (s : String) (found : Option Pattern.Found) :
    Value.Matched A (foundOrNull p s found) (foundOrNull p s found) := by
  cases found with
  | none => exact Value.matched_of_isData rfl
  | some m =>
    simp only [foundOrNull, foundValue]
    generalize htexts : List.map _ (some _ :: p.captureTexts _ m) = texts
    generalize hspans : List.map _ (some _ :: List.map _ (List.range p.groups)) = spans
    have hdata : Value.fieldsAreData [("string", .str s), ("re", .pattern p), ("pos", .int 0),
        ("endpos", .int s.length), ("_groups", .list .tuple texts),
        ("_spans", .list .tuple spans)] = true := by
      have htexts : Value.areData texts = true := by
        subst htexts
        exact areData_map _ fun piece => by cases piece <;> rfl
      have hspans : Value.areData spans = true := by
        subst hspans
        exact areData_map _ fun span => by cases span <;> rfl
      simp only [Value.fieldsAreData, Value.isData, htexts, hspans, Bool.and_self]
    exact ⟨by rw [Value.renumber, Value.renumberFields_of_areData _ hdata],
      Value.fieldsWithin_of_areData _ hdata⟩

/-- The searches of a pattern give the same for matching arguments. -/
theorem callPattern_matched (p : Pattern) (name : String) (args : List Value) :
    Outcomes (Value.Matched A) (callMethod (.pattern p) name args)
      (callMethod (.pattern p) name (args.map (Value.renumber A.distance))) := by
  have htwo (v w : Value) (rest : List Value) :
      callMethod (.pattern p) name (v :: w :: rest) = .error .wrongArguments := by
    simp [callMethod]
  rcases args with _ | ⟨v, _ | ⟨w, rest⟩⟩
  · rfl
  · cases v with
    | str s => exact foundOrNull_matched p s _
    | _ => rfl
  · rw [List.map_cons, List.map_cons, htwo, htwo]
    rfl

/-- The methods of matching values match. -/
theorem callMethod_matched {self : Value} (h : self.Within A) (name : String) {args : List Value}
    (hargs : Value.AllWithin A args) :
    Outcomes (Value.Matched A) (callMethod self name args)
      (callMethod (self.renumber A.distance) name (args.map (Value.renumber A.distance))) := by
  cases self with
  | int i => exact callInteger_matched i name args
  | bool b => exact callInteger_matched _ name args
  | float x =>
    cases args with
    | nil =>
      refine outcomes_matched_of_isData fun v hv => ?_
      simp only [callMethod] at hv
      split at hv <;> cases hv <;> rfl
    | cons v args => rfl
  | pattern p => exact callPattern_matched p name args
  | native kind parts => exact callFound_matched h name hargs
  | _ => rfl

/-- A call of matching objects with matching arguments. -/
theorem standardCall_matched {f : Value} (h : f.Within A) {args : List Value}
    (hargs : Value.AllWithin A args) :
    Script.InStep A (standardCall f args)
      (standardCall (f.renumber A.distance) (args.map (Value.renumber A.distance))) := by
  cases f with
  | native kind parts =>
    simp only [standardCall, Value.renumber, Value.lookup_renumberFields]
    cases hself : parts.lookup "_self" with
    | none => exact .done rfl
    | some self =>
      cases hname : parts.lookup "_name" with
      | none => exact .done rfl
      | some v =>
        cases v with
        | str name => exact .done (callMethod_matched (Value.within_of_lookup h hself) name hargs)
        | _ => exact .done rfl
  | _ => exact .done rfl

/-! ## Comparison -/

/-- Numbers of column types are compared with data only. -/
theorem standardBoxedEquals_renumber (d : Nat) (b : BoxedNumber) (v : Value) :
    standardBoxedEquals b (v.renumber d) = standardBoxedEquals b v := by
  cases v with
  | list | map | object | native | query | arrow => cases b <;> rfl
  | _ => rfl

/-- The standard language does the same with all values up to the functions in them. -/
theorem standard_isUniform : standard.IsUniform := fun A =>
  { numbers :=
      { identical := fun _ _ => rfl
        boxedEquals := standardBoxedEquals_renumber A.distance }
    attributes := fun _ name h => standardAttribute_matched h name
    calls := fun _ _ h hargs => standardCall_matched h hargs }

end Language

end Trigger
