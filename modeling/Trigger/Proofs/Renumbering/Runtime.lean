import Trigger.Proofs.Outcome
import Trigger.Proofs.Renumbering.Accord

/-!
# Members of matching values

A language is asked for attributes and called with values that match in two evaluations. It keeps to
an accord if what it gives matches as well, whatever functions are in the values: it only passes them
on or calls them. Then members and methods of matching values match, and so does what paths lead to.

An arrow function shows the scene in which it is made, and this need not match. So the runtimes of two
evaluations agree only if their scenes do or are not shown, or if there are no arrow functions.
-/

namespace Trigger

variable {A : Accord}

/-- Two related options are both empty or hold related values. -/
theorem cases_of_rel {α β : Type} {R : α → β → Prop} {x : Option α} {y : Option β}
    (h : Option.Rel R x y) :
    (x = none ∧ y = none) ∨ ∃ a b, x = some a ∧ y = some b ∧ R a b := by
  cases h with
  | some h => exact .inr ⟨_, _, rfl, rfl, h⟩
  | none => exact .inl ⟨rfl, rfl⟩

/-! ## Languages -/

/-- Two functions of the language that call matching functions with matching arguments and end with
matching results. -/
inductive Script.InStep (A : Accord) : Script → Script → Prop where
  | done {x y : Except Fault Value} (h : Outcomes (Value.Matched A) x y) :
      InStep A (.done x) (.done y)
  | ask {f : Value} {args : List Value} {resume resume' : Value → Script} (hf : f.Within A)
      (hargs : Value.AllWithin A args)
      (h : ∀ v, v.Within A → InStep A (resume v) (resume' (v.renumber A.distance))) :
      InStep A (.ask f args resume)
        (.ask (f.renumber A.distance) (args.map (Value.renumber A.distance)) resume')

/-- A language that does the same with matching values. -/
structure Language.KeepsTo (A : Accord) (language : Language) : Prop where
  numbers : language.IgnoresNumbers A.distance
  attributes : ∀ v name, v.Within A → Option.Rel (Value.Matched A) (language.attributeOf v name)
    (language.attributeOf (v.renumber A.distance) name)
  calls : ∀ f args, f.Within A → Value.AllWithin A args →
    Script.InStep A (language.call f args)
      (language.call (f.renumber A.distance) (args.map (Value.renumber A.distance)))

/-- A language that does the same with all values up to the functions in them. -/
def Language.IsUniform (language : Language) : Prop := ∀ A : Accord, language.KeepsTo A

/-- Where functions of the host are called, every value matches itself. -/
theorem Value.matched_of_hosts (h : A.hosts) (v : Value) : Value.Matched A v v :=
  ⟨by rw [(A.all_of_hosts h).1, Value.renumber_zero], Value.within_of_hosts h v⟩

/-- Where functions of the host are called, numbers of functions are the same. -/
theorem map_renumber_of_hosts (h : A.hosts) (vs : List Value) :
    vs.map (Value.renumber A.distance) = vs := by
  rw [(A.all_of_hosts h).1, ← Value.renumberAll_eq_map, Value.renumberAll_zero]

/-- Where functions of the host are called, every function of the language is in step with itself. -/
theorem Script.inStep_of_hosts (h : A.hosts) (s : Script) : Script.InStep A s s := by
  induction s with
  | done outcome =>
    refine .done ?_
    cases outcome with
    | ok v => exact Value.matched_of_hosts h v
    | error e => rfl
  | ask f args resume ih =>
    -- the distance is 0, so both functions call the same one and go on with the same value
    have hresume : ∀ v, v.Within A → InStep A (resume v) (resume (v.renumber A.distance)) := by
      intro v _
      rw [(A.all_of_hosts h).1, Value.renumber_zero]
      exact ih v
    have hask := InStep.ask (Value.within_of_hosts h f) (Value.allWithin_of_hosts h args) hresume
    rwa [map_renumber_of_hosts h, (A.all_of_hosts h).1, Value.renumber_zero] at hask

/-- Where functions of the host are called, every language keeps to the accord. -/
theorem Language.keepsTo_of_hosts (h : A.hosts) (language : Language) : language.KeepsTo A where
  numbers := by
    rw [(A.all_of_hosts h).1]
    exact language.ignoresNumbers_zero
  attributes v name _ := by
    rw [(A.all_of_hosts h).1, Value.renumber_zero]
    cases language.attributeOf v name with
    | none => exact .none
    | some u => exact .some (Value.matched_of_hosts h u)
  calls f args _ _ := by
    rw [map_renumber_of_hosts h, (A.all_of_hosts h).1, Value.renumber_zero]
    exact Script.inStep_of_hosts h _

/-! ## Runtimes -/

/-- What an arrow function with the given variables around it shows. -/
def Runtime.shownFrame (rt : Runtime) (locals : List Fields) : Option Value :=
  rt.scene.map fun s => (s.inside locals).toValue

/-- Two runtimes with a language that keeps to an accord. What arrow functions show matches, if there
are any. -/
structure RuntimesAgree (A : Accord) (rt rt' : Runtime) : Prop where
  language : rt'.toLanguage = rt.toLanguage
  keeps : rt.toLanguage.KeepsTo A
  frame : A.arrows → ∀ locals, Value.LocalsWithin A locals →
    Option.Rel (Value.Matched A) (rt.shownFrame locals)
      (rt'.shownFrame (Value.renumberLocals A.distance locals))

/-- Where functions of the host are called, a runtime agrees with itself. -/
theorem runtimesAgree_of_hosts (h : A.hosts) (rt : Runtime) : RuntimesAgree A rt rt where
  language := rfl
  keeps := rt.toLanguage.keepsTo_of_hosts h
  frame _ locals _ := by
    rw [(A.all_of_hosts h).1, Value.renumberLocals_zero]
    cases rt.shownFrame locals with
    | none => exact .none
    | some u => exact .some (Value.matched_of_hosts h u)

/-- Runtimes with one language agree if they show no scenes or if there are no arrow functions. -/
theorem runtimesAgree_of_hidden {rt rt' : Runtime} (hlanguage : rt'.toLanguage = rt.toLanguage)
    (hkeeps : rt.toLanguage.KeepsTo A)
    (hscene : A.arrows → rt.scene = none ∧ rt'.scene = none) : RuntimesAgree A rt rt' where
  language := hlanguage
  keeps := hkeeps
  frame harrows locals _ := by
    obtain ⟨hnone, hnone'⟩ := hscene harrows
    rw [Runtime.shownFrame, Runtime.shownFrame, hnone, hnone']
    exact .none

/-! ## Members -/

namespace Value

/-- What is found, or undefined, matches if what can be found does. -/
theorem matched_getD {x y : Option Value} (h : Option.Rel (Matched A) x y) :
    Matched A (x.getD .undefined) (y.getD .undefined) := by
  cases h with
  | none => exact matched_of_isData rfl
  | some h => exact h

/-- Entries that are looked up in matching entries match. -/
theorem lookup_matched {fields : Fields} (h : FieldsWithin A fields) (name : String) :
    Option.Rel (Matched A) (fields.lookup name) ((renumberFields A.distance fields).lookup name) := by
  rw [lookup_renumberFields]
  cases hfound : fields.lookup name with
  | none => exact .none
  | some v => exact .some ⟨rfl, within_of_lookup h hfound⟩

/-- What is found first in one of two places matches. -/
theorem or_matched {x y x' y' : Option Value} (h : Option.Rel (Matched A) x x')
    (h' : Option.Rel (Matched A) y y') : Option.Rel (Matched A) (x.or y) (x'.or y') := by
  cases h with
  | none => exact h'
  | some h => exact .some h

/-- The attributes of matching queries match. -/
theorem queryAttribute_matched {v : Value} (h : v.Within A) (field : String) (op : QueryOperator)
    (name : String) : Option.Rel (Matched A) (queryAttribute field op v name)
      (queryAttribute field op (v.renumber A.distance) name) := by
  unfold queryAttribute
  split
  · exact .some (matched_of_isData rfl)
  · split
    · exact .some (matched_of_isData rfl)
    · split
      · exact .some ⟨rfl, h⟩
      · exact .none

/-- The names of parameters are data. -/
theorem areData_names (names : List String) : areData (names.map .str) = true := by
  induction names with
  | nil => rfl
  | cons name names ih => exact ih

section

variable {rt rt' : Runtime} (hrt : RuntimesAgree A rt rt')

include hrt

/-- The attributes of matching values match. -/
theorem hostAttribute_matched {v : Value} (h : v.Within A) (name : String) :
    Option.Rel (Matched A) (hostAttribute rt v name)
      (hostAttribute rt' (v.renumber A.distance) name) := by
  have hother := hrt.keeps.attributes v name h
  rw [← hrt.language] at hother
  unfold hostAttribute
  split
  · exact .none
  · cases v with
    | object attributes => exact lookup_matched h name
    | native kind parts =>
      rw [hrt.language] at hother ⊢
      exact or_matched (lookup_matched h name) hother
    | query id field op u => exact queryAttribute_matched h.2 field op name
    | arrow id params body locals =>
      -- parameters are data and the rest is up to the language; only the scene may not match
      simp only [renumber]
      split
      · exact .some (matched_of_isData (areData_names params))
      · split
        · exact hrt.frame h.1 locals h.2.2
        · rw [hrt.language] at hother ⊢
          exact hother
    | _ =>
      rw [hrt.language] at hother ⊢
      exact hother

/-- The members of matching values for matching keys match. -/
theorem member_matched {v : Value} (h : v.Within A) (key : Value) :
    Outcomes (Matched A) (v.member rt key)
      ((v.renumber A.distance).member rt' (key.renumber A.distance)) := by
  have hlength : (key.renumber A.distance).isLength = key.isLength := by cases key <;> rfl
  have hattribute (name : String) : Matched A ((hostAttribute rt v name).getD .undefined)
      ((hostAttribute rt' (v.renumber A.distance) name).getD .undefined) :=
    matched_getD (hostAttribute_matched hrt h name)
  cases v with
  | null | undefined => exact matched_of_isData rfl
  | map entries =>
    simp only [renumber, member, entryAt, isHashable_renumber, toText_renumber]
    cases key.isHashable with
    | false => rfl
    | true => exact matched_getD (lookup_matched h key.toText)
  | list k items =>
    simp only [renumber, member, hlength, itemAt_renumber_key, renumberAll_eq_map, List.length_map,
      itemAt_map]
    split
    · exact matched_of_isData rfl
    · cases hitem : itemAt items key with
      | error e => rfl
      | ok found =>
        cases found with
        | none => exact matched_of_isData rfl
        | some u => exact ⟨rfl, allWithin_iff.mp h u (mem_of_itemAt hitem)⟩
  | str s =>
    simp only [renumber, member, hlength, itemAt_renumber_key]
    split
    · exact matched_of_isData rfl
    · cases itemAt s.toList key with
      | error e => rfl
      | ok found => cases found <;> exact matched_of_isData rfl
  | _ =>
    cases key with
    | str name => exact hattribute name
    | _ => exact matched_of_isData rfl

/-- The members of matching values for a name match. -/
theorem property_matched {v : Value} (h : v.Within A) (name : String) :
    Matched A (v.property rt name) ((v.renumber A.distance).property rt' name) := by
  have hmember := member_matched hrt h (.str name)
  unfold property
  rw [show renumber A.distance (.str name) = .str name from rfl] at hmember
  cases hx : v.member rt (.str name) with
  | ok u =>
    cases hy : (v.renumber A.distance).member rt' (.str name) with
    | ok w => rwa [hx, hy] at hmember
    | error e => rw [hx, hy] at hmember; exact hmember.elim
  | error e =>
    cases hy : (v.renumber A.distance).member rt' (.str name) with
    | ok w => rw [hx, hy] at hmember; exact hmember.elim
    | error f => exact matched_of_isData rfl

/-- A path leads to matching values in matching values. -/
theorem follow_matched {v : Value} (h : v.Within A) (path : List String) :
    Matched A (v.follow rt path) ((v.renumber A.distance).follow rt' path) := by
  induction path generalizing v with
  | nil => exact ⟨rfl, h⟩
  | cons name path ih =>
    obtain ⟨hrenumber, hwithin⟩ := property_matched hrt h name
    rw [follow, follow, isNullish_renumber, hrenumber]
    split
    · exact matched_of_isData rfl
    · exact ih hwithin

end

end Value

/-! ## Methods -/

/-- A method of a value with the numbers of the value changed. -/
def Method.renumber (d : Nat) : Method → Method
  | .onList m items => .onList m (items.map (Value.renumber d))
  | .onString m s => .onString m s
  | .onMap m entries => .onMap m (Value.renumberFields d entries)
  | .member f => .member (f.renumber d)

/-- A method of a value within an accord. -/
def Method.Within (A : Accord) : Method → Prop
  | .onList _ items => Value.AllWithin A items
  | .onString .. => True
  | .onMap _ entries => Value.FieldsWithin A entries
  | .member f => f.Within A

/-- The second method is the first one with its numbers changed, and it is within the accord. -/
def Method.Matched (A : Accord) (m m' : Method) : Prop := m' = m.renumber A.distance ∧ m.Within A

/-- The methods that matching values have of their own match. -/
theorem ownMethod?_matched {v : Value} (h : v.Within A) (name : String) :
    Option.Rel (Method.Matched A) (v.ownMethod? name)
      ((v.renumber A.distance).ownMethod? name) := by
  cases v with
  | list k items =>
    simp only [Value.renumber, Value.renumberAll_eq_map, Value.ownMethod?]
    cases ListMethod.ofName? name with
    | none => exact .none
    | some m => exact .some ⟨rfl, h⟩
  | str s =>
    simp only [Value.renumber, Value.ownMethod?]
    cases StringMethod.ofName? name with
    | none => exact .none
    | some m => exact .some ⟨rfl, trivial⟩
  | map entries =>
    simp only [Value.renumber, Value.ownMethod?]
    cases MapMethod.ofName? name with
    | none => exact .none
    | some m => exact .some ⟨rfl, h⟩
  | _ => exact .none

/-- A member that can be called is a method, and matching ones are matching methods. -/
theorem memberMethod_matched {v w : Value} (h : Value.Matched A v w) :
    Option.Rel (Method.Matched A) (if v.isCallable then some (.member v) else none)
      (if w.isCallable then some (.member w) else none) := by
  obtain ⟨rfl, hv⟩ := h
  rw [Value.isCallable_renumber]
  split
  · exact .some ⟨rfl, hv⟩
  · exact .none

/-- The methods of matching values match. -/
theorem method?_matched {rt rt' : Runtime} (hrt : RuntimesAgree A rt rt') {v : Value}
    (h : v.Within A) (name : String) :
    Option.Rel (Method.Matched A) (v.method? rt name)
      ((v.renumber A.distance).method? rt' name) := by
  unfold Value.method?
  obtain ⟨hv, hw⟩ | ⟨m, m', hv, hw, hm⟩ := cases_of_rel (ownMethod?_matched h name)
  · rw [hv, hw]
    exact memberMethod_matched (Value.property_matched hrt h name)
  · rw [hv, hw]
    exact .some hm

end Trigger
