import Trigger.Eval.Standard
import Trigger.Evaluator
import Trigger.Proofs.Text.Search

/-!
# Names and the fields of queries

A name is looked up in the scopes of a frame, and the field of a query in the subject of the frame.
The parameters of arrow functions are put in front of both, so that the two find the same value
wherever the name is a parameter, a field of the record or, about a text, a binding, however deeply
arrow functions are nested.
-/

namespace Trigger

/-! ## Fields for parameters -/

namespace Fields

variable {x key : String} {v : Value}

/-- A key that was set has the value it was set to. -/
theorem lookup_set_self (fields : Fields) : (fields.set x v).lookup x = some v := by
  induction fields with
  | nil => simp [set]
  | cons entry rest ih =>
    obtain ⟨k, w⟩ := entry
    by_cases hk : k = x
    · simp [set, hk]
    · have hne : (x == k) = false := beq_false_of_ne (Ne.symm hk)
      simp [set, hk, List.lookup_cons, hne, ih]

/-- Setting a key changes no other one. -/
theorem lookup_set_of_ne (h : key ≠ x) (fields : Fields) :
    (fields.set key v).lookup x = fields.lookup x := by
  have hkey : (x == key) = false := beq_false_of_ne (Ne.symm h)
  induction fields with
  | nil => simp [set, List.lookup_cons, hkey]
  | cons entry rest ih =>
    obtain ⟨k, w⟩ := entry
    by_cases hk : k = key
    · subst hk
      simp [set, List.lookup_cons, hkey]
    · simp [set, hk, List.lookup_cons, ih]

/-- Setting keys changes no other one. -/
theorem lookup_update_of_not_mem {others : List (String × Value)} (h : x ∉ others.map (·.1))
    (fields : Fields) : (fields.update others).lookup x = fields.lookup x := by
  induction others generalizing fields with
  | nil => rfl
  | cons entry rest ih =>
    rw [List.map_cons, List.mem_cons, not_or] at h
    have hstep : fields.update (entry :: rest) = (fields.set entry.1 entry.2).update rest := rfl
    rw [hstep, ih h.2, lookup_set_of_ne (Ne.symm h.1)]

/-- The last one of several values for a key counts. -/
theorem lookup_ofList {before after : List (String × Value)} (h : x ∉ after.map (·.1)) :
    (ofList (before ++ (x, v) :: after)).lookup x = some v := by
  have hsplit : ofList (before ++ (x, v) :: after) =
      ((ofList before).set x v).update after := by
    simp [ofList, update]
  rw [hsplit, lookup_update_of_not_mem h, lookup_set_self]

end Fields

/-! ## Paths without a point -/

namespace Value

variable {rt : Runtime} {x : String} {v : Value} {entries : Fields}

/-- A path without a point is one name. -/
theorem pathNames_of_not_mem (hx : '.' ∉ x.toList) : pathNames x = [x] := by
  rw [pathNames, Text.cut, Text.cutFrom_of_not_mem hx, List.reverse_nil, List.nil_append,
    List.map_singleton, String.ofList_toList]

/-- Two paths with a point between them make up a path with the names of both. -/
theorem pathNames_append (path path' : String) :
    pathNames (path ++ "." ++ path') = pathNames path ++ pathNames path' := by
  have hpath : (path ++ "." ++ path').toList = path.toList ++ '.' :: path'.toList := by simp
  rw [pathNames, hpath, Text.cut, Text.cutFrom_singleton_append, List.map_append]
  rfl

/-- A path without a point leads from a mapping to the entry of that name. -/
theorem resolvePath_of_lookup (hx : '.' ∉ x.toList) (h : entries.lookup x = some v) :
    (map entries).resolvePath rt x = v := by
  have hentry : (map entries).follow rt [x] = (entries.lookup x).getD .undefined := rfl
  rw [resolvePath, pathNames_of_not_mem hx, hentry, h, Option.getD_some]

/-- A query about a name asks nothing of a mapping but the entry of that name. -/
theorem passes_of_lookup (hx : '.' ∉ x.toList) (h : entries.lookup x = some v)
    (op : QueryOperator) (c : Value) :
    (map entries).passes rt x op c = (map [(x, v)]).passes rt x op c := by
  have hsingle : List.lookup x [(x, v)] = some v := List.lookup_cons_self
  simp only [passes, isScalar, resolvePath_of_lookup hx h, resolvePath_of_lookup hx hsingle]

end Value

namespace Frame

/-- The names of paired parameters are the parameters. -/
theorem map_fst_pair (params : List String) (args : List Value) :
    (pair params args).map (·.1) = params := by
  induction params generalizing args with
  | nil => rfl
  | cons p params ih => cases args <;> simp [pair, ih]

/-- Parameters are paired with arguments from the first to the last. -/
theorem pair_append (params more : List String) (args : List Value) :
    pair (params ++ more) args = pair params args ++ pair more (args.drop params.length) := by
  induction params generalizing args with
  | nil => simp [pair]
  | cons p params ih =>
    cases args with
    | nil => simpa [pair] using ih []
    | cons v args => simpa [pair] using ih args

/-- A parameter has the argument at its place, or undefined where there is none. -/
theorem lookup_bind {x : String} (before : List String) {after : List String} (h : x ∉ after)
    (args : List Value) : (bind (before ++ x :: after) args).lookup x =
      some (args.getD before.length .undefined) := by
  have hpair : ∃ rest, pair (x :: after) (args.drop before.length) =
      (x, args.getD before.length .undefined) :: rest ∧ rest.map (·.1) = after := by
    rw [List.getD_eq_getElem?_getD, ← List.head?_drop]
    cases args.drop before.length with
    | nil => exact ⟨_, rfl, map_fst_pair after []⟩
    | cons v args => exact ⟨_, rfl, map_fst_pair after args⟩
  obtain ⟨rest, hrest, hnames⟩ := hpair
  rw [bind, pair_append, hrest]
  exact Fields.lookup_ofList (hnames ▸ h)

/-! ## Scopes and subjects -/

/-- The frames of an evaluation: the outermost one, and those inside arrow functions that are called
in such a frame. -/
inductive Reached (around : Surroundings) : Frame → Prop
  | outermost : Reached around { around }
  | inside {f : Frame} (h : Reached around f) (params : List String) (args : List Value) :
      Reached around (f.inside (bind params args))

/-- The names in scopes with certain labels are fields of the subject with the same values. -/
def Shares (labels : List String) (f : Frame) : Prop :=
  ∃ entries, f.subject = .map entries ∧
    ∀ x v label, f.scopes.resolve f.runtime x = some (v, label) → label ∈ labels →
      entries.lookup x = some v

variable {rt : Runtime} {labels : List String} {f : Frame} {x : String} {v : Value}

/-- A parameter of an arrow function is found in front of everything else. -/
theorem resolve_inside {fields : Fields} (h : fields.lookup x = some v) :
    (f.inside fields).scopes.resolve rt x = some (v, "locals") := by
  have hscopes : (f.inside fields).scopes = ("locals", .map fields) :: f.scopes := rfl
  simp [hscopes, ScopeChain.resolve, ScopeChain.lookupIn, h]

/-- A name that is no parameter of an arrow function is looked up outside of it. -/
theorem resolve_inside_of_none {fields : Fields} (h : fields.lookup x = none) :
    (f.inside fields).scopes.resolve rt x = f.scopes.resolve rt x := by
  have hscopes : (f.inside fields).scopes = ("locals", .map fields) :: f.scopes := rfl
  simp [hscopes, ScopeChain.resolve, ScopeChain.lookupIn, h]

/-- The subject inside an arrow function has the parameters in front of its own fields. -/
theorem subject_inside {fields entries : Fields} (h : f.subject = .map entries) :
    (f.inside fields).subject = .map (fields ++ entries) := by
  have hsubject : (f.inside fields).subject = Scene.overlay fields f.subject := rfl
  rw [hsubject, h, Scene.overlay]

/-- Calling an arrow function keeps what scopes and subject share. -/
theorem Shares.inside (h : Shares labels f) (fields : Fields) :
    Shares labels (f.inside fields) := by
  obtain ⟨entries, hsubject, hshared⟩ := h
  refine ⟨fields ++ entries, subject_inside hsubject, fun x v label hx hlabel => ?_⟩
  rw [List.lookup_append]
  cases hfields : fields.lookup x with
  | some w =>
    rw [resolve_inside hfields] at hx
    cases hx
    rfl
  | none =>
    rw [resolve_inside_of_none hfields] at hx
    exact hshared x v label hx hlabel

/-- What the outermost frame shares, every frame of the evaluation does. -/
theorem Reached.shares {around : Surroundings} (h : Reached around f)
    (hstart : Shares labels { around }) : Shares labels f := by
  induction h with
  | outermost => exact hstart
  | inside _ params args ih => exact ih.inside (bind params args)

/-! ## The frames of an evaluator -/

/-- The labels of the scopes whose names are fields of the subject: that of the parameters, and that
of the record or, about a text, of the bindings. -/
def sharedLabels : ContextKind → List String
  | .object => ["locals", "record"]
  | .text => ["locals", "bindings"]

/-- A scope in front that is a mapping has the name, or the scopes behind it have. -/
theorem resolve_map_cons {label : String} {entries : Fields} {rest : ScopeChain}
    {found : Value × String}
    (h : ScopeChain.resolve rt x ((label, .map entries) :: rest) = some found) :
    (entries.lookup x = some found.1 ∧ found.2 = label) ∨ rest.resolve rt x = some found := by
  unfold ScopeChain.resolve ScopeChain.lookupIn at h
  cases hx : entries.lookup x with
  | some w =>
    simp only [hx] at h
    cases h
    exact .inl ⟨rfl, rfl⟩
  | none =>
    simp only [hx] at h
    exact .inr h

/-- The outermost frame of an evaluator about a text, or about a record that is a mapping. The
labels of its other scopes are not shared. -/
theorem shares_outermost {env : Environment} {context : ContextKind} {data : Value}
    {bindings : Fields} (hdata : context = .object → ∃ entries, data = .map entries) :
    Shares (sharedLabels context)
      { around := Evaluator.surroundings env context data bindings } := by
  cases context with
  | object =>
    obtain ⟨entries, rfl⟩ := hdata rfl
    refine ⟨entries, rfl, fun x v label hx hlabel => ?_⟩
    rcases resolve_map_cons hx with ⟨hrecord, -⟩ | hx
    · exact hrecord
    · rcases resolve_map_cons hx with ⟨-, rfl⟩ | hx
      · simp [sharedLabels, predicateLabel] at hlabel
      rcases resolve_map_cons hx with ⟨-, rfl⟩ | hx
      · simp [sharedLabels] at hlabel
      rcases resolve_map_cons hx with ⟨-, rfl⟩ | hx
      · simp [sharedLabels] at hlabel
      · cases hx
  | text =>
    refine ⟨_, rfl, fun x v label hx hlabel => ?_⟩
    rcases resolve_map_cons hx with ⟨-, rfl⟩ | hx
    · simp [sharedLabels, predicateLabel] at hlabel
    rcases resolve_map_cons hx with ⟨hbinding, -⟩ | hx
    · exact hbinding
    rcases resolve_map_cons hx with ⟨-, rfl⟩ | hx
    · simp [sharedLabels] at hlabel
    · cases hx

/-- A name is found with the same value by an expression and by a query, in every frame of an
evaluator about a text or about a record that is a mapping: if its scope is that of the parameters,
of the record or, about a text, of the bindings, then the subject has the value under that name,
and a query on it asks nothing else of the subject. A parameter comes in front of all of these in
both, and undefined is its value where there is no argument for it. -/
theorem Reached.lookups_agree {env : Environment} {context : ContextKind} {data : Value}
    {bindings : Fields} (hdata : context = .object → ∃ entries, data = .map entries)
    (hf : Reached (Evaluator.surroundings env context data bindings) f) (hx : '.' ∉ x.toList) :
    (∀ v label, f.scopes.resolve f.runtime x = some (v, label) → label ∈ sharedLabels context →
      f.subject.resolvePath f.runtime x = v ∧ (∀ apply, evaluate apply f (.name x) = pure v) ∧
        ∀ op c, f.subject.passes f.runtime x op c = (Value.map [(x, v)]).passes f.runtime x op c) ∧
    ∀ before after args, x ∉ after →
      let inner := f.inside (bind (before ++ x :: after) args)
      let v := args.getD before.length .undefined
      inner.scopes.resolve inner.runtime x = some (v, "locals") ∧
        inner.subject.resolvePath inner.runtime x = v := by
  obtain ⟨entries, hsubject, hshared⟩ := hf.shares (shares_outermost hdata)
  refine ⟨fun v label hresolve hlabel => ?_, fun before after args hafter => ?_⟩
  · have hlookup : entries.lookup x = some v := hshared x v label hresolve hlabel
    rw [hsubject]
    refine ⟨Value.resolvePath_of_lookup hx hlookup, fun apply => ?_,
      Value.passes_of_lookup hx hlookup⟩
    rw [evaluate, ScopeChain.valueOf, hresolve]
    rfl
  · have hlookup := lookup_bind before hafter args
    refine ⟨resolve_inside hlookup, ?_⟩
    rw [subject_inside hsubject]
    refine Value.resolvePath_of_lookup hx ?_
    rw [List.lookup_append, hlookup, Option.some_or]

/-- Inside `(j, i) => …`, called with one argument inside `(i, j) => …`, the name `i` is the inner
parameter without an argument, for expressions and for queries, although the outer function, the
record and the bindings all have a value for it. In front of them, yet another parameter `i` is
found. -/
theorem Reached.lookups_agree_without_argument :
    let env : Environment :=
      { builtins := [], globals := [("i", .int 9)], host := .standard fun _ _ => .ok .null }
    let around := Evaluator.surroundings env .object (.map [("i", .int 7)]) [("i", .int 8)]
    let outer : Frame := ({ around } : Frame).inside (bind ["i", "j"] [.int 1, .int 2])
    let f := outer.inside (bind ["j", "i"] [.int 3])
    let innermost := f.inside (bind ["i"] [.str "a"])
    (f.scopes.resolve f.runtime "i" = some (.undefined, "locals") ∧
      f.subject.resolvePath f.runtime "i" = .undefined ∧
      f.subject.passes f.runtime "i" .equals .null =
        (Value.map [("i", .undefined)]).passes f.runtime "i" .equals .null) ∧
    innermost.scopes.resolve innermost.runtime "i" = some (.str "a", "locals") ∧
      innermost.subject.resolvePath innermost.runtime "i" = .str "a" := by
  intro env around outer f innermost
  have hf : Reached around f :=
    ((Reached.outermost.inside ["i", "j"] [.int 1, .int 2]).inside ["j", "i"] [.int 3])
  have hrecord : ContextKind.object = .object →
      ∃ entries, Value.map [("i", .int 7)] = .map entries := fun _ => ⟨_, rfl⟩
  obtain ⟨hfound, hparameter⟩ := Reached.lookups_agree (x := "i") hrecord hf (by decide)
  have hresolve : f.scopes.resolve f.runtime "i" = some (.undefined, "locals") := rfl
  obtain ⟨hpath, -, hquery⟩ := hfound .undefined "locals" hresolve (by decide)
  exact ⟨⟨hresolve, hpath, hquery .equals .null⟩, hparameter [] [] [.str "a"] (by decide)⟩

end Frame

end Trigger
