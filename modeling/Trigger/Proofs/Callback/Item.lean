import Trigger.Proofs.Lookup.Path
import Trigger.Proofs.Renumbering.Evaluation

/-!
# Queries on items and below parameters

A query has one answer for a record, whatever was evaluated before, and the path that leads to the
tested value matters to the answer only through that value. An arrow function puts its parameter in
front of the fields of the record that it is called in, so a path that starts with the parameter
leads where the rest of the path leads from the item that was passed. Both queries have the same
answer if the item is nothing, a list or a mapping. Other items have no fields that a query on the
item itself could test, although some of them have members.
-/

namespace Trigger

/-- A cache without patterns keeps what would be read. -/
theorem PatternCache.sound_nil :
    ∀ entry ∈ ([] : List (PatternKey × Pattern)), entry.1.read = .ok entry.2 :=
  fun _ h => absurd h List.not_mem_nil

/-- What is left behind where nothing was evaluated before. -/
def Effects.fresh : Effects := { patterns := { sound := PatternCache.sound_nil } }

namespace Value

variable (rt : Runtime) {i field field' : String} {op : QueryOperator}
variable {item record record' v value : Value} {entries : Fields}

/-! ## Paths that start with a name -/

/-- A path with the name of an entry in front leads where the path leads from the entry. -/
theorem resolvePath_cons (hi : '.' ∉ i.toList) (hentry : entries.lookup i = some item)
    (path : String) :
    (map entries).resolvePath rt (i ++ "." ++ path) = item.resolvePath rt path := by
  have hproperty : (map entries).property rt i = (entries.lookup i).getD .undefined := rfl
  rw [resolvePath, pathNames_append, pathNames_of_not_mem hi, List.singleton_append, follow,
    hproperty, hentry]
  rfl

/-- No path leads anywhere from nothing. -/
theorem resolvePath_null (path : String) : null.resolvePath rt path = .undefined := by
  obtain ⟨rest, hpath⟩ := pathNames_eq_cons path
  rw [resolvePath, hpath]
  rfl

/-! ## Answers of queries -/

/-- A query has the same answer whatever was evaluated before. -/
theorem passes_inStep_self {d : Nat} (record : Value) (field : String) (op : QueryOperator)
    (value : Value) :
    InStep d Eq (record.passes rt field op value) (record.passes rt field op value) := by
  have hanswers (v : Value) :
      InStep d Eq (v.answers rt field op value) (v.answers rt field op value) := by
    refine InStep.bind (QueryOperator.steady_test rt.toLanguage op v value d) fun x y hxy => ?_
    obtain rfl := outcomes_eq_iff.mp hxy
    cases x with
    | ok answer => exact InStep.pure rfl
    | error e => exact InStep.bind (InStep.report _ _) fun _ _ _ => InStep.pure rfl
  unfold passes
  split
  · exact InStep.pure rfl
  · cases record.resolvePath rt field with
    | undefined => exact InStep.pure rfl
    | _ => exact hanswers _

/-- Whether a record passes a query, where nothing was evaluated before. -/
def satisfies (record : Value) (field : String) (op : QueryOperator) (value : Value) : Bool :=
  ((record.passes rt field op value).run .fresh).1

/-- A record passes a query exactly when it satisfies it. -/
theorem run_passes_fst (record : Value) (field : String) (op : QueryOperator) (value : Value)
    (s : Effects) :
    ((record.passes rt field op value).run s).1 = record.satisfies rt field op value :=
  (passes_inStep_self rt record field op value .fresh s (Nat.zero_add _).symm).1.symm

/-- The answer of a test does not depend on the path that led to the value, which is only
reported. -/
theorem answers_fst (v : Value) (field field' : String) (op : QueryOperator) (value : Value)
    (s : Effects) :
    ((v.answers rt field op value).run s).1 = ((v.answers rt field' op value).run s).1 := by
  unfold answers
  rcases hrun : (op.test rt.toLanguage v value).run.run s with ⟨outcome, t⟩
  rw [run_bind_of_run hrun, run_bind_of_run hrun]
  cases outcome <;> rfl

/-- Two queries whose paths lead to the same value have the same answer. -/
theorem satisfies_congr (hrecord : record.isScalar = false) (hrecord' : record'.isScalar = false)
    (hpath : record.resolvePath rt field = record'.resolvePath rt field') :
    record.satisfies rt field op value = record'.satisfies rt field' op value := by
  unfold satisfies passes
  simp only [hrecord, hrecord', hpath, Bool.false_eq_true, if_false]
  cases record'.resolvePath rt field' with
  | undefined => rfl
  | _ => exact answers_fst rt _ _ _ _ _ _

/-- The items for which a query is the same as an arrow function on its parameter: nothing, lists
and mappings. -/
inductive IsItem : Value → Prop
  | null : IsItem .null
  | list (kind : ListKind) (items : List Value) : IsItem (.list kind items)
  | map (entries : Fields) : IsItem (.map entries)

/-- With an item as a first field, a record satisfies a query below that field exactly when the item
does. -/
theorem IsItem.satisfies_overlay (h : item.IsItem) (hi : '.' ∉ i.toList) (subject : Value)
    (field : String) (op : QueryOperator) (value : Value) :
    (Scene.overlay [(i, item)] subject).satisfies rt (i ++ "." ++ field) op value =
      item.satisfies rt field op value := by
  obtain ⟨entries, hmap, hentry⟩ : ∃ entries, Scene.overlay [(i, item)] subject = .map entries ∧
      entries.lookup i = some item := by
    cases subject with
    | map entries => exact ⟨_, rfl, List.lookup_cons_self⟩
    | _ => exact ⟨_, rfl, List.lookup_cons_self⟩
  have hpath := resolvePath_cons rt hi hentry field
  rw [hmap]
  cases h with
  | null =>
    -- for nothing itself a query is not tested at all, and below a field nothing is found
    have hnone : (Value.map entries).satisfies rt (i ++ "." ++ field) op value = false := by
      unfold satisfies passes
      rw [hpath, resolvePath_null]
      rfl
    rw [hnone]
    rfl
  | list => exact satisfies_congr rt rfl rfl hpath
  | map => exact satisfies_congr rt rfl rfl hpath

end Value

end Trigger
