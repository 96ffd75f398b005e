import Trigger.Eval.Basic
import Trigger.Proofs.Renumbering.InStep
import Trigger.Proofs.Renumbering.Value

/-!
# What two evaluations have in common

An accord says how far apart the numbers of two evaluations are, which names mean the same in both,
and on which first names of paths their subjects agree. An expression is within an accord if it
looks up no other names, and a value is if the expressions and queries in it do not. Functions of
the host are values of an accord only if everything is the same in both evaluations, since nothing
is known about what they do with their arguments.

An accord may also have bases: names of objects that have the same members in both evaluations but
need not be the same otherwise. An expression within it takes their members, uses them as numbers or
truth values, or compares them with constants, but does nothing else with them.
-/

namespace Trigger

/-- What two evaluations have in common. -/
structure Accord where
  /-- What the second evaluation adds to the numbers of the first one. -/
  distance : Nat
  /-- The names that mean the same. -/
  names : String → Prop
  /-- The names of fields that the subjects share. -/
  heads : String → Prop
  /-- The names of objects that share their members. -/
  bases : String → Prop := fun _ => False
  /-- Arrow functions are made. -/
  arrows : Prop := True
  /-- Functions of the host are called. -/
  hosts : Prop
  all_of_hosts : hosts → distance = 0 ∧ (∀ x, names x) ∧ (∀ x, heads x) ∧ arrows

/-- The first name of a path. -/
def headName (path : String) : String := (Value.pathNames path).headD ""

/-- A path starts with a shared field, or goes on behind an object that shares its members. -/
def Accord.Reads (A : Accord) (path : String) : Prop :=
  A.heads (headName path) ∨ A.bases (headName path) ∧ 2 ≤ (Value.pathNames path).length

/-- The operators that tell equal values from others. -/
def BinaryOperator.isEquality : BinaryOperator → Bool
  | .looseEq | .looseNe | .strictEq | .strictNe => true
  | _ => false

/-- The operators that take objects as numbers. A sum may also be that of texts. -/
def BinaryOperator.isNumeric : BinaryOperator → Bool
  | .lt | .le | .gt | .ge | .sub | .mul | .div | .rem => true
  | _ => false

/-- Whether an expression is a constant that is no object. -/
def Expr.isConstant : Expr → Bool
  | .literal v => decide (v.unbox.kind ≠ .object)
  | _ => false

/-- A name of an object that shares its members. -/
def Expr.IsBase (A : Accord) : Expr → Prop
  | .name x => A.bases x
  | _ => False

mutual

/-- The expressions and queries in a value look up nothing outside an accord. -/
def Value.Within (A : Accord) : Value → Prop
  | .list _ items => Value.AllWithin A items
  | .map entries => Value.FieldsWithin A entries
  | .object attributes => Value.FieldsWithin A attributes
  | .native _ parts => Value.FieldsWithin A parts
  | .query _ field _ v => A.Reads field ∧ Value.Within A v
  | .host _ => A.hosts
  | .arrow _ _ body locals => A.arrows ∧ Expr.Within A body ∧ Value.LocalsWithin A locals
  | .null => True
  | .undefined => True
  | .bool _ => True
  | .int _ => True
  | .float _ => True
  | .str _ => True
  | .boxed _ => True
  | .pattern _ => True
  | .builtin .. => True
  | .global _ => True

/-- All of some values are within an accord. -/
def Value.AllWithin (A : Accord) : List Value → Prop
  | [] => True
  | v :: rest => Value.Within A v ∧ Value.AllWithin A rest

/-- The values of entries are within an accord. -/
def Value.FieldsWithin (A : Accord) : List (String × Value) → Prop
  | [] => True
  | (_, v) :: rest => Value.Within A v ∧ Value.FieldsWithin A rest

/-- The variables around an arrow function are within an accord. -/
def Value.LocalsWithin (A : Accord) : List (List (String × Value)) → Prop
  | [] => True
  | fields :: rest => Value.FieldsWithin A fields ∧ Value.LocalsWithin A rest

/-- An expression looks up nothing outside an accord, and the values in it have no numbers that
could differ. A base stands only where its members, its number or its truth are asked for. -/
def Expr.Within (A : Accord) : Expr → Prop
  | .literal v => Value.Within A v ∧ v.renumber A.distance = v
  | .name x => A.names x
  | .member obj _ => Expr.Within A obj ∨ obj.IsBase A
  | .index obj key => (Expr.Within A obj ∨ obj.IsBase A) ∧ Expr.Within A key
  | .call callee args => Expr.Within A callee ∧ Expr.AllWithin A args
  | .unary _ operand => Expr.Within A operand ∨ operand.IsBase A
  | .binary op left right =>
    Expr.Within A left ∧ Expr.Within A right ∨
      (op.isNumeric = true ∧ (Expr.Within A left ∨ left.IsBase A) ∧
        (Expr.Within A right ∨ right.IsBase A)) ∨
      op.isEquality = true ∧ left.IsBase A ∧ right.isConstant = true
  | .logical op left right =>
    (Expr.Within A left ∨ op = .and ∧ left.IsBase A) ∧ Expr.Within A right
  | .arrow _ body => A.arrows ∧ Expr.Within A body
  | .list items => Expr.AllWithin A items
  | .query field _ value => A.Reads field ∧ Expr.Within A value
  | .foreign _ => True

/-- All of some expressions are within an accord. -/
def Expr.AllWithin (A : Accord) : List Expr → Prop
  | [] => True
  | e :: rest => Expr.Within A e ∧ Expr.AllWithin A rest

end

variable {A : Accord}

/-! ## Everything in common -/

mutual

/-- Where functions of the host are called, every value is within the accord. -/
theorem Value.within_of_hosts (h : A.hosts) : ∀ v : Value, v.Within A
  | .list _ items => Value.allWithin_of_hosts h items
  | .map entries => Value.fieldsWithin_of_hosts h entries
  | .object attributes => Value.fieldsWithin_of_hosts h attributes
  | .native _ parts => Value.fieldsWithin_of_hosts h parts
  | .query _ _ _ v => ⟨.inl ((A.all_of_hosts h).2.2.1 _), Value.within_of_hosts h v⟩
  | .host _ => h
  | .arrow _ _ body locals => ⟨(A.all_of_hosts h).2.2.2, Expr.within_of_hosts h body,
    Value.localsWithin_of_hosts h locals⟩
  | .null | .undefined | .bool _ | .int _ | .float _ | .str _ | .boxed _ | .pattern _
  | .builtin .. | .global _ => trivial

/-- Where functions of the host are called, all values are within the accord. -/
theorem Value.allWithin_of_hosts (h : A.hosts) : ∀ vs : List Value, Value.AllWithin A vs
  | [] => trivial
  | v :: rest => ⟨Value.within_of_hosts h v, Value.allWithin_of_hosts h rest⟩

/-- Where functions of the host are called, all entries are within the accord. -/
theorem Value.fieldsWithin_of_hosts (h : A.hosts) :
    ∀ fields : List (String × Value), Value.FieldsWithin A fields
  | [] => trivial
  | (_, v) :: rest => ⟨Value.within_of_hosts h v, Value.fieldsWithin_of_hosts h rest⟩

/-- Where functions of the host are called, all variables are within the accord. -/
theorem Value.localsWithin_of_hosts (h : A.hosts) :
    ∀ locals : List (List (String × Value)), Value.LocalsWithin A locals
  | [] => trivial
  | fields :: rest => ⟨Value.fieldsWithin_of_hosts h fields, Value.localsWithin_of_hosts h rest⟩

/-- Where functions of the host are called, every expression is within the accord. -/
theorem Expr.within_of_hosts (h : A.hosts) : ∀ e : Expr, e.Within A
  | .literal v => ⟨Value.within_of_hosts h v, by rw [(A.all_of_hosts h).1, Value.renumber_zero]⟩
  | .name x => (A.all_of_hosts h).2.1 x
  | .member obj _ => .inl (Expr.within_of_hosts h obj)
  | .index obj key => ⟨.inl (Expr.within_of_hosts h obj), Expr.within_of_hosts h key⟩
  | .call callee args => ⟨Expr.within_of_hosts h callee, Expr.allWithin_of_hosts h args⟩
  | .unary _ operand => .inl (Expr.within_of_hosts h operand)
  | .binary _ left right => .inl ⟨Expr.within_of_hosts h left, Expr.within_of_hosts h right⟩
  | .logical _ left right => ⟨.inl (Expr.within_of_hosts h left), Expr.within_of_hosts h right⟩
  | .arrow _ body => ⟨(A.all_of_hosts h).2.2.2, Expr.within_of_hosts h body⟩
  | .list items => Expr.allWithin_of_hosts h items
  | .query _ _ value => ⟨.inl ((A.all_of_hosts h).2.2.1 _), Expr.within_of_hosts h value⟩
  | .foreign _ => trivial

/-- Where functions of the host are called, all expressions are within the accord. -/
theorem Expr.allWithin_of_hosts (h : A.hosts) : ∀ es : List Expr, Expr.AllWithin A es
  | [] => trivial
  | e :: rest => ⟨Expr.within_of_hosts h e, Expr.allWithin_of_hosts h rest⟩

end

namespace Value

/-! ## Data -/

mutual

/-- Whether a value is plain data, in which there are no functions and no objects of the language. -/
def isData : Value → Bool
  | .list _ items => areData items
  | .map entries => fieldsAreData entries
  | .object attributes => fieldsAreData attributes
  | .native .. => false
  | .query .. => false
  | .builtin .. => false
  | .global _ => false
  | .host _ => false
  | .arrow .. => false
  | .null => true
  | .undefined => true
  | .bool _ => true
  | .int _ => true
  | .float _ => true
  | .str _ => true
  | .boxed _ => true
  | .pattern _ => true

/-- Whether all of some values are plain data. -/
def areData : List Value → Bool
  | [] => true
  | v :: rest => isData v && areData rest

/-- Whether the values of entries are plain data. -/
def fieldsAreData : List (String × Value) → Bool
  | [] => true
  | (_, v) :: rest => isData v && fieldsAreData rest

end

mutual

/-- Plain data have no numbers. -/
theorem renumber_of_isData {d : Nat} : ∀ v : Value, v.isData = true → v.renumber d = v
  | .list _ items, h => by rw [renumber, renumberAll_of_areData items h]
  | .map entries, h => by rw [renumber, renumberFields_of_areData entries h]
  | .object attributes, h => by rw [renumber, renumberFields_of_areData attributes h]
  | .native .., h | .query .., h | .arrow .., h => by cases h
  | .null, _ | .undefined, _ | .bool _, _ | .int _, _ | .float _, _ | .str _, _ | .boxed _, _
  | .pattern _, _ | .builtin .., _ | .global _, _ | .host _, _ => rfl

/-- Lists of plain data have no numbers. -/
theorem renumberAll_of_areData {d : Nat} :
    ∀ vs : List Value, areData vs = true → renumberAll d vs = vs
  | [], _ => rfl
  | v :: rest, h => by
    rw [areData, Bool.and_eq_true] at h
    rw [renumberAll, renumber_of_isData v h.1, renumberAll_of_areData rest h.2]

/-- Entries that are plain data have no numbers. -/
theorem renumberFields_of_areData {d : Nat} :
    ∀ fields : List (String × Value), fieldsAreData fields = true → renumberFields d fields = fields
  | [], _ => rfl
  | (k, v) :: rest, h => by
    rw [fieldsAreData, Bool.and_eq_true] at h
    rw [renumberFields, renumber_of_isData v h.1, renumberFields_of_areData rest h.2]

end

mutual

/-- Numbers do not matter to whether a value is plain data. -/
theorem isData_renumber (d : Nat) : ∀ v : Value, (v.renumber d).isData = v.isData
  | .list _ items => by rw [renumber, isData, isData, areData_renumberAll d items]
  | .map entries => by rw [renumber, isData, isData, fieldsAreData_renumberFields d entries]
  | .object attributes => by
    rw [renumber, isData, isData, fieldsAreData_renumberFields d attributes]
  | .native .. | .query .. | .arrow .. | .null | .undefined | .bool _ | .int _ | .float _ | .str _
  | .boxed _ | .pattern _ | .builtin .. | .global _ | .host _ => rfl

/-- Numbers do not matter to whether values are plain data. -/
theorem areData_renumberAll (d : Nat) : ∀ vs : List Value, areData (renumberAll d vs) = areData vs
  | [] => rfl
  | v :: rest => by
    rw [renumberAll, areData, areData, isData_renumber d v, areData_renumberAll d rest]

/-- Numbers do not matter to whether entries are plain data. -/
theorem fieldsAreData_renumberFields (d : Nat) : ∀ fields : List (String × Value),
    fieldsAreData (renumberFields d fields) = fieldsAreData fields
  | [] => rfl
  | (k, v) :: rest => by
    rw [renumberFields, fieldsAreData, fieldsAreData, isData_renumber d v,
      fieldsAreData_renumberFields d rest]

end

mutual

/-- Plain data look up nothing. -/
theorem within_of_isData : ∀ v : Value, v.isData = true → v.Within A
  | .list _ items, h => allWithin_of_areData items h
  | .map entries, h => fieldsWithin_of_areData entries h
  | .object attributes, h => fieldsWithin_of_areData attributes h
  | .native .., h | .query .., h | .host _, h | .arrow .., h => by cases h
  | .null, _ | .undefined, _ | .bool _, _ | .int _, _ | .float _, _ | .str _, _ | .boxed _, _
  | .pattern _, _ | .builtin .., _ | .global _, _ => trivial

/-- Lists of plain data look up nothing. -/
theorem allWithin_of_areData : ∀ vs : List Value, areData vs = true → AllWithin A vs
  | [], _ => trivial
  | v :: rest, h => by
    rw [areData, Bool.and_eq_true] at h
    exact ⟨within_of_isData v h.1, allWithin_of_areData rest h.2⟩

/-- Entries that are plain data look up nothing. -/
theorem fieldsWithin_of_areData :
    ∀ fields : List (String × Value), fieldsAreData fields = true → FieldsWithin A fields
  | [], _ => trivial
  | (_, v) :: rest, h => by
    rw [fieldsAreData, Bool.and_eq_true] at h
    exact ⟨within_of_isData v h.1, fieldsWithin_of_areData rest h.2⟩

end

/-! ## Parts of values within an accord -/

/-- Values are within an accord one by one. -/
theorem allWithin_iff {vs : List Value} : AllWithin A vs ↔ ∀ v ∈ vs, v.Within A := by
  induction vs with
  | nil => exact ⟨fun _ => List.forall_mem_nil _, fun _ => trivial⟩
  | cons v vs ih => rw [AllWithin, List.forall_mem_cons, ih]

/-- Entries are within an accord one by one. -/
theorem fieldsWithin_iff {fields : Fields} :
    FieldsWithin A fields ↔ ∀ entry ∈ fields, entry.2.Within A := by
  induction fields with
  | nil => exact ⟨fun _ => List.forall_mem_nil _, fun _ => trivial⟩
  | cons entry fields ih =>
    obtain ⟨k, v⟩ := entry
    rw [FieldsWithin, List.forall_mem_cons, ih]

/-- What is looked up in entries within an accord is within it. -/
theorem within_of_lookup {fields : Fields} {key : String} {v : Value}
    (h : FieldsWithin A fields) (hv : fields.lookup key = some v) : v.Within A := by
  obtain ⟨before, after, rfl, -⟩ := List.lookup_eq_some_iff.mp hv
  exact fieldsWithin_iff.mp h (key, v) (by simp)

/-- An item at a position is one of the items. -/
theorem mem_of_atPosition {α : Type} {items : List α} {i : Int} {a : α}
    (h : atPosition items i = some a) : a ∈ items := by
  unfold atPosition at h
  split at h
  · exact List.mem_of_getElem? h
  · cases h

/-- An item at the position that a key stands for is one of the items. -/
theorem mem_of_itemAt {α : Type} {items : List α} {key : Value} {a : α}
    (h : itemAt items key = .ok (some a)) : a ∈ items := by
  have hnumber {x : Float} (h : atNumber items x = some a) : a ∈ items := by
    unfold atNumber at h
    split at h
    · exact mem_of_atPosition h
    · cases h
  unfold itemAt at h
  split at h
  · exact mem_of_atPosition (Except.ok.inj h)
  · exact mem_of_atPosition (Except.ok.inj h)
  · split at h
    · exact hnumber (Except.ok.inj h)
    · cases h
  · cases hx : key.toNumber with
    | error e => rw [hx] at h; cases h
    | ok x => rw [hx] at h; exact hnumber (Except.ok.inj h)

/-- What is found, or undefined, is within an accord if everything that can be found is. -/
theorem within_getD {found : Option Value} (h : ∀ v, found = some v → v.Within A) :
    (found.getD .undefined).Within A := by
  cases found with
  | none => trivial
  | some v => exact h v rfl

/-! ## Matching values -/

/-- The second value is the first one with its numbers changed, and both are within the accord. -/
def Matched (A : Accord) (v w : Value) : Prop := w = v.renumber A.distance ∧ v.Within A

/-- Plain data match themselves. -/
theorem matched_of_isData {v : Value} (h : v.isData = true) : Matched A v v :=
  ⟨(renumber_of_isData v h).symm, within_of_isData v h⟩

/-- The second values are the first ones with their numbers changed, all within the accord. -/
def AllMatched (A : Accord) (vs ws : List Value) : Prop :=
  ws = vs.map (renumber A.distance) ∧ AllWithin A vs

/-- Lists of matching values match. -/
theorem matched_list {vs ws : List Value} (h : AllMatched A vs ws) :
    Matched A (.ofList vs) (.ofList ws) := by
  obtain ⟨rfl, hwithin⟩ := h
  refine ⟨?_, hwithin⟩
  rw [ofList, ofList, renumber, renumberAll_eq_map]

/-- Matching values in front of matching ones. -/
theorem allMatched_cons {v w : Value} {vs ws : List Value} (h : Matched A v w)
    (hrest : AllMatched A vs ws) : AllMatched A (v :: vs) (w :: ws) := by
  obtain ⟨rfl, hv⟩ := h
  obtain ⟨rfl, hvs⟩ := hrest
  exact ⟨rfl, hv, hvs⟩

end Value

/-- The parameters of a function with arguments within an accord. -/
theorem within_bind (params : List String) {args : List Value} (h : Value.AllWithin A args) :
    Value.FieldsWithin A (Frame.bind params args) := by
  have hpair (args : List Value) (h : Value.AllWithin A args) :
      Value.FieldsWithin A (Frame.pair params args) := by
    induction params generalizing args with
    | nil => trivial
    | cons p params ih =>
      cases args with
      | nil => exact ⟨trivial, ih [] trivial⟩
      | cons v args => exact ⟨h.1, ih args h.2⟩
  have hset {key : String} {v : Value} {fields : Fields} (hv : v.Within A)
      (hfields : Value.FieldsWithin A fields) : Value.FieldsWithin A (Fields.set key v fields) := by
    induction fields with
    | nil => exact ⟨hv, trivial⟩
    | cons entry fields ih =>
      obtain ⟨k, w⟩ := entry
      rw [Fields.set]
      split
      · exact ⟨hv, hfields.2⟩
      · exact ⟨hfields.1, ih hfields.2⟩
  have hupdate {fields others : Fields} (hfields : Value.FieldsWithin A fields)
      (hothers : Value.FieldsWithin A others) :
      Value.FieldsWithin A (Fields.update fields others) := by
    induction others generalizing fields with
    | nil => exact hfields
    | cons entry others ih => exact ih (hset hothers.1 hfields) hothers.2
  exact hupdate trivial (hpair args h)

end Trigger
