import Trigger.Eval.Frame
import Trigger.Function.Method

/-!
# Renumbered values

Queries and arrow functions carry numbers by which they are told apart. Two evaluations of the same
expression give out the same numbers up to a distance, so their values are the same up to adding
this distance to every number. Nothing but the equality of functions looks at the numbers, and it
only compares them, so renumbering both values of an operation renumbers its result.
-/

namespace Trigger

namespace Value

mutual

/-- A value with a distance added to the numbers of its queries and arrow functions. -/
def renumber (d : Nat) : Value → Value
  | .list kind items => .list kind (renumberAll d items)
  | .map entries => .map (renumberFields d entries)
  | .object attributes => .object (renumberFields d attributes)
  | .native kind parts => .native kind (renumberFields d parts)
  | .query id field op v => .query (id + d) field op (renumber d v)
  | .arrow id params body locals => .arrow (id + d) params body (renumberLocals d locals)
  | .null => .null
  | .undefined => .undefined
  | .bool b => .bool b
  | .int i => .int i
  | .float x => .float x
  | .str s => .str s
  | .boxed b => .boxed b
  | .pattern p => .pattern p
  | .builtin f settings => .builtin f settings
  | .global f => .global f
  | .host name => .host name

/-- Values with their numbers changed. -/
def renumberAll (d : Nat) : List Value → List Value
  | [] => []
  | v :: rest => renumber d v :: renumberAll d rest

/-- Entries with the numbers of their values changed. -/
def renumberFields (d : Nat) : Fields → Fields
  | [] => []
  | (k, v) :: rest => (k, renumber d v) :: renumberFields d rest

/-- The variables around an arrow function with the numbers of their values changed. -/
def renumberLocals (d : Nat) : List Fields → List Fields
  | [] => []
  | fields :: rest => renumberFields d fields :: renumberLocals d rest

end

variable {d : Nat}

/-! ## Lists and mappings -/

/-- Values are renumbered one by one. -/
theorem renumberAll_eq_map (vs : List Value) : renumberAll d vs = vs.map (renumber d) := by
  induction vs with
  | nil => rfl
  | cons v vs ih => rw [renumberAll, ih, List.map_cons]

/-- Entries are renumbered one by one. -/
theorem renumberFields_eq_map (fields : Fields) :
    renumberFields d fields = fields.map fun (k, v) => (k, renumber d v) := by
  induction fields with
  | nil => rfl
  | cons entry fields ih =>
    obtain ⟨k, v⟩ := entry
    rw [renumberFields, ih, List.map_cons]

/-- Renumbering keeps the keys and the order of entries. -/
theorem renumberFields_append (fields others : Fields) :
    renumberFields d (fields ++ others) = renumberFields d fields ++ renumberFields d others := by
  simp only [renumberFields_eq_map, List.map_append]

/-- The entry of a renumbered mapping is the renumbered entry. -/
theorem lookup_renumberFields (key : String) (fields : Fields) :
    (renumberFields d fields).lookup key = (fields.lookup key).map (renumber d) := by
  induction fields with
  | nil => rfl
  | cons entry fields ih =>
    obtain ⟨k, v⟩ := entry
    rw [renumberFields, List.lookup_cons, List.lookup_cons]
    cases key == k with
    | true => rfl
    | false => exact ih

/-- Renumbering keeps the number of entries. -/
theorem length_renumberFields (fields : Fields) :
    (renumberFields d fields).length = fields.length := by
  rw [renumberFields_eq_map, List.length_map]

mutual

/-- Adding nothing to the numbers changes no value. -/
theorem renumber_zero : ∀ v : Value, renumber 0 v = v
  | .list kind items => by rw [renumber, renumberAll_zero items]
  | .map entries => by rw [renumber, renumberFields_zero entries]
  | .object attributes => by rw [renumber, renumberFields_zero attributes]
  | .native kind parts => by rw [renumber, renumberFields_zero parts]
  | .query id field op v => by rw [renumber, renumber_zero v, Nat.add_zero]
  | .arrow id params body locals => by rw [renumber, renumberLocals_zero locals, Nat.add_zero]
  | .null | .undefined | .bool _ | .int _ | .float _ | .str _ | .boxed _ | .pattern _
  | .builtin .. | .global _ | .host _ => rfl

/-- Adding nothing to the numbers changes no values. -/
theorem renumberAll_zero : ∀ vs : List Value, renumberAll 0 vs = vs
  | [] => rfl
  | v :: rest => by rw [renumberAll, renumber_zero v, renumberAll_zero rest]

/-- Adding nothing to the numbers changes no entries. -/
theorem renumberFields_zero : ∀ fields : Fields, renumberFields 0 fields = fields
  | [] => rfl
  | (k, v) :: rest => by rw [renumberFields, renumber_zero v, renumberFields_zero rest]

/-- Adding nothing to the numbers changes no variables. -/
theorem renumberLocals_zero : ∀ locals : List Fields, renumberLocals 0 locals = locals
  | [] => rfl
  | fields :: rest => by rw [renumberLocals, renumberFields_zero fields, renumberLocals_zero rest]

end

/-! ## Kinds and texts -/

@[simp] theorem isNullish_renumber (v : Value) : (v.renumber d).isNullish = v.isNullish := by
  cases v <;> rfl

@[simp] theorem isCallable_renumber (v : Value) : (v.renumber d).isCallable = v.isCallable := by
  cases v <;> rfl

@[simp] theorem isList_renumber (v : Value) : (v.renumber d).isList = v.isList := by
  cases v <;> rfl

@[simp] theorem isScalar_renumber (v : Value) : (v.renumber d).isScalar = v.isScalar := by
  cases v with
  | boxed b => rfl
  | _ => rfl

@[simp] theorem kind_renumber (v : Value) : (v.renumber d).kind = v.kind := by
  cases v <;> rfl

@[simp] theorem isInt_renumber (v : Value) : (v.renumber d).isInt = v.isInt := by
  cases v <;> rfl

/-- Unboxing has nothing to do with numbers. -/
theorem unbox_renumber (v : Value) : (v.renumber d).unbox = v.unbox.renumber d := by
  cases v with
  | boxed b =>
    obtain ⟨number, text, shown⟩ := b
    cases number <;> rfl
  | _ => rfl

@[simp] theorem isTruthy_renumber (v : Value) : (v.renumber d).isTruthy = v.isTruthy := by
  unfold isTruthy
  rw [unbox_renumber]
  cases v.unbox <;> rfl

mutual

/-- The description of a value does not show its number. -/
theorem shown_renumber : ∀ v : Value, (v.renumber d).shown = v.shown
  | .list .list items => by
    unfold renumber shown
    rw [shownAll_renumber items]
  | .list .tuple items => by
    unfold renumber shown
    rw [shownAll_renumber items]
  | .map entries => by
    unfold renumber shown
    rw [shownEntries_renumber entries]
  | .object attributes => by
    unfold renumber shown
    rw [shownAttributes_renumber attributes]
  | .query id field op v => by
    unfold renumber shown
    rw [shown_renumber v]
  | .null | .undefined | .bool _ | .int _ | .float _ | .str _ | .boxed _ | .pattern _
  | .native .. | .builtin .. | .global _ | .host _ | .arrow .. => rfl

/-- The descriptions of values do not show their numbers. -/
theorem shownAll_renumber : ∀ vs : List Value, shownAll (renumberAll d vs) = shownAll vs
  | [] => rfl
  | v :: rest => by
    rw [renumberAll, shownAll, shownAll, shown_renumber v, shownAll_renumber rest]

/-- The descriptions of entries do not show their numbers. -/
theorem shownEntries_renumber :
    ∀ fields : Fields, shownEntries (renumberFields d fields) = shownEntries fields
  | [] => rfl
  | (k, v) :: rest => by
    rw [renumberFields, shownEntries, shownEntries, shown_renumber v, shownEntries_renumber rest]

/-- The descriptions of attributes do not show their numbers. -/
theorem shownAttributes_renumber :
    ∀ fields : Fields, shownAttributes (renumberFields d fields) = shownAttributes fields
  | [] => rfl
  | (k, v) :: rest => by
    rw [renumberFields, shownAttributes, shownAttributes, shown_renumber v,
      shownAttributes_renumber rest]

end

@[simp] theorem scalarText_renumber (v : Value) : (v.renumber d).scalarText = v.scalarText := by
  unfold scalarText
  rw [unbox_renumber]
  cases v.unbox with
  | list kind items => exact shown_renumber (.list kind items)
  | map entries => exact shown_renumber (.map entries)
  | object attributes => exact shown_renumber (.object attributes)
  | native kind parts => exact shown_renumber (.native kind parts)
  | query id field op v => exact shown_renumber (.query id field op v)
  | arrow id params body locals => exact shown_renumber (.arrow id params body locals)
  | _ => rfl

mutual

/-- The text of a value does not depend on numbers. -/
theorem toText_renumber : ∀ v : Value, (v.renumber d).toText = v.toText
  | .list _ items => by rw [renumber, toText, toText, itemTexts_renumber items]
  | .map entries => scalarText_renumber (.map entries)
  | .object attributes => scalarText_renumber (.object attributes)
  | .query id field op v => scalarText_renumber (.query id field op v)
  | .null | .undefined | .bool _ | .int _ | .float _ | .str _ | .boxed _ | .pattern _
  | .native .. | .builtin .. | .global _ | .host _ | .arrow .. => rfl

/-- The texts of items do not depend on numbers. -/
theorem itemTexts_renumber : ∀ vs : List Value, itemTexts (renumberAll d vs) = itemTexts vs
  | [] => rfl
  | v :: rest => by
    rw [renumberAll, itemTexts, itemTexts, isNullish_renumber, toText_renumber v,
      itemTexts_renumber rest]

end

@[simp] theorem textOrEmpty_renumber (v : Value) : (v.renumber d).textOrEmpty = v.textOrEmpty := by
  rw [textOrEmpty, textOrEmpty, isNullish_renumber, toText_renumber]

/-! ## Numbers -/

@[simp] theorem scalarNumber_renumber (v : Value) :
    (v.renumber d).scalarNumber = v.scalarNumber := by
  unfold scalarNumber
  rw [unbox_renumber]
  cases v.unbox <;> rfl

/-- The number that a value stands for does not depend on numbers of functions. -/
theorem toNumber_renumber : ∀ v : Value, (v.renumber d).toNumber = v.toNumber
  | .list _ [] => rfl
  | .list _ [v] => by
    rw [renumber, renumberAll, renumberAll, toNumber, toNumber, toNumber_renumber v]
  | .list _ (_ :: _ :: _) => rfl
  | .map entries => scalarNumber_renumber (.map entries)
  | .object attributes => scalarNumber_renumber (.object attributes)
  | .native kind parts => scalarNumber_renumber (.native kind parts)
  | .query id field op v => scalarNumber_renumber (.query id field op v)
  | .null | .undefined | .bool _ | .int _ | .float _ | .str _ | .boxed _ | .pattern _
  | .builtin .. | .global _ | .host _ | .arrow .. => rfl

/-! ## Equality -/

end Value

/-- A language that compares renumbered values as it compares the values. -/
structure Language.IgnoresNumbers (language : Language) (d : Nat) : Prop where
  identical : ∀ v w,
    language.identical (v.renumber d) (w.renumber d) = language.identical v w
  boxedEquals : ∀ b v, language.boxedEquals b (v.renumber d) = language.boxedEquals b v

/-- Every language does so where no numbers are changed. -/
theorem Language.ignoresNumbers_zero (language : Language) : language.IgnoresNumbers 0 where
  identical v w := by rw [Value.renumber_zero, Value.renumber_zero]
  boxedEquals b v := by rw [Value.renumber_zero]

namespace Value

/-- Two numbers to which the same distance is added are equal if they were. -/
theorem beq_add_right (m n : Nat) : (m + d == n + d) = (m == n) := by
  rw [Bool.eq_iff_iff, beq_iff_eq, beq_iff_eq, Nat.add_right_cancel_iff]

section

variable {language : Language} (hlanguage : language.IgnoresNumbers d)

include hlanguage

mutual

/-- Renumbering two values alike keeps whether they have the same contents. -/
theorem same_renumber :
    ∀ v w : Value, same language (v.renumber d) (w.renumber d) = same language v w
  | .list k items, w => by
    cases w with
    | list l others =>
      unfold renumber same
      rw [sameItems_renumber items others]
    | boxed b => exact hlanguage.boxedEquals b.number (.list k items)
    | _ => rfl
  | .map entries, w => by
    cases w with
    | map others =>
      unfold renumber same
      rw [sameEntries_renumber entries others, length_renumberFields, length_renumberFields]
    | boxed b => exact hlanguage.boxedEquals b.number (.map entries)
    | _ => rfl
  | .object entries, w => by
    cases w with
    | object others =>
      unfold renumber same
      rw [sameEntries_renumber entries others, length_renumberFields, length_renumberFields]
    | boxed b => exact hlanguage.boxedEquals b.number (.object entries)
    | _ => rfl
  | .native kind parts, w => by
    cases w with
    | native kind' others =>
      unfold renumber same
      rw [sameEntries_renumber parts others, length_renumberFields, length_renumberFields]
    | boxed b => exact hlanguage.boxedEquals b.number (.native kind parts)
    | _ => rfl
  | .query id field op v, w => by
    cases w with
    | query id' _ _ _ =>
      unfold renumber same
      exact beq_add_right id id'
    | boxed b => exact hlanguage.boxedEquals b.number (.query id field op v)
    | _ => rfl
  | .arrow id params body locals, w => by
    cases w with
    | arrow id' _ _ _ =>
      unfold renumber same
      exact beq_add_right id id'
    | boxed b => exact hlanguage.boxedEquals b.number (.arrow id params body locals)
    | _ => rfl
  | .boxed b, w => by
    rw [renumber, same, same]
    exact hlanguage.boxedEquals b.number w
  | .null, w | .undefined, w | .bool _, w | .int _, w | .float _, w | .str _, w | .pattern _, w
  | .builtin .., w | .global _, w | .host _, w => by cases w <;> rfl

/-- Renumbering two lists alike keeps whether they have the same items. -/
theorem sameItems_renumber : ∀ vs ws : List Value,
    sameItems language (renumberAll d vs) (renumberAll d ws) = sameItems language vs ws
  | [], [] => rfl
  | [], _ :: _ => rfl
  | _ :: _, [] => rfl
  | v :: rest, w :: others => by
    rw [renumberAll, renumberAll, sameItems, sameItems, hlanguage.identical, same_renumber v w,
      sameItems_renumber rest others]

/-- Renumbering two mappings alike keeps whether every entry of one is one of the other. -/
theorem sameEntries_renumber : ∀ fields others : Fields,
    sameEntries language (renumberFields d fields) (renumberFields d others) =
      sameEntries language fields others
  | [], _ => rfl
  | (k, v) :: rest, others => by
    rw [renumberFields, sameEntries, sameEntries, sameEntries_renumber rest others,
      lookup_renumberFields]
    cases others.lookup k with
    | none => rfl
    | some w =>
      rw [Option.map_some]
      simp only [same_renumber v w, hlanguage.identical]

end

/-- Renumbering two values alike keeps whether they are strictly equal. -/
theorem strictEquals_renumber (v w : Value) :
    strictEquals language (v.renumber d) (w.renumber d) = strictEquals language v w := by
  unfold strictEquals
  simp only [unbox_renumber, kind_renumber, hlanguage.identical, same_renumber hlanguage]

end

@[simp] theorem textEquals_renumber (s : String) (v : Value) :
    textEquals s (v.renumber d) = textEquals s v := by
  have hnumber : (v.renumber d).toNumber = v.toNumber := toNumber_renumber v
  cases v with
  | list | map | object | native | query | arrow =>
    simp only [renumber] at hnumber
    simp only [renumber, textEquals, hnumber]
  | _ => rfl

@[simp] theorem mixedEquals_renumber (v w : Value) :
    mixedEquals (v.renumber d) (w.renumber d) = mixedEquals v w := by
  simp only [mixedEquals, isList_renumber, kind_renumber, toText_renumber, toNumber_renumber,
    textEquals_renumber]

/-- Renumbering two values alike keeps whether they are equal. -/
theorem looseEquals_renumber {language : Language} (hlanguage : language.IgnoresNumbers d)
    (v w : Value) :
    looseEquals language (v.renumber d) (w.renumber d) = looseEquals language v w := by
  unfold looseEquals
  simp only [unbox_renumber, kind_renumber, isNullish_renumber, strictEquals_renumber hlanguage,
    mixedEquals_renumber]

/-! ## Arithmetic and order -/

/-- A sum depends on the texts and numbers of its operands alone. -/
theorem add_renumber (v w : Value) : add (v.renumber d) (w.renumber d) = add v w := by
  have htextual (u : Value) : (u.renumber d).isTextual = u.isTextual := by cases u <;> rfl
  have hnarrow (x : Float) (a b : Value) :
      narrow x (a.renumber d) (b.renumber d) = narrow x a b := by
    simp only [narrow, isInt_renumber]
  simp only [add, unbox_renumber, htextual, toText_renumber, toNumber_renumber, hnarrow]

/-- The result of an arithmetic operator depends on the texts and numbers of its operands alone. -/
theorem arithmetic_renumber (op : BinaryOperator) (v w : Value) :
    arithmetic op (v.renumber d) (w.renumber d) = arithmetic op v w := by
  have hnarrow (x : Float) (a b : Value) :
      narrow x (a.renumber d) (b.renumber d) = narrow x a b := by
    simp only [narrow, isInt_renumber]
  have hquotient (x y : Float) (a b : Value) :
      quotient x y (a.renumber d) (b.renumber d) = quotient x y a b := by
    simp only [quotient, hnarrow]
  simp only [arithmetic, add_renumber, unbox_renumber, toNumber_renumber, hnarrow, hquotient]

/-- The order of two values depends on their texts and numbers alone. -/
theorem compare_renumber (op : BinaryOperator) (v w : Value) :
    compare op (v.renumber d) (w.renumber d) = compare op v w := by
  have hnumber (u : Value) : (u.renumber d).toNumber = u.toNumber := toNumber_renumber u
  have hleft := hnumber v.unbox
  have hright := hnumber w.unbox
  unfold compare
  rw [unbox_renumber, unbox_renumber]
  generalize v.unbox = a at hleft ⊢
  generalize w.unbox = b at hright ⊢
  cases a with
  | str s =>
    cases b with
    | list | map | object | native | query | arrow =>
      simp only [renumber] at hright ⊢
      simp only [hright]
    | _ => rfl
  | list | map | object | native | query | arrow =>
    simp only [renumber] at hleft ⊢
    simp only [hleft, hright]
  | _ => simp only [renumber, hright]

/-- The negative of a value depends on its number alone. -/
theorem negate_renumber (v : Value) : (v.renumber d).negate = v.negate := by
  have hnumber : (v.renumber d).toNumber = v.toNumber := toNumber_renumber v
  cases v with
  | list | map | object | native | query | arrow =>
    simp only [renumber] at hnumber
    simp only [renumber, negate, hnumber]
  | _ => rfl

/-- A value as a number depends on its number alone. -/
theorem posit_renumber (v : Value) : (v.renumber d).posit = v.posit := by
  have hnumber : (v.renumber d).toNumber = v.toNumber := toNumber_renumber v
  cases v with
  | list | map | object | native | query | arrow =>
    simp only [renumber] at hnumber
    simp only [renumber, posit, hnumber]
  | _ => rfl

/-! ## Members -/

mutual

/-- Whether a value can be a key does not depend on numbers. -/
theorem isHashable_renumber : ∀ v : Value, (v.renumber d).isHashable = v.isHashable
  | .list .tuple items => by rw [renumber, isHashable, isHashable, areHashable_renumber items]
  | .list .list _ => rfl
  | .map _ | .object _ | .native .. | .query .. | .arrow .. => rfl
  | .null | .undefined | .bool _ | .int _ | .float _ | .str _ | .boxed _ | .pattern _
  | .builtin .. | .global _ | .host _ => rfl

/-- Whether values can be keys does not depend on numbers. -/
theorem areHashable_renumber : ∀ vs : List Value, areHashable (renumberAll d vs) = areHashable vs
  | [] => rfl
  | v :: rest => by
    rw [renumberAll, areHashable, areHashable, isHashable_renumber v, areHashable_renumber rest]

end

/-- The position that a key stands for does not depend on numbers. -/
theorem itemAt_renumber_key {α : Type} (items : List α) (key : Value) :
    itemAt items (key.renumber d) = itemAt items key := by
  have hnumber : (key.renumber d).toNumber = key.toNumber := toNumber_renumber key
  cases key with
  | list | map | object | native | query | arrow =>
    simp only [renumber] at hnumber
    simp only [renumber, itemAt, hnumber]
  | _ => rfl

/-- The item at a position of a list whose items are changed is the changed item. -/
theorem atPosition_map {α β : Type} (f : α → β) (items : List α) (i : Int) :
    atPosition (items.map f) i = (atPosition items i).map f := by
  unfold atPosition
  split
  · rw [List.getElem?_map]
  · rfl

/-- The item for a key of a list whose items are changed is the changed item. -/
theorem itemAt_map {α β : Type} (f : α → β) (items : List α) (key : Value) :
    itemAt (items.map f) key = (itemAt items key).map (Option.map f) := by
  have hnumber (x : Float) : atNumber (items.map f) x = (atNumber items x).map f := by
    unfold atNumber
    split
    · exact atPosition_map f items _
    · rfl
  unfold itemAt
  split
  · rw [atPosition_map]; rfl
  · rw [atPosition_map]; rfl
  · split
    · rw [hnumber]; rfl
    · rfl
  · cases key.toNumber with
    | error e => rfl
    | ok x => exact congrArg Except.ok (hnumber x)

end Value

/-! ## Frames -/

/-- Parameters with renumbered arguments. -/
theorem pair_renumber (params : List String) (args : List Value) :
    Frame.pair params (args.map (Value.renumber d)) =
      Value.renumberFields d (Frame.pair params args) := by
  induction params generalizing args with
  | nil => rfl
  | cons p params ih =>
    cases args with
    | nil => exact congrArg _ (ih [])
    | cons v args => exact congrArg _ (ih args)

/-- Setting a key commutes with renumbering. -/
theorem set_renumberFields (key : String) (v : Value) (fields : Fields) :
    Fields.set key (v.renumber d) (Value.renumberFields d fields) =
      Value.renumberFields d (Fields.set key v fields) := by
  induction fields with
  | nil => rfl
  | cons entry fields ih =>
    obtain ⟨k, w⟩ := entry
    rw [Value.renumberFields, Fields.set, Fields.set]
    split
    · rfl
    · rw [ih, Value.renumberFields]

/-- The fields for parameters and renumbered arguments are the renumbered fields. -/
theorem bind_renumber (params : List String) (args : List Value) :
    Frame.bind params (args.map (Value.renumber d)) =
      Value.renumberFields d (Frame.bind params args) := by
  have hupdate (others fields : Fields) :
      Fields.update (Value.renumberFields d fields) (Value.renumberFields d others) =
        Value.renumberFields d (Fields.update fields others) := by
    induction others generalizing fields with
    | nil => rfl
    | cons entry others ih =>
      obtain ⟨k, v⟩ := entry
      have hstep := ih (Fields.set k v fields)
      rw [← set_renumberFields] at hstep
      exact hstep
  rw [Frame.bind, Frame.bind, pair_renumber]
  exact hupdate _ []

end Trigger
