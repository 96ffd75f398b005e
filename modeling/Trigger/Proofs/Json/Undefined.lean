import Trigger.Proofs.Json.Plain

/-!
# Values with undefined parts

JSON has no form for undefined. Where a value that is otherwise written as it is holds undefined, at
whatever depth, the string that describes undefined is read in its place. What is put in the place
of undefined can be seen from the value if and only if undefined stands in it.
-/

namespace Trigger

namespace Value

mutual

/-- Whether a value is made of null, undefined, truth values, integers and strings, in lists and in
mappings with distinct keys. -/
def isSimple : Value → Bool
  | .null => true
  | .undefined => true
  | .bool _ => true
  | .int _ => true
  | .str _ => true
  | .list .list items => areSimple items
  | .map entries => decide (entries.map Prod.fst).Nodup && fieldsAreSimple entries
  | _ => false

/-- Whether values are made so. -/
def areSimple : List Value → Bool
  | [] => true
  | v :: rest => isSimple v && areSimple rest

/-- Whether the values of entries are made so. -/
def fieldsAreSimple : List (String × Value) → Bool
  | [] => true
  | (_, v) :: rest => isSimple v && fieldsAreSimple rest

end

mutual

/-- A value with another one in the place of each undefined one, in lists and mappings too. -/
def fillUndefined (w : Value) : Value → Value
  | .undefined => w
  | .list kind items => .list kind (fillUndefinedAll w items)
  | .map entries => .map (fillUndefinedFields w entries)
  | v => v

/-- Values with another one in the place of each undefined one. -/
def fillUndefinedAll (w : Value) : List Value → List Value
  | [] => []
  | v :: rest => fillUndefined w v :: fillUndefinedAll w rest

/-- Entries with another value in the place of each undefined one. -/
def fillUndefinedFields (w : Value) : List (String × Value) → List (String × Value)
  | [] => []
  | (k, v) :: rest => (k, fillUndefined w v) :: fillUndefinedFields w rest

end

mutual

/-- Whether undefined stands in a value: the value itself, or a part of a list or a mapping. -/
def holdsUndefined : Value → Bool
  | .undefined => true
  | .list _ items => holdUndefined items
  | .map entries => fieldsHoldUndefined entries
  | _ => false

/-- Whether undefined stands in one of some values. -/
def holdUndefined : List Value → Bool
  | [] => false
  | v :: rest => holdsUndefined v || holdUndefined rest

/-- Whether undefined stands in the value of an entry. -/
def fieldsHoldUndefined : List (String × Value) → Bool
  | [] => false
  | (_, v) :: rest => holdsUndefined v || fieldsHoldUndefined rest

end

variable {w w' : Value}

mutual

/-- Two fillings of a value differ exactly if undefined stands in it. -/
theorem fillUndefined_eq_iff : ∀ v : Value,
    fillUndefined w v = fillUndefined w' v ↔ w = w' ∨ v.holdsUndefined = false
  | .undefined => by simp [fillUndefined, holdsUndefined]
  | .list kind items => by
    rw [fillUndefined, fillUndefined, holdsUndefined, list.injEq,
      fillUndefinedAll_eq_iff items, eq_self, true_and]
  | .map entries => by
    rw [fillUndefined, fillUndefined, holdsUndefined, map.injEq, fillUndefinedFields_eq_iff entries]
  | .null | .bool _ | .int _ | .float _ | .str _ | .object _ | .boxed _ | .pattern _ | .native ..
  | .query .. | .builtin .. | .global _ | .host _ | .arrow .. => by simp [fillUndefined, holdsUndefined]

/-- Two fillings of values differ exactly if undefined stands in one of them. -/
theorem fillUndefinedAll_eq_iff : ∀ items : List Value,
    fillUndefinedAll w items = fillUndefinedAll w' items ↔ w = w' ∨ holdUndefined items = false
  | [] => by simp [fillUndefinedAll, holdUndefined]
  | v :: rest => by
    rw [fillUndefinedAll, fillUndefinedAll, holdUndefined, List.cons.injEq, fillUndefined_eq_iff v,
      fillUndefinedAll_eq_iff rest, ← or_and_left, Bool.or_eq_false_iff]

/-- Two fillings of entries differ exactly if undefined stands in one of them. -/
theorem fillUndefinedFields_eq_iff : ∀ entries : List (String × Value),
    fillUndefinedFields w entries = fillUndefinedFields w' entries ↔
      w = w' ∨ fieldsHoldUndefined entries = false
  | [] => by simp [fillUndefinedFields, fieldsHoldUndefined]
  | (k, v) :: rest => by
    rw [fillUndefinedFields, fillUndefinedFields, fieldsHoldUndefined, List.cons.injEq,
      Prod.mk.injEq, fillUndefined_eq_iff v, fillUndefinedFields_eq_iff rest, eq_self, true_and,
      ← or_and_left, Bool.or_eq_false_iff]

end

end Value

namespace Json

open Value

/-- What is read where undefined was written. -/
def undefinedText : Value := .str "undefined"

mutual

/-- Undefined is read as the string that describes it, wherever it stands. -/
theorem decoded_of_isSimple : ∀ v : Value, v.isSimple = true →
    decoded v = fillUndefined undefinedText v
  | .null, _ | .undefined, _ | .bool _, _ | .int _, _ | .str _, _ => rfl
  | .list .list items, h => by
    rw [isSimple] at h
    rw [decoded, fillUndefined, decodedItems_of_areSimple items h]
    rfl
  | .map entries, h => by
    rw [isSimple, Bool.and_eq_true, decide_eq_true_eq] at h
    rw [← keys_decodedEntries] at h
    rw [decoded, fillUndefined, Fields.ofList_of_nodup h.1,
      decodedEntries_of_fieldsAreSimple entries h.2]

/-- Items are read as they were, with such strings for undefined. -/
theorem decodedItems_of_areSimple : ∀ items : List Value, areSimple items = true →
    decodedItems items = fillUndefinedAll undefinedText items
  | [], _ => rfl
  | v :: rest, h => by
    rw [areSimple, Bool.and_eq_true] at h
    rw [decodedItems, fillUndefinedAll, decoded_of_isSimple v h.1,
      decodedItems_of_areSimple rest h.2]

/-- Entries are read as they were, with such strings for undefined. -/
theorem decodedEntries_of_fieldsAreSimple : ∀ entries : List (String × Value),
    fieldsAreSimple entries = true →
      decodedEntries entries = fillUndefinedFields undefinedText entries
  | [], _ => rfl
  | (k, v) :: rest, h => by
    rw [fieldsAreSimple, Bool.and_eq_true] at h
    rw [decodedEntries, fillUndefinedFields, decoded_of_isSimple v h.1,
      decodedEntries_of_fieldsAreSimple rest h.2]

end

end Json

end Trigger
