import Mathlib.Data.List.Infix
import Mathlib.Data.List.Nodup
import Trigger.Proofs.Json.Readback

/-!
# Values that JSON has forms for

Null, truth values, numbers, strings, lists of such values and mappings with distinct keys to such
values are read back as they were: the strings and keys in them are the same ones at the same
places, and so is everything else but floating-point numbers, which are read as what their texts
stand for.
-/

namespace Trigger

namespace Fields

variable {key : String} {v : Value} {fields others : Fields}

/-- A new key comes behind all others. -/
theorem set_of_not_mem (h : key ∉ fields.map Prod.fst) :
    fields.set key v = fields ++ [(key, v)] := by
  induction fields with
  | nil => rfl
  | cons entry rest ih =>
    rw [List.map_cons, List.mem_cons, not_or] at h
    rw [set, if_neg (Ne.symm h.1), ih h.2]
    rfl

/-- Entries with distinct keys that are all new come behind all others. -/
theorem update_of_nodup (h : ((fields ++ others).map Prod.fst).Nodup) :
    fields.update others = fields ++ others := by
  induction others generalizing fields with
  | nil => exact (List.append_nil fields).symm
  | cons entry rest ih =>
    have hnew : entry.1 ∉ fields.map Prod.fst := by
      rw [List.map_append, List.map_cons, List.nodup_append] at h
      exact fun hmem => h.2.2 _ hmem _ List.mem_cons_self rfl
    have hstep : fields.update (entry :: rest) = (fields.set entry.1 entry.2).update rest := rfl
    have hshift : fields ++ [entry] ++ rest = fields ++ entry :: rest := by simp
    rw [hstep, set_of_not_mem hnew, ih (hshift ▸ h), hshift]

/-- Entries with distinct keys are all kept. -/
theorem ofList_of_nodup (h : (others.map Prod.fst).Nodup) : ofList others = others :=
  show update [] others = [] ++ others from update_of_nodup h

/-- Setting a key adds no other one. -/
theorem keys_set (key : String) (v : Value) (fields : Fields) :
    (fields.set key v).map Prod.fst =
      if key ∈ fields.map Prod.fst then fields.map Prod.fst else fields.map Prod.fst ++ [key] := by
  induction fields with
  | nil => rfl
  | cons entry rest ih =>
    obtain ⟨k, w⟩ := entry
    by_cases hk : k = key
    · subst hk
      simp [set]
    · rw [set, if_neg hk, List.map_cons, ih]
      by_cases hmem : key ∈ rest.map Prod.fst <;> simp [hmem, Ne.symm hk]

/-- Setting a key keeps keys distinct. -/
theorem nodup_set (h : (fields.map Prod.fst).Nodup) (key : String) (v : Value) :
    ((fields.set key v).map Prod.fst).Nodup := by
  rw [keys_set]
  split
  · exact h
  · rename_i hnew
    exact List.nodup_append.mpr ⟨h, List.nodup_singleton key, fun a ha b hb heq =>
      hnew (List.mem_singleton.mp hb ▸ heq ▸ ha)⟩

/-- Setting keys keeps keys distinct. -/
theorem nodup_update (h : (fields.map Prod.fst).Nodup) (others : Fields) :
    ((fields.update others).map Prod.fst).Nodup := by
  induction others generalizing fields with
  | nil => exact h
  | cons entry rest ih => exact ih (nodup_set h entry.1 entry.2)

end Fields

namespace Value

mutual

/-- Whether JSON has a form for a value. -/
def isJson : Value → Bool
  | .null => true
  | .bool _ => true
  | .int _ => true
  | .float _ => true
  | .str _ => true
  | .list .list items => areJson items
  | .map entries => decide (entries.map Prod.fst).Nodup && fieldsAreJson entries
  | _ => false

/-- Whether JSON has forms for values. -/
def areJson : List Value → Bool
  | [] => true
  | v :: rest => isJson v && areJson rest

/-- Whether JSON has forms for the values of entries. -/
def fieldsAreJson : List (String × Value) → Bool
  | [] => true
  | (_, v) :: rest => isJson v && fieldsAreJson rest

end

mutual

/-- A value with another number in the place of each floating-point number. -/
def mapFloats (f : Float → Float) : Value → Value
  | .float x => .float (f x)
  | .list kind items => .list kind (mapFloatsAll f items)
  | .map entries => .map (mapFloatsFields f entries)
  | v => v

/-- Values with other floating-point numbers. -/
def mapFloatsAll (f : Float → Float) : List Value → List Value
  | [] => []
  | v :: rest => mapFloats f v :: mapFloatsAll f rest

/-- Entries with other floating-point numbers in their values. -/
def mapFloatsFields (f : Float → Float) : List (String × Value) → List (String × Value)
  | [] => []
  | (k, v) :: rest => (k, mapFloats f v) :: mapFloatsFields f rest

end

mutual

/-- The strings of a value from the left, with the keys of mappings. -/
def strings : Value → List String
  | .str s => [s]
  | .list _ items => stringsAll items
  | .map entries => stringsFields entries
  | _ => []

/-- The strings of values. -/
def stringsAll : List Value → List String
  | [] => []
  | v :: rest => strings v ++ stringsAll rest

/-- The keys of entries and the strings of their values. -/
def stringsFields : List (String × Value) → List String
  | [] => []
  | (k, v) :: rest => k :: (strings v ++ stringsFields rest)

end

end Value

namespace Json

variable {style : Style}

open Value

/-- Entries are read with their keys. -/
theorem keys_decodedEntries (entries : List (String × Value)) :
    (decodedEntries entries).map Prod.fst = entries.map Prod.fst := by
  induction entries with
  | nil => rfl
  | cons entry rest ih => rw [decodedEntries, List.map_cons, List.map_cons, ih]

mutual

/-- A value that JSON has a form for is read as it was, but for floating-point numbers. -/
theorem decoded_of_isJson : ∀ v : Value, v.isJson = true → decoded v = v.mapFloats reread
  | .null, _ | .bool _, _ | .int _, _ | .float _, _ | .str _, _ => rfl
  | .list .list items, h => by
    rw [isJson] at h
    rw [decoded, mapFloats, decodedItems_of_areJson items h]
    rfl
  | .map entries, h => by
    rw [isJson, Bool.and_eq_true, decide_eq_true_eq] at h
    rw [← keys_decodedEntries] at h
    rw [decoded, mapFloats, Fields.ofList_of_nodup h.1, decodedEntries_of_fieldsAreJson entries h.2]

/-- Items are read as they were. -/
theorem decodedItems_of_areJson :
    ∀ items : List Value, areJson items = true → decodedItems items = mapFloatsAll reread items
  | [], _ => rfl
  | v :: rest, h => by
    rw [areJson, Bool.and_eq_true] at h
    rw [decodedItems, mapFloatsAll, decoded_of_isJson v h.1, decodedItems_of_areJson rest h.2]

/-- Entries are read as they were. -/
theorem decodedEntries_of_fieldsAreJson :
    ∀ entries : List (String × Value), fieldsAreJson entries = true →
      decodedEntries entries = mapFloatsFields reread entries
  | [], _ => rfl
  | (k, v) :: rest, h => by
    rw [fieldsAreJson, Bool.and_eq_true] at h
    rw [decodedEntries, mapFloatsFields, decoded_of_isJson v h.1,
      decodedEntries_of_fieldsAreJson rest h.2]

end

/-- The literal of a string is read as that string. -/
theorem read?_writeString (s : String) :
    read? (String.ofList (writeString s.toList)) = some (.str s) :=
  read?_write isSpaced_compact (.str s)

mutual

/-- The literal of each string of a value stands in its text. -/
theorem writeString_infix_write : ∀ (v : Value) {s : String}, s ∈ v.strings →
    writeString s.toList <:+: write style v
  | .str t, s, h => by
    obtain rfl := List.mem_singleton.mp h
    exact List.infix_rfl
  | .list kind items, s, h => by
    have hitems := writeString_infix_writeItems items h
    exact hitems.trans ⟨['['], [']'], rfl⟩
  | .map entries, s, h => by
    have hentries := writeString_infix_writeEntries entries h
    exact hentries.trans ⟨['\x7b'], ['\x7d'], rfl⟩

/-- The literal of each string of items stands in their text. -/
theorem writeString_infix_writeItems : ∀ (items : List Value) {s : String}, s ∈ stringsAll items →
    writeString s.toList <:+: writeItems style items
  | [v], s, h => by
    rw [stringsAll, stringsAll, List.append_nil] at h
    exact writeString_infix_write v h
  | v :: w :: more, s, h => by
    rw [stringsAll] at h
    rw [writeItems_cons]
    rcases List.mem_append.mp h with h | h
    · exact (writeString_infix_write v h).trans ⟨[], style.comma ++ writeItems style (w :: more),
        by simp⟩
    · exact (writeString_infix_writeItems (w :: more) h).trans
        ⟨write style v ++ style.comma, [], by simp⟩

/-- The literal of each string of entries stands in their text. -/
theorem writeString_infix_writeEntries : ∀ (entries : List (String × Value)) {s : String},
    s ∈ stringsFields entries → writeString s.toList <:+: writeEntries style entries
  | [(k, v)], s, h => by
    rw [stringsFields, stringsFields, List.append_nil] at h
    rw [writeEntries]
    rcases List.mem_cons.mp h with rfl | h
    · exact ⟨[], style.colon ++ write style v, by simp⟩
    · exact (writeString_infix_write v h).trans ⟨writeString k.toList ++ style.colon, [], by simp⟩
  | (k, v) :: e :: more, s, h => by
    rw [stringsFields] at h
    rw [writeEntries_cons]
    rcases List.mem_cons.mp h with rfl | h
    · exact ⟨[], style.colon ++ write style v ++ style.comma ++ writeEntries style (e :: more),
        by simp⟩
    rcases List.mem_append.mp h with h | h
    · exact (writeString_infix_write v h).trans ⟨writeString k.toList ++ style.colon,
        style.comma ++ writeEntries style (e :: more), by simp⟩
    · exact (writeString_infix_writeEntries (e :: more) h).trans
        ⟨writeString k.toList ++ style.colon ++ write style v ++ style.comma, [], by simp⟩

end

end Json

end Trigger
