import Mathlib.Data.List.Induction
import Mathlib.Data.List.GetD
import Trigger.Proofs.Lookup.Agreement
import Trigger.Records.Standard

/-!
# Rows of tables

The rows of a table are read as mappings through a library for tables. Of the library it is known only
what each of its functions does. Together they make of every row a mapping that has the columns as
fields, with the cells of the row as plain values, and null for each cell that is missing.
-/

namespace Trigger

variable {x : String} {v w : Value} {pairs : List (String × Value)}

/-- The last value for a key counts. -/
theorem Fields.lookup_ofList_eq (pairs : List (String × Value)) (x : String) :
    (ofList pairs).lookup x = pairs.reverse.lookup x := by
  -- fields are set one after the other from the left, so the last pair is taken off
  induction pairs using List.reverseRecOn with
  | nil => rfl
  | append_singleton before entry ih =>
    obtain ⟨key, v⟩ := entry
    have hset : ofList (before ++ [(key, v)]) = (ofList before).set key v := by
      rw [ofList, update, List.foldl_append]
      rfl
    rw [hset, List.reverse_append, List.reverse_singleton, List.singleton_append, List.lookup_cons]
    by_cases hkey : key = x
    · subst hkey
      rw [lookup_set_self, beq_self_eq_true]
    · rw [lookup_set_of_ne hkey, ih, beq_false_of_ne (Ne.symm hkey)]

/-- What stands under a key is changed as everything is. -/
theorem List.lookup_map_snd {α β γ : Type} [BEq α] (f : β → γ) (entries : List (α × β)) (key : α) :
    (entries.map fun entry => (entry.1, f entry.2)).lookup key = (entries.lookup key).map f := by
  induction entries with
  | nil => rfl
  | cons entry rest ih =>
    rw [List.map_cons, List.lookup_cons, List.lookup_cons, ih]
    cases key == entry.1 <;> rfl

/-- What a cell is read as: null if it is null, not a number, not a time or not available, and else
its plain value. -/
inductive Value.ReadAs : Value → Value → Prop
  | null : ReadAs .null .null
  | notANumber {v : Value} {x : Float} (hv : v.unbox = .float x) (hx : x.isNaN = true) :
      ReadAs v .null
  | notATime {kind : NativeKind} (h : kind.type = "NaTType") (parts : Fields) :
      ReadAs (.native kind parts) .null
  | notAvailable {kind : NativeKind} (h : kind.type = "NAType") (parts : Fields) :
      ReadAs (.native kind parts) .null
  | present {v : Value} (hnull : v ≠ .null)
      (hnumber : ∀ x : Float, v.unbox = .float x → x.isNaN = false)
      (hkind : ∀ kind parts, v = .native kind parts →
        kind.type ≠ "NaTType" ∧ kind.type ≠ "NAType") : ReadAs v v.unbox

/-- The mappings for the rows of a table: one for each label, with the columns as fields. Of two
columns with the same name the last one counts. -/
structure Table.HasRows (table : Table) (rows : List Fields) : Prop where
  length_eq : rows.length = table.labels.length
  fields : ∀ i row, rows[i]? = some row → ∀ name,
    Option.Rel (fun cells v => Value.ReadAs (cells.getD i .null) v)
      (table.columns.reverse.lookup name) (row.lookup name)

namespace Table

/-- A cell, or null if it is missing. -/
def readCell (v : Value) : Value := keepOr .null v.unbox (.bool !v.isMissing)

/-- Missing cells are read as null. -/
theorem readCell_of_missing (h : v.isMissing = true) : readCell v = .null := by
  rw [readCell, h]
  rfl

/-- Cells that are present are read as plain values. -/
theorem readCell_of_present (h : v.isMissing = false) : readCell v = v.unbox := by
  rw [readCell, h]
  rfl

/-- Numbers are read as they are, except what is not a number. -/
theorem readAs_readCell_of_float {x : Float} (hv : v.unbox = .float x) : v.ReadAs (readCell v) := by
  have hmissing : v.isMissing = x.isNaN := by rw [Value.isMissing, hv]
  cases hx : x.isNaN with
  | true =>
    rw [readCell_of_missing (hmissing.trans hx)]
    exact .notANumber hv hx
  | false =>
    rw [readCell_of_present (hmissing.trans hx)]
    refine .present ?_ (fun y hy => ?_) ?_
    · rintro rfl
      cases hv
    · obtain rfl := Value.float.inj (hv.symm.trans hy)
      exact hx
    · rintro kind parts rfl
      cases hv

/-- Objects of the language are read as they are, except what is no time or not available. -/
theorem readAs_readCell_native (kind : NativeKind) (parts : Fields) :
    (Value.native kind parts).ReadAs (readCell (.native kind parts)) := by
  have hmissing : (Value.native kind parts).isMissing =
      (kind.type == "NaTType" || kind.type == "NAType") := rfl
  by_cases htime : kind.type = "NaTType"
  · rw [readCell_of_missing (by simp [hmissing, htime])]
    exact .notATime htime parts
  · by_cases havailable : kind.type = "NAType"
    · rw [readCell_of_missing (by simp [hmissing, havailable])]
      exact .notAvailable havailable parts
    · rw [readCell_of_present (by simp [hmissing, htime, havailable])]
      refine .present nofun nofun fun kind' parts' h => ?_
      obtain ⟨rfl, -⟩ := Value.native.inj h
      exact ⟨htime, havailable⟩

/-- Cells are read as they are. -/
theorem readAs_readCell (v : Value) : v.ReadAs (readCell v) := by
  cases v with
  | null => exact .null
  | float x => exact readAs_readCell_of_float rfl
  | boxed b =>
    obtain ⟨number, text, shown⟩ := b
    cases number with
    | float64 | float32 => exact readAs_readCell_of_float rfl
    | _ => exact .present nofun nofun nofun
  | native kind parts => exact readAs_readCell_native kind parts
  | _ => exact .present nofun nofun nofun

/-- The table with all cells read. -/
def read (t : Table) : Table := t.mapCells readCell

/-- Cells are read by taking the plain values that are present. -/
theorem zipCells_mapCells (t : Table) :
    (t.mapCells Value.unbox).zipCells (keepOr .null) (t.mapCells fun v => .bool !v.isMissing) =
      t.read := by
  simp only [zipCells, mapCells, List.zipWith_map, List.zipWith_self]
  rfl

/-- A row of the table that was read has, for each column, the cell of the row as it is read. -/
theorem lookup_rowAt (t : Table) (i : Nat) : ∃ row : Fields, t.read.rowAt i = .map row ∧
    ∀ name, row.lookup name =
      (t.columns.reverse.lookup name).map fun cells => readCell (cells.getD i .null) := by
  refine ⟨_, rfl, fun name => ?_⟩
  have hcell (cells : List Value) :
      (cells.map readCell).getD i .null = readCell (cells.getD i .null) :=
    List.getD_map cells .null readCell
  rw [Fields.lookup_ofList_eq]
  simp only [read, mapCells, List.map_map, ← List.map_reverse, Function.comp_def, hcell]
  exact List.lookup_map_snd (fun cells : List Value => readCell (cells.getD i .null)) _ name

end Table

/-- A library that does what is relied on reads the rows of a table. -/
theorem TableLibrary.Lawful.exists_rows {library : TableLibrary} (h : library.Lawful)
    (table : Table) : ∃ rows : List Fields, library.rows table = rows.map .map ∧
      table.HasRows rows := by
  have hrows : library.rows table = (List.range table.labels.length).map table.read.rowAt := by
    rw [rows, h.records_eq, h.keepWhere_eq, h.asObjects_eq, h.present_eq, table.zipCells_mapCells]
    rfl
  choose row hrow hlookup using table.lookup_rowAt
  refine ⟨(List.range table.labels.length).map row, ?_, ?_, fun i fields hi name => ?_⟩
  · rw [hrows, List.map_map]
    exact List.map_congr_left fun i _ => hrow i
  · rw [List.length_map, List.length_range]
  · obtain ⟨hlength, rfl⟩ := List.getElem?_eq_some_iff.mp hi
    rw [List.getElem_map, List.getElem_range, hlookup]
    cases table.columns.reverse.lookup name with
    | none => exact .none
    | some cells => exact .some (Table.readAs_readCell _)

end Trigger
