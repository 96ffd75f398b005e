import Trigger.Value.Fields
import Trigger.Value.Number

/-!
# Tables

A table has named columns of equal length and a label for each row. Tables are handled by a library,
which is taken as it comes. What is relied on is only what each of its functions does to the cells
and labels of a table. The rows of a table are read through the library, as mappings in which missing
cells are null.
-/

namespace Trigger

/-- A table. -/
structure Table where
  columns : List (String × List Value)
  /-- The labels of the rows. -/
  labels : List Value

/-- The items for which a mark is set. -/
def marked {α : Type} (marks : List Bool) (items : List α) : List α :=
  ((items.zip marks).filter (·.2)).map (·.1)

/-- Whether a cell is missing: it is null, not a number, or not a time. -/
def Value.isMissing (v : Value) : Bool :=
  match v.unbox with
  | .null => true
  | .float x => x.isNaN
  | .native kind _ => kind.type == "NaTType" || kind.type == "NAType"
  | _ => false

namespace Table

/-- A table with all cells changed. -/
def mapCells (f : Value → Value) (t : Table) : Table :=
  ⟨t.columns.map fun (name, cells) => (name, cells.map f), t.labels⟩

/-- A table with all cells changed by those of another table at the same places. -/
def zipCells (f : Value → Value → Value) (t other : Table) : Table :=
  ⟨List.zipWith (fun (name, cells) (_, others) => (name, List.zipWith f cells others)) t.columns
    other.columns, t.labels⟩

/-- A cell, or another value where a truth value is not set. -/
def keepOr (other v mark : Value) : Value :=
  match mark with
  | .bool true => v
  | _ => other

/-- The row at a place as a mapping. Of two columns with the same name the last one counts. -/
def rowAt (t : Table) (i : Nat) : Value :=
  .map (Fields.ofList (t.columns.map fun (name, cells) => (name, cells.getD i .null)))

/-- The rows for which a mark is set. -/
def keepRows (t : Table) (marks : List Bool) : Table :=
  ⟨t.columns.map fun (name, cells) => (name, marked marks cells), marked marks t.labels⟩

end Table

/-- A library for tables. -/
structure TableLibrary where
  /-- The table with its cells as plain values, whatever the types of its columns are. -/
  asObjects : Table → Table
  /-- For each cell of a table, whether it is not missing. -/
  present : Table → Table
  /-- The table with another value for each cell for which a table of truth values is false. -/
  keepWhere : Table → Table → Value → Table
  /-- The rows as mappings. -/
  records : Table → List Value
  /-- The rows for which a mark is set. -/
  select : Table → List Bool → Table

/-- What is relied on of a library for tables. -/
structure TableLibrary.Lawful (library : TableLibrary) : Prop where
  asObjects_eq : ∀ t, library.asObjects t = t.mapCells Value.unbox
  present_eq : ∀ t, library.present t = t.mapCells fun v => .bool !v.isMissing
  keepWhere_eq : ∀ t marks other,
    library.keepWhere t marks other = t.zipCells (Table.keepOr other) marks
  records_eq : ∀ t, library.records t = (List.range t.labels.length).map t.rowAt
  select_eq : ∀ t marks, marks.length = t.labels.length → library.select t marks = t.keepRows marks

namespace TableLibrary

/-- The rows of a table as mappings, in which missing cells are null. -/
def rows (library : TableLibrary) (t : Table) : List Value :=
  library.records (library.keepWhere (library.asObjects t) (library.present t) .null)

end TableLibrary

end Trigger
