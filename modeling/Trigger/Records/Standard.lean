import Trigger.Records.Table

/-!
# The standard library for tables

Tables by their contents. The cells of a column are of one type where that is possible: truth values
among themselves, integers among themselves, and floating-point numbers, which also stand for
integers in a column with a missing cell or with a number that is no integer. Other columns keep
their cells as they are.
-/

namespace Trigger

namespace Table

/-- The kinds of cells that decide the type of a column. -/
inductive CellKind where
  | missing
  | notANumber
  | bool
  | int (i : Int)
  | float
  | other
deriving DecidableEq

/-- The kind of a cell. -/
def CellKind.of (v : Value) : CellKind :=
  match v.unbox with
  | .null => .missing
  | .bool _ => .bool
  | .int i => .int i
  | .float x => if x.isNaN then .notANumber else .float
  | _ => .other

/-- Whether all integers of a column fit into one type of 64 bits, with or without a sign. -/
def fitsWords (kinds : List CellKind) : Bool :=
  let fits (low high : Int) : Bool := kinds.all fun
    | .int i => low ≤ i && i < high
    | _ => true
  fits (-Nat.pow 2 63) (Nat.pow 2 63) || fits 0 (Nat.pow 2 64)

/-- Whether the cells of a column become floating-point numbers. Behind a missing cell, integers need
not fit into words, since a floating-point number holds them. -/
def isFloating (kinds : List CellKind) : Bool :=
  let isInt : CellKind → Bool
    | .int _ => true
    | _ => false
  kinds.all (fun k => k = .missing || k = .notANumber || k = .float || isInt k)
    && fitsWords (kinds.takeWhile (· ≠ .missing))
    && (kinds.contains .float || kinds.contains .notANumber
      || (kinds.contains .missing && kinds.any isInt))

/-- A cell of a column of floating-point numbers. -/
def floatCell (v : Value) : Value :=
  if v.isNullish then .float Decimal.nan
  else match v.unbox.toNumber with
  | .ok x => .float x
  | .error _ => v

/-- The cells of a column, or the labels of an index, in the type that they have together. -/
def typed (cells : List Value) : List Value :=
  if isFloating (cells.map CellKind.of) then cells.map floatCell else cells

/-- The length of the columns. -/
def height (columns : List (String × List Value)) : Nat :=
  match columns with
  | [] => 0
  | (_, cells) :: _ => cells.length

/-- The table of the given columns. Where there are no labels, rows are numbered from zero. -/
def ofColumns (columns : List (String × List Value)) (labels : Option (List Value)) : Table where
  columns := columns.map fun (name, cells) => (name, typed cells)
  labels :=
    match labels with
    | some labels => (typed labels).map Value.unbox
    | none => (List.range (height columns)).map fun (i : Nat) => .int (i : Int)

end Table

/-- The standard library for tables. -/
def TableLibrary.standard : TableLibrary where
  asObjects := Table.mapCells Value.unbox
  present := Table.mapCells fun v => .bool !v.isMissing
  keepWhere t marks other := t.zipCells (Table.keepOr other) marks
  records t := (List.range t.labels.length).map t.rowAt
  select := Table.keepRows

/-- The standard library does to tables what is relied on. -/
theorem TableLibrary.lawful_standard : standard.Lawful :=
  ⟨fun _ => rfl, fun _ => rfl, fun _ _ _ => rfl, fun _ => rfl, fun _ _ _ => rfl⟩

end Trigger
