/-!
# TOML documents

The values of a TOML document, the lines that a document is made of, and the table that lines
stand for. A document is refused if a line would change something that was written down before:
a key has one value, a table is opened once, and tables and arrays inside values stay as they are.
-/

namespace Trigger.Toml

/-- The values of documents. -/
inductive TomlValue where
  | str (s : String)
  | int (i : Int)
  | float (x : Float)
  | bool (b : Bool)
  /-- A date, a time or both. -/
  | moment (text : String)
  | array (items : List TomlValue)
  | table (entries : List (String × TomlValue))

instance : Inhabited TomlValue := ⟨.bool false⟩

/-- The names that lead to a value, from the outermost table. -/
abbrev Key := List String

/-- The entries of a table. -/
abbrev Entries := List (String × TomlValue)

/-- A line of a document. -/
inductive Line where
  | value (key : Key) (v : TomlValue)
  /-- A header that opens a table. -/
  | table (key : Key)
  /-- A header that adds a table to an array. -/
  | item (key : Key)

/-- Whether a value is a table or an array. -/
def TomlValue.isContainer : TomlValue → Bool
  | .array _ => true
  | .table _ => true
  | _ => false

namespace Entries

/-- The entries with a new value for a key that may be there already. -/
def set (k : String) (v : TomlValue) : Entries → Entries
  | [] => [(k, v)]
  | (l, w) :: rest => if l = k then (l, v) :: rest else (l, w) :: set k v rest

/-- The entries with one more, whose key must be new. -/
def add (k : String) (v : TomlValue) (entries : Entries) : Option Entries :=
  if (entries.lookup k).isSome then none else some (entries ++ [(k, v)])

/-- The array with its last item changed, which must be a table. -/
def changeLast (change : Entries → Option Entries) : List TomlValue → Option (List TomlValue)
  | [] => none
  | [.table entries] => (change entries).map fun entries => [.table entries]
  | [_] => none
  | v :: rest => (changeLast change rest).map (v :: ·)

/-- The entries with the table behind a key changed. Tables that are missing on the way are made.
If `intoArrays` is set, an array stands for its last table. -/
def change (intoArrays : Bool) (f : Entries → Option Entries) : Key → Entries → Option Entries
  | [], entries => f entries
  | k :: key, entries =>
    match entries.lookup k with
    | none => (change intoArrays f key []).map fun inner => entries ++ [(k, .table inner)]
    | some (.table inner) =>
      (change intoArrays f key inner).map fun inner => set k (.table inner) entries
    | some (.array items) =>
      if intoArrays then
        (changeLast (change intoArrays f key) items).map fun items => set k (.array items) entries
      else none
    | some _ => none

/-- The entries with one more table in an array, which may be new. -/
def append (k : String) (entries : Entries) : Option Entries :=
  match entries.lookup k with
  | none => some (entries ++ [(k, .array [.table []])])
  | some (.array items) => some (set k (.array (items ++ [.table []])) entries)
  | some _ => none

end Entries

/-- What has been read of a document. -/
structure Document where
  entries : Entries := []
  /-- The table that was opened last. -/
  header : Key := []
  /-- The keys of values that must stay as they are, with everything behind them. -/
  frozen : List Key := []
  /-- The keys of tables that cannot be opened again. -/
  closed : List Key := []
  /-- The keys of tables that cannot be opened again after the next header. -/
  pending : List Key := []

namespace Document

/-- Whether a key is, or lies behind, one of the given keys. -/
def isBehind (keys : List Key) (key : Key) : Bool := keys.any (·.isPrefixOf key)

/-- The parts of a key that lead to tables on the way from a header, the key itself left out. -/
def stops (header key : Key) : List Key :=
  (List.range (key.length - 1)).map fun i => header ++ key.take (i + 1)

/-- Adds a value. -/
def addValue (d : Document) (key : Key) (v : TomlValue) : Option Document := do
  let stops := stops d.header key
  if stops.any d.closed.contains then none
  let parent := d.header ++ key.dropLast
  if isBehind d.frozen parent then none
  let entries ← Entries.change true (Entries.add (key.getLastD "") v) parent d.entries
  return { d with
    entries
    pending := stops ++ d.pending
    frozen := if v.isContainer then (d.header ++ key) :: d.frozen else d.frozen }

/-- Opens a table. -/
def openTable (d : Document) (key : Key) : Option Document := do
  let closed := d.pending ++ d.closed
  if closed.contains key || isBehind d.frozen key then none
  let entries ← Entries.change true some key d.entries
  return { d with entries, header := key, closed := key :: closed, pending := [] }

/-- Adds a table to an array and opens it. What was said about the table before it is forgotten. -/
def openItem (d : Document) (key : Key) : Option Document := do
  if isBehind d.frozen key then none
  let keep (keys : List Key) : List Key := keys.filter fun k => !key.isPrefixOf k
  let entries ← Entries.change true (Entries.append (key.getLastD "")) key.dropLast d.entries
  return { d with
    entries
    header := key
    frozen := keep d.frozen
    closed := key :: keep (d.pending ++ d.closed)
    pending := [] }

/-- Adds a line. -/
def addLine (d : Document) : Line → Option Document
  | .value key v => d.addValue key v
  | .table key => d.openTable key
  | .item key => d.openItem key

/-- The table that the lines of a document stand for. -/
def ofLines? (lines : List Line) : Option Entries :=
  (lines.foldlM addLine {}).map (·.entries)

end Document

/-- Adds an entry to an inline table, of which the keys in `frozen` must stay as they are. -/
def addInline (entries : Entries) (frozen : List Key) (key : Key) (v : TomlValue) :
    Option (Entries × List Key) := do
  if Document.isBehind frozen key then none
  let entries ← Entries.change false (Entries.add (key.getLastD "") v) key.dropLast entries
  return (entries, if v.isContainer then key :: frozen else frozen)

/-- The table that the entries of an inline table stand for. -/
def inlineTable? (pairs : List (Key × TomlValue)) : Option Entries :=
  (pairs.foldlM (fun (t : Entries × List Key) p => addInline t.1 t.2 p.1 p.2) ([], [])).map (·.1)

end Trigger.Toml
