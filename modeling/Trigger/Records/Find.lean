import Trigger.Engine
import Trigger.Records.Table

/-!
# Finding records

Records are found by a query: an expression, a title, or a function. A text that is no expression
is taken as a title, but one that is an expression and is nested too deeply is refused. The records
that match are returned in the order of the input, or only the first of them.
-/

namespace Trigger

/-- What records are looked for by. -/
inductive RecordQuery where
  | text (s : String)
  /-- A mapping that holds the title of the record. -/
  | titled (fields : Fields)
  | function (f : Value)
  | evaluator (e : Evaluator) (env : Environment)
  /-- A value that can be none of these. -/
  | other (v : Value)

/-- The query that a value is. -/
def RecordQuery.ofValue (v : Value) : RecordQuery :=
  match v with
  | .str s => .text s
  | .map fields => .titled fields
  | v => if v.isCallable then .function v else .other v

/-- A test that records pass or not. -/
inductive RecordPredicate where
  | calls (f : Value)
  | evaluates (e : Evaluator) (env : Environment)
  | hasTitle (title : Value) (field : String)

/-- Why a query cannot be used. -/
inductive RecordQueryError where
  | noTitle (field : String)
  | noQuery
  | tooDeep
deriving DecidableEq, Repr

/-- The wording of an error, where it has one of its own. -/
def RecordQueryError.message? : RecordQueryError → Option String
  | .noTitle field => some ("Query mapping needs a " ++ Text.quote field ++ " key")
  | .noQuery => none
  | .tooDeep => none

namespace RecordPredicate

variable (host : Host)

/-- The test for a query. The title is in the field of that name, or else in the title field of the
engine. A value that is no query at all counts as an expression that could not be compiled, if it
can be looked up in the cache. -/
def ofQuery (query : RecordQuery) (target titleField : Option String) (room : Option Nat := none) :
    EngineM (Except RecordQueryError RecordPredicate) := do
  let e ← get
  let field := Engine.givenOr e.titleField id titleField
  match query with
  | .function f => return .ok (.calls f)
  | .evaluator ev env => return .ok (.evaluates ev env)
  | .titled fields =>
    match fields.lookup field with
    | some title => return .ok (.hasTitle title field)
    | none => return .error (.noTitle field)
  | .text s =>
    match ← Engine.compileIn s .object target room with
    | .ok c => return .ok (.evaluates c.evaluator (e.environment host))
    | .error .tooDeep => return .error .tooDeep
    | .error _ => return .ok (.hasTitle (.str s) field)
  | .other v =>
    if v.isHashable then
      let counts := e.cache.counts
      set { e with cache.counts :=
        { counts with misses := counts.misses + 1, failures := counts.failures + 1 } }
    return .error .noQuery

/-- Whether a record passes the test. -/
def holds (record : Value) : RecordPredicate → Eval Bool
  | .calls f => do return (← callFunction host f [record]).isTruthy
  | .evaluates e env => do
    let v ← ExceptT.lift (e.call env record)
    return v.isTruthy
  | .hasTitle title field =>
    match record with
    | .null => return false
    | .map fields => return ((fields.lookup field).getD .null).strictEquals host.language title
    | _ => throw .noFields

/-- The records that pass the test, in their order. -/
def filter (p : RecordPredicate) : List Value → Eval (List Value)
  | [] => return []
  | record :: rest => do
    let keep ← p.holds host record
    let kept ← filter p rest
    return if keep then record :: kept else kept

/-- The first record that passes the test. The records behind it are not looked at. -/
def first? (p : RecordPredicate) : List Value → Eval (Option Value)
  | [] => return none
  | record :: rest => do
    if ← p.holds host record then return some record
    first? p rest

/-- For each record, whether it passes the test. -/
def marks (p : RecordPredicate) : List Value → Eval (List Bool)
  | [] => return []
  | record :: rest => do
    let keep ← p.holds host record
    return keep :: (← marks p rest)

/-- The part of a table whose rows pass the test. -/
def filterTable (p : RecordPredicate) (t : Table) : Eval Table := do
  return host.tables.select t (← p.marks host (host.tables.rows t))

/-- The first row of a table that passes the test. All rows are looked at. -/
def firstRow? (p : RecordPredicate) (t : Table) : Eval (Option Value) := do
  let rows := host.tables.rows t
  let marks ← p.marks host rows
  return (rows.zip marks).find? (·.2) |>.map (·.1)

end RecordPredicate

/-- Records to look through: one after the other, or the rows of a table. -/
inductive RecordSource where
  | items (records : List Value)
  | table (t : Table)

/-- What is found: all records or rows that match, or the first one. -/
inductive FoundRecords where
  | items (records : List Value)
  | table (t : Table)
  | first (record : Option Value)

section

variable (host : Host)

/-- The records that pass a test, or only the first of them. -/
def RecordPredicate.search (p : RecordPredicate) (first : Bool) : RecordSource → Eval FoundRecords
  | .items records => do
    if first then return .first (← p.first? host records)
    return .items (← p.filter host records)
  | .table t => do
    if first then return .first (← p.firstRow? host t)
    return .table (← p.filterTable host t)

/-- The records that match a query, or only the first of them. -/
def findRecords (query : RecordQuery) (source : RecordSource) (first : Bool)
    (target titleField : Option String) (room : Option Nat := none) :
    EngineM (Except RecordQueryError (Except Fault FoundRecords)) := do
  match ← RecordPredicate.ofQuery host query target titleField room with
  | .error e => return .error e
  | .ok p => return .ok (← (p.search host first source).run)

end

end Trigger
