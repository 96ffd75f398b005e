import Trigger.Proofs.Selection.Algebra
import Trigger.Proofs.Selection.Rows

/-!
# Three ways to look through records

Records are searched one after the other, for all that match or up to the first that does, and the
rows of a table are marked all at once. On mappings the test of a text or of a title never fails, so
each way asks it of the same records in the same states, as far as it goes. Hence the first record
is the first of all that match, and a table keeps the rows whose mappings would be found in a list,
each with its label.
-/

namespace Trigger

open Eval (Yields)

/-- An item with its mark in front. -/
@[simp]
theorem marked_cons {α : Type} (mark : Bool) (marks : List Bool) (item : α) (items : List α) :
    marked (mark :: marks) (item :: items) =
      if mark then item :: marked marks items else marked marks items := by
  cases mark <;> rfl

/-- The first item that is marked. -/
theorem head?_marked {α : Type} (marks : List Bool) (items : List α) :
    (marked marks items).head? = ((items.zip marks).find? (·.2)).map (·.1) := by
  rw [marked, List.head?_map, List.head?_filter]

/-! ## Tests that never fail -/

namespace RecordPredicate

variable {host : Host} {p : RecordPredicate} {records : List Value}

/-- The tests that texts and titles are taken as. -/
inductive IsRecordTest : RecordPredicate → Prop
  | evaluates (e : Evaluator) (env : Environment) : IsRecordTest (.evaluates e env)
  | hasTitle (title : Value) (field : String) : IsRecordTest (.hasTitle title field)

/-- Such a test has an answer for every mapping. -/
theorem IsRecordTest.yields_holds (h : p.IsRecordTest) (fields : Fields) :
    Yields 0 (p.holds host (.map fields)) fun _ => True := by
  cases h with
  | evaluates e env =>
    refine Yields.bind (P := fun _ => True) (fun s _ => ?_) fun v _ => .pure trivial
    exact ⟨_, _, rfl, trivial, Nat.zero_le _⟩
  | hasTitle title field => exact .pure trivial

/-- All ways to look through records for which a test has answers go by the same marks. The records
up to any place are found as they are among all. -/
theorem exists_marks (h : ∀ r ∈ records, Yields 0 (p.holds host r) fun _ => True) (s : Effects) :
    ∃ marks, marks.length = records.length ∧
      (∃ t, (p.marks host records).run s = (.ok marks, t)) ∧
      (∃ t, (p.first? host records).run s = (.ok (marked marks records).head?, t)) ∧
      ∀ n, ∃ t, (p.filter host (records.take n)).run s =
        (.ok (marked marks (records.take n)), t) := by
  induction records generalizing s with
  | nil => exact ⟨[], rfl, ⟨s, rfl⟩, ⟨s, rfl⟩, fun n => ⟨s, by rw [List.take_nil]; rfl⟩⟩
  | cons r rest ih =>
    obtain ⟨hr, hrest⟩ := List.forall_mem_cons.mp h
    obtain ⟨keep, t, hkeep, -, -⟩ := hr s (Nat.zero_le _)
    obtain ⟨marks, hlength, ⟨u, hmarks⟩, ⟨v, hfirst⟩, hfilter⟩ := ih hrest t
    refine ⟨keep :: marks, congrArg (· + 1) hlength, ⟨u, ?_⟩, ?_, fun n => ?_⟩
    · exact (Eval.run_bind_of_ok hkeep).trans (Eval.run_bind_of_ok hmarks)
    · cases keep with
      | true => exact ⟨t, Eval.run_bind_of_ok hkeep⟩
      | false => exact ⟨v, (Eval.run_bind_of_ok hkeep).trans hfirst⟩
    · cases n with
      | zero => exact ⟨s, rfl⟩
      | succ n =>
        obtain ⟨w, hw⟩ := hfilter n
        refine ⟨w, (Eval.run_bind_of_ok hkeep).trans ?_⟩
        rw [List.take_succ_cons, marked_cons]
        exact Eval.run_bind_of_ok hw

/-- All searches of records for which a test has answers, and of a table with these rows, find what
the same marks are set for. -/
theorem exists_marks_search (h : ∀ r ∈ records, Yields 0 (p.holds host r) fun _ => True)
    (s : Effects) :
    ∃ marks, marks.length = records.length ∧
      ((p.search host true (.items records)).run s).1 =
        .ok (.first (marked marks records).head?) ∧
      (∀ n, ((p.search host false (.items (records.take n))).run s).1 =
        .ok (.items (marked marks (records.take n)))) ∧
      ∀ table : Table, host.tables.rows table = records →
        ((p.search host true (.table table)).run s).1 =
          .ok (.first (marked marks records).head?) ∧
        ((p.search host false (.table table)).run s).1 =
          .ok (.table (host.tables.select table marks)) := by
  obtain ⟨marks, hlength, ⟨t, hmarks⟩, ⟨u, hfirst⟩, hfilter⟩ := exists_marks h s
  refine ⟨marks, hlength, ?_, fun n => ?_, ?_⟩
  · exact congrArg Prod.fst (Eval.run_bind_of_ok hfirst)
  · obtain ⟨v, hkept⟩ := hfilter n
    exact congrArg Prod.fst (Eval.run_bind_of_ok hkept)
  · rintro table rfl
    have hrow : (p.firstRow? host table).run s =
        (.ok (marked marks (host.tables.rows table)).head?, t) := by
      rw [head?_marked]
      exact Eval.run_bind_of_ok hmarks
    have hselected : (p.filterTable host table).run s =
        (.ok (host.tables.select table marks), t) := Eval.run_bind_of_ok hmarks
    exact ⟨congrArg Prod.fst (Eval.run_bind_of_ok hrow),
      congrArg Prod.fst (Eval.run_bind_of_ok hselected)⟩

end RecordPredicate

/-! ## Queries -/

/-- A text, or a mapping with a title in a field. -/
inductive RecordQuery.IsUsable (field : String) : RecordQuery → Prop
  | text (text : String) : IsUsable field (.text text)
  | titled {fields : Fields} {title : Value} (h : fields.lookup field = some title) :
    IsUsable field (.titled fields)

namespace Session

variable {host : Host} {s t : Session} {query : RecordQuery}
variable {target titleField : Option String}

/-- A text and a title are taken as tests that never fail on mappings. -/
theorem exists_found (host : Host) (target : Option String)
    (h : query.IsUsable (Engine.givenOr s.engine.titleField id titleField)) :
    ∃ p : RecordPredicate, p.IsRecordTest ∧ ∃ effects, ∀ source first,
      s.found host query source first target titleField =
        .ok ((p.search host first source).run.run effects).1 := by
  have hpredicate : ∃ p : RecordPredicate, p.IsRecordTest ∧
      (s.compute (RecordPredicate.ofQuery host query target titleField)).1 = .ok p := by
    cases h with
    | text text =>
      cases hcompiled : (s.engine.compiled ⟨text, .object, target⟩).1 with
      | ok c => exact ⟨_, .evaluates _ _, compute_ofQuery_of_ok hcompiled titleField⟩
      | error error =>
        have hdeep : error ≠ .tooDeep := by
          rintro rfl
          exact compiled_ne_tooDeep _ hcompiled
        exact ⟨_, .hasTitle _ _, compute_ofQuery_of_error hcompiled hdeep titleField⟩
    | @titled fields title hlookup =>
      let field := Engine.givenOr s.engine.titleField id titleField
      refine ⟨.hasTitle title field, .hasTitle title field, ?_⟩
      unfold RecordPredicate.ofQuery
      rw [compute_bind, compute_get]
      dsimp only
      rw [hlookup]
      rfl
  obtain ⟨p, htest, hp⟩ := hpredicate
  exact ⟨p, htest, _, fun source first => found_of_ofQuery hp source first⟩

/-- Two sessions that can be reached, with engines that differ in nothing but their caches, find the
same. -/
theorem Reached.found_eq (hs : Reached host s) (ht : Reached host t)
    (hengine : t.engine = { s.engine with cache := t.engine.cache })
    (hnext : t.effects.nextId = s.effects.nextId) (query : RecordQuery) (source : RecordSource)
    (first : Bool) (target titleField : Option String) :
    t.found host query source first target titleField =
      s.found host query source first target titleField := by
  obtain ⟨base, hbase⟩ := hs.sound
  obtain ⟨base', hbase'⟩ := ht.sound
  have hagree : base.Agree s.engine t.engine :=
    ⟨hbase.engine.settings, hengine, hbase.engine.left, hbase'.engine.left⟩
  exact (findRecords_inStep host query source first target titleField s.engine t.engine hagree
    s.effects t.effects hnext).1.1.symm

/-- All ways to look for records agree, for every text and for every mapping that holds a title, in
one session or in two that differ in nothing but their caches and in what was left behind, apart
from the next number. Of some mappings, the first record that is found is the first one of all. A
table keeps the rows that are found in the list of its rows, in their order and with their labels,
and the first row that is found is the first one of them. -/
theorem Reached.sources_agree (htables : host.tables.Lawful) (hs : Reached host s)
    (ht : Reached host t) (hengine : t.engine = { s.engine with cache := t.engine.cache })
    (hnext : t.effects.nextId = s.effects.nextId) (target titleField : Option String)
    (hquery : query.IsUsable (Engine.givenOr s.engine.titleField id titleField)) :
    (∀ records : List Fields, ∃ kept : List Value,
      s.found host query (.items (records.map .map)) false target titleField =
        .ok (.ok (.items kept)) ∧
      t.found host query (.items (records.map .map)) true target titleField =
        .ok (.ok (.first kept.head?))) ∧
    ∀ table : Table, ∃ (rows : List Fields) (marks : List Bool),
      host.tables.rows table = rows.map .map ∧ table.HasRows rows ∧
      marks.length = table.labels.length ∧
      (∀ n, s.found host query (.items ((rows.map .map).take n)) false target titleField =
        .ok (.ok (.items (marked marks ((rows.map .map).take n))))) ∧
      t.found host query (.table table) false target titleField =
        .ok (.ok (.table ⟨table.columns.map fun (name, cells) => (name, marked marks cells),
          marked marks table.labels⟩)) ∧
      t.found host query (.table table) true target titleField =
        .ok (.ok (.first (marked marks (rows.map .map)).head?)) := by
  obtain ⟨p, htest, effects, hfound⟩ := exists_found host target hquery
  have hmappings (records : List Fields) :
      ∀ r ∈ records.map Value.map, Yields 0 (p.holds host r) fun _ => True :=
    List.forall_mem_map.mpr fun fields _ => htest.yields_holds fields
  simp only [hs.found_eq ht hengine hnext, hfound]
  refine ⟨fun records => ?_, fun table => ?_⟩
  · obtain ⟨marks, -, hfirst, hkept, -⟩ :=
      RecordPredicate.exists_marks_search (hmappings records) effects
    have hall := hkept (records.map Value.map).length
    rw [List.take_length] at hall
    exact ⟨_, congrArg _ hall, congrArg _ hfirst⟩
  · obtain ⟨rows, hrows, hread⟩ := htables.exists_rows table
    obtain ⟨marks, hlength, -, hkept, htable⟩ :=
      RecordPredicate.exists_marks_search (hmappings rows) effects
    obtain ⟨hfirst, hselected⟩ := htable table hrows
    have hlabels : marks.length = table.labels.length := by
      rw [hlength, List.length_map, hread.length_eq]
    rw [htables.select_eq table marks hlabels] at hselected
    exact ⟨rows, marks, hrows, hread, hlabels, fun n => congrArg _ (hkept n), congrArg _ hselected,
      congrArg _ hfirst⟩

/-- Taking a text as a test changes nothing but the cache. -/
theorem compute_ofQuery_keeps (host : Host) (text : String)
    (target titleField : Option String) :
    let t := (s.compute (RecordPredicate.ofQuery host (.text text) target titleField)).2
    t.engine = { s.engine with cache := t.engine.cache } ∧
      t.effects.nextId = s.effects.nextId := by
  intro t
  have ht : t = { s with engine :=
      { s.engine with cache := (s.engine.compiled ⟨text, .object, target⟩).2 } } :=
    compute_ofQuery_snd text target titleField none
  rw [ht]
  exact ⟨rfl, rfl⟩

/-- A title that is nothing, in a table with a missing title, a number that is none and two rows of
one label, and an expression that was compiled between both ways to look for it. -/
theorem Reached.sources_agree_missing :
    let host : Host := .standard fun name _ => .ok (.str name)
    let query : RecordQuery := .titled [("title", .null)]
    let table : Table := ⟨[("title", [.str "Key", .null]), ("level", [.float 1, .float Decimal.nan])],
      [.int 7, .int 7]⟩
    let last : Value := .map [("title", .null), ("level", .null)]
    ∃ e, Engine.ofOptions {} = .ok e ∧
      let s : Session := { engine := e, effects := {} }
      let t := (s.compute (RecordPredicate.ofQuery host (.text "level.gt: 1") none none)).2
      host.tables.Lawful ∧ Reached host s ∧ Reached host t ∧
      t.engine = { s.engine with cache := t.engine.cache } ∧
      t.effects.nextId = s.effects.nextId ∧
      query.IsUsable (Engine.givenOr s.engine.titleField id none) ∧
      host.tables.rows table = [.map [("title", .str "Key"), ("level", .float 1)], last] ∧
      s.found host query (.items (host.tables.rows table)) false none none =
        .ok (.ok (.items [last])) ∧
      t.found host query (.table table) false none none =
        .ok (.ok (.table ⟨[("title", [.null]), ("level", [.float Decimal.nan])], [.int 7]⟩)) ∧
      t.found host query (.table table) true none none = .ok (.ok (.first (some last))) := by
  intro host query table last
  obtain ⟨e, he⟩ : ∃ e, Engine.ofOptions {} = .ok e := ⟨_, rfl⟩
  have htitle : e.titleField = "title" := by
    obtain rfl := Except.ok.inj he
    rfl
  have hs : Reached host { engine := e, effects := {} } := .new he {}
  have ht := hs.predicate (.text "level.gt: 1") none none none
  have hquery : query.IsUsable (Engine.givenOr e.titleField id none) := by
    rw [htitle]
    exact .titled rfl
  obtain ⟨hengine, hnext⟩ := compute_ofQuery_keeps (s := { engine := e, effects := {} }) host
    "level.gt: 1" none none
  obtain ⟨rows, marks, hrows, -, hlength, hkept, htable, hfirst⟩ :=
    (hs.sources_agree TableLibrary.lawful_standard ht hengine hnext none none hquery).2 table
  have hread : host.tables.rows table = [.map [("title", .str "Key"), ("level", .float 1)], last] :=
    rfl
  rw [← hrows, hread] at hkept hfirst
  -- the last row is found, and no row is found before it
  have hbefore : Session.found { engine := e, effects := {} } host query
      (.items [.map [("title", .str "Key"), ("level", .float 1)]]) false none none =
        .ok (.ok (.items [])) := by
    obtain rfl := Except.ok.inj he
    rfl
  have hlast : Session.found { engine := e, effects := {} } host query
      (.items [.map [("title", .str "Key"), ("level", .float 1)], last]) false none none =
        .ok (.ok (.items [last])) := by
    obtain rfl := Except.ok.inj he
    rfl
  obtain ⟨a, b, rfl⟩ := List.length_eq_two.mp hlength
  have hmarked := (hkept 1).symm.trans hbefore
  have hmarked' := (hkept 2).symm.trans hlast
  cases a <;> cases b <;> cases hmarked <;> cases hmarked'
  exact ⟨e, he, TableLibrary.lawful_standard, hs, ht, hengine, hnext, hquery, hread, hread ▸ hkept 2,
    htable, hfirst⟩

end Session

end Trigger
