import Trigger.Proofs.Lookup.Path

/-!
# Fields that are absent or null

A path leads somewhere if each of its names is held by the value that the names before it lead to.
Null holds no name. Truth values and numbers hold the names of the attributes that the language gives
them. A query is not passed where its path leads nowhere, and no test but equality is passed where one
of its two sides is null or undefined. Two sides of which one is null or undefined are equal if both
are so.
-/

namespace Trigger

namespace Value

/-! ## Where a path leads -/

/-- Whether the members of a value are attributes: it is something, and no mapping, list or string. -/
def hasAttributes : Value → Bool
  | .null => false
  | .undefined => false
  | .map _ => false
  | .list .. => false
  | .str _ => false
  | _ => true

section

variable (rt : Runtime)

/-- The member that a value holds under a name. What is undefined is not there. -/
inductive Holds : Value → String → Value → Prop
  | entry {entries : Fields} {name : String} {w : Value} (h : entries.lookup name = some w)
      (hw : w ≠ .undefined) : Holds (.map entries) name w
  | listLength (kind : ListKind) (items : List Value) :
      Holds (.list kind items) "length" (.int items.length)
  | item (kind : ListKind) {items : List Value} {name : String} {x : Float} {w : Value}
      (hname : name ≠ "length") (hnumeral : Decimal.ofText? (Text.trim name.toList) = some x)
      (h : atNumber items x = some w) (hw : w ≠ .undefined) : Holds (.list kind items) name w
  | stringLength (s : String) : Holds (.str s) "length" (.int s.length)
  | character {s name : String} {x : Float} {c : Char} (hname : name ≠ "length")
      (hnumeral : Decimal.ofText? (Text.trim name.toList) = some x)
      (h : atNumber s.toList x = some c) : Holds (.str s) name (ofChar c)
  | ofHost {v : Value} {name : String} {w : Value} (hv : v.hasAttributes = true)
      (h : hostAttribute rt v name = some w) (hw : w ≠ .undefined) : Holds v name w

/-- A path of names leads from a value to another one. -/
inductive LeadsTo : Value → List String → Value → Prop
  | here (v : Value) : LeadsTo v [] v
  | step {v u w : Value} {name : String} {rest : List String} (h : Holds rt v name u)
      (hrest : LeadsTo u rest w) : LeadsTo v (name :: rest) w

end

variable {rt : Runtime} {v w u : Value} {name : String} {names rest : List String} {entries : Fields}

/-- The item that a name stands for. -/
theorem itemAt_str {α : Type} (items : List α) (name : String) :
    itemAt items (.str name) =
      .ok ((Decimal.ofText? (Text.trim name.toList)).bind (atNumber items)) := by
  unfold itemAt
  dsimp only
  cases Decimal.ofText? (Text.trim name.toList) <;> rfl

/-- The members of a list are its length and its items. -/
theorem property_list (kind : ListKind) (items : List Value) (name : String) :
    (list kind items).property rt name = if name = "length" then .int items.length
      else ((Decimal.ofText? (Text.trim name.toList)).bind (atNumber items)).getD .undefined := by
  refine Except.ok.inj ((member_str rt _ name).symm.trans ?_)
  simp only [member, isLength, itemAt_str, beq_iff_eq]
  split <;> rfl

/-- The members of a string are its length and its characters. -/
theorem property_str (s name : String) :
    (str s).property rt name = if name = "length" then .int s.length
      else (((Decimal.ofText? (Text.trim name.toList)).bind (atNumber s.toList)).map ofChar).getD
        .undefined := by
  refine Except.ok.inj ((member_str rt _ name).symm.trans ?_)
  simp only [member, isLength, itemAt_str, beq_iff_eq]
  split <;> rfl

/-- What is found under a name and not undefined is the property. -/
theorem getD_eq_iff {found : Option Value} (hw : w ≠ .undefined) :
    found.getD .undefined = w ↔ found = some w := by
  cases found with
  | none => exact ⟨fun h => absurd h.symm hw, fun h => nomatch h⟩
  | some a => simp

/-- An attribute is the property. -/
theorem property_of_hostAttribute (hv : v.hasAttributes = true)
    (h : hostAttribute rt v name = some w) : v.property rt name = w := by
  have hgetD : (hostAttribute rt v name).getD .undefined = w := by rw [h, Option.getD_some]
  cases v with
  | null | undefined | map | list | str => cases hv
  | _ => exact hgetD

/-- A value holds what its property is, unless that is undefined. -/
theorem holds_iff (hw : w ≠ .undefined) : v.Holds rt name w ↔ v.property rt name = w := by
  constructor
  · intro h
    cases h with
    | entry h => exact (getD_eq_iff hw).mpr h
    | listLength => rw [property_list, if_pos rfl]
    | item kind hname hnumeral h =>
      rw [property_list, if_neg hname, hnumeral, Option.bind_some, h, Option.getD_some]
    | stringLength => rw [property_str, if_pos rfl]
    | character hname hnumeral h =>
      rw [property_str, if_neg hname, hnumeral, Option.bind_some, h, Option.map_some,
        Option.getD_some]
    | ofHost hv h => exact property_of_hostAttribute hv h
  · intro h
    cases v with
    | null | undefined => exact absurd h.symm hw
    | map entries => exact .entry ((getD_eq_iff hw).mp h) hw
    | list kind items =>
      rw [property_list] at h
      split at h
      · next hname =>
        subst hname h
        exact .listLength kind items
      · next hname =>
        obtain ⟨x, hnumeral, hitem⟩ := Option.bind_eq_some_iff.mp ((getD_eq_iff hw).mp h)
        exact .item kind hname hnumeral hitem hw
    | str s =>
      rw [property_str] at h
      split at h
      · next hname =>
        subst hname h
        exact .stringLength s
      · next hname =>
        obtain ⟨c, hchar, rfl⟩ := Option.map_eq_some_iff.mp ((getD_eq_iff hw).mp h)
        obtain ⟨x, hnumeral, hitem⟩ := Option.bind_eq_some_iff.mp hchar
        exact .character hname hnumeral hitem
    | _ => exact .ofHost rfl ((getD_eq_iff hw).mp h) hw

/-- Undefined is not held. -/
theorem Holds.ne_undefined (h : v.Holds rt name w) : w ≠ .undefined := by
  cases h <;> first | assumption | simp [ofChar]

/-- Null and undefined hold nothing. -/
theorem Holds.isNullish_eq_false (h : v.Holds rt name w) : v.isNullish = false := by
  cases hv : v.isNullish with
  | false => rfl
  | true =>
    have hproperty := (holds_iff h.ne_undefined).mp h
    exact absurd (hproperty.symm.trans (property_of_isNullish hv)) h.ne_undefined

/-- Nothing is found behind undefined. -/
theorem follow_undefined (names : List String) : Value.undefined.follow rt names = .undefined := by
  cases names <;> rfl

/-- A path leads to what is found by following it, unless that is undefined. -/
theorem leadsTo_iff (hw : w ≠ .undefined) : v.LeadsTo rt names w ↔ v.follow rt names = w := by
  induction names generalizing v with
  | nil =>
    constructor
    · rintro ⟨⟩
      rfl
    · rintro rfl
      exact .here _
  | cons name rest ih =>
    rw [follow]
    constructor
    · rintro (_ | ⟨h, hrest⟩)
      rw [h.isNullish_eq_false, if_neg Bool.false_ne_true, (holds_iff h.ne_undefined).mp h]
      exact ih.mp hrest
    · intro h
      split at h
      · exact absurd h.symm hw
      · have hrest := ih.mpr h
        by_cases hproperty : v.property rt name = .undefined
        · rw [hproperty, follow_undefined] at h
          exact absurd h.symm hw
        · exact .step ((holds_iff hproperty).mpr rfl) hrest

/-- A value holds one member at most under a name. -/
theorem Holds.unique (h : v.Holds rt name u) (h' : v.Holds rt name w) : u = w :=
  ((holds_iff h.ne_undefined).mp h).symm.trans ((holds_iff h'.ne_undefined).mp h')

/-- A path leads to one value at most. -/
theorem LeadsTo.unique (h : v.LeadsTo rt names u) (h' : v.LeadsTo rt names w) : u = w := by
  induction h with
  | here =>
    cases h' with
    | here => rfl
  | step hfirst _ ih =>
    cases h' with
    | step hfirst' hrest =>
      obtain rfl := hfirst.unique hfirst'
      exact ih hrest

/-- A path does not lead on where its next name is not held. -/
theorem LeadsTo.exists_holds {before : List String} (h : v.LeadsTo rt (before ++ name :: rest) w)
    (hu : v.LeadsTo rt before u) : ∃ x, u.Holds rt name x := by
  induction hu with
  | here =>
    cases h with
    | step hname _ => exact ⟨_, hname⟩
  | step hfirst _ ih =>
    cases h with
    | step hfirst' hrest =>
      obtain rfl := hfirst.unique hfirst'
      exact ih hrest

/-- Undefined is not found behind something else. -/
theorem LeadsTo.ne_undefined (h : v.LeadsTo rt names w) (hv : v ≠ .undefined) : w ≠ .undefined := by
  induction h with
  | here => exact hv
  | step h _ ih => exact ih h.ne_undefined

/-! ## Tests with null or undefined on one side -/

/-- A boxed number is neither null nor undefined, and so is the number in it. -/
theorem isNullish_unbox (v : Value) : v.unbox.isNullish = v.isNullish := by
  cases v with
  | boxed b =>
    obtain ⟨number, -, -⟩ := b
    cases number <;> rfl
  | _ => rfl

/-- What is null or undefined equals what is so too, and nothing else. -/
theorem looseEquals_of_isNullish {language : Language}
    (h : v.isNullish = true ∨ w.isNullish = true) :
    v.looseEquals language w = .ok (v.isNullish && w.isNullish) := by
  rw [← isNullish_unbox v, ← isNullish_unbox w] at h ⊢
  unfold looseEquals
  dsimp only
  generalize v.unbox = a at h ⊢
  generalize w.unbox = b at h ⊢
  rcases h with h | h
  · cases a with
    | null | undefined => cases b <;> rfl
    | _ => cases h
  · cases b with
    | null | undefined => cases a <;> rfl
    | _ => cases h

variable {language : Language} {field : String} {op : QueryOperator} {value : Value}

/-- No test but equality is passed where one of its sides is null or undefined. -/
theorem test_of_isNullish (hop : op ≠ .equals) (h : v.isNullish = true ∨ value.isNullish = true) :
    op.test language v value = pure false := by
  have hnullish : (v.isNullish || value.isNullish) = true := by simpa using h
  have hnone : (!v.isNullish && !value.isNullish) = false := by
    rw [← Bool.not_or, hnullish, Bool.not_true]
  cases op with
  | equals => exact absurd rfl hop
  | contains | includes | startsWith | endsWith =>
    simp only [QueryOperator.test, QueryOperator.compareTexts, hnone, Bool.false_and]
  | «matches» | regex =>
    rw [QueryOperator.test, QueryOperator.occurs, if_pos hnullish]
  | gt | lt | gte | lte | other =>
    rw [QueryOperator.test, QueryOperator.compareNumbers, if_pos hnullish]
    rfl

/-- The test for equality answers whether both sides are null or undefined if one of them is so. -/
theorem test_equals_of_isNullish (h : v.isNullish = true ∨ value.isNullish = true) :
    QueryOperator.equals.test language v value = pure (v.isNullish && value.isNullish) := by
  rw [QueryOperator.test, looseEquals_of_isNullish h]
  rfl

/-- A test that is decided is the answer. -/
theorem answers_of_test {answer : Bool} (h : op.test rt.toLanguage v value = pure answer) :
    v.answers rt field op value = pure answer := by
  rw [answers, h]
  rfl

/-! ## Queries -/

/-- No query is passed where its path leads nowhere. -/
theorem passes_of_not_leadsTo (h : ∀ w, ¬v.LeadsTo rt (pathNames field) w) :
    v.passes rt field op value = pure false := by
  have hresolve : v.resolvePath rt field = .undefined := by
    by_contra hne
    exact h _ ((leadsTo_iff hne).mpr rfl)
  rw [passes, hresolve]
  split <;> rfl

/-- A query tests what its path leads to. -/
theorem passes_of_leadsTo (h : (map entries).LeadsTo rt (pathNames field) w) :
    (map entries).passes rt field op value = w.answers rt field op value := by
  have hw := h.ne_undefined (by simp)
  have hresolve : (map entries).resolvePath rt field = w := (leadsTo_iff hw).mp h
  simp only [passes, isScalar, Bool.false_eq_true, if_false, hresolve]

/-- A query about a mapping is not passed where a name of its path is missing or stands behind null,
nor, unless it tests equality, where one of its two sides is null or undefined. A field that is null
equals null and undefined only, and nothing but such a field equals these. A name is missing if it is
neither that of a member nor that of an attribute which the language gives to a number. -/
theorem passes_of_absent_or_null (rt : Runtime) (entries : Fields) (field : String)
    (op : QueryOperator) (value : Value) :
    let record := Value.map entries
    let names := pathNames field
    (∀ before name after u, names = before ++ name :: after → record.LeadsTo rt before u →
      (u = .null ∨ ∀ w, ¬u.Holds rt name w) → record.passes rt field op value = pure false) ∧
    (op ≠ .equals → ((∃ w, record.LeadsTo rt names w ∧ w.isNullish) ∨ value.isNullish) →
      record.passes rt field op value = pure false) ∧
    (record.LeadsTo rt names .null →
      record.passes rt field .equals value = pure value.isNullish) ∧
    (value.isNullish → ∃ answer, record.passes rt field .equals value = pure answer ∧
      (answer = true ↔ record.LeadsTo rt names .null)) := by
  intro record names
  have absent {op' : QueryOperator} (h : ∀ w, ¬record.LeadsTo rt names w) :
      record.passes rt field op' value = pure false := passes_of_not_leadsTo h
  have present {op' : QueryOperator} {w : Value} {answer : Bool} (h : record.LeadsTo rt names w)
      (htest : op'.test rt.toLanguage w value = pure answer) :
      record.passes rt field op' value = pure answer :=
    (passes_of_leadsTo h).trans (answers_of_test htest)
  refine ⟨?missing, ?nullish, ?nullField, ?nullValue⟩
  case missing =>
    intro before name after u hnames hu hend
    refine absent fun w hw => ?_
    obtain ⟨x, hx⟩ := (hnames ▸ hw).exists_holds hu
    rcases hend with rfl | hnone
    · exact Bool.noConfusion hx.isNullish_eq_false
    · exact hnone x hx
  case nullish =>
    intro hop hnullish
    by_cases h : ∃ w, record.LeadsTo rt names w
    · obtain ⟨w, hw⟩ := h
      refine present hw (test_of_isNullish hop ?_)
      rcases hnullish with ⟨u, hu, hnull⟩ | hnull
      · exact .inl ((hw.unique hu) ▸ hnull)
      · exact .inr hnull
    · exact absent (not_exists.mp h)
  case nullField =>
    intro h
    exact present h (test_equals_of_isNullish (.inl rfl))
  case nullValue =>
    intro hnull
    by_cases h : ∃ w, record.LeadsTo rt names w
    · obtain ⟨w, hw⟩ := h
      have htest : QueryOperator.equals.test rt.toLanguage w value = pure w.isNullish := by
        rw [test_equals_of_isNullish (.inr hnull), hnull, Bool.and_true]
      -- what a field holds is never undefined, so a nullish field is null
      refine ⟨w.isNullish, present hw htest, fun hw' => ?_, fun hnone => ?_⟩
      · cases w with
        | null => exact hw
        | undefined => exact absurd rfl (hw.ne_undefined (by simp [record]))
        | _ => exact absurd hw' Bool.false_ne_true
      · obtain rfl := hw.unique hnone
        rfl
    · have hnone : ¬record.LeadsTo rt names .null := fun h' => h ⟨_, h'⟩
      exact ⟨false, absent (not_exists.mp h), iff_of_false Bool.false_ne_true hnone⟩

/-- A name behind null and a name that is missing pass no test, a field that is null passes the one
for equality with undefined, and a number has no attribute of a name that the language does not
know. -/
theorem passes_of_absent_or_null_nested :
    let rt : Runtime := { toLanguage := .standard, scene := none }
    let record := Value.map [("a", .map [("b", .null), ("n", .int 5)])]
    (record.LeadsTo rt ["a", "b"] .null ∧
      (∀ w, ¬(Value.map [("b", .null), ("n", .int 5)]).Holds rt "c" w) ∧
      ∀ w, ¬(Value.int 5).Holds rt "size" w) ∧
    record.passes rt "a.b.c" .equals .null = pure false ∧
    record.passes rt "a.c" .lte (.int 5) = pure false ∧
    record.passes rt "a.n.size" .lte (.int 5) = pure false ∧
    record.passes rt "a.b" .lte (.int 5) = pure false ∧
    record.passes rt "a.b" .equals .undefined = pure true ∧
    ∃ answer, record.passes rt "a.b" .equals .null = pure answer ∧
      (answer = true ↔ record.LeadsTo rt ["a", "b"] .null) := by
  intro rt record
  have hinner : record.LeadsTo rt ["a"] (.map [("b", .null), ("n", .int 5)]) :=
    .step (.entry rfl (by simp)) (.here _)
  have hnull : record.LeadsTo rt ["a", "b"] .null :=
    .step (.entry rfl (by simp)) (.step (.entry rfl (by simp)) (.here _))
  have hnumber : record.LeadsTo rt ["a", "n"] (.int 5) :=
    .step (.entry rfl (by simp)) (.step (.entry rfl (by simp)) (.here _))
  have hnone (w : Value) : ¬(Value.map [("b", .null), ("n", .int 5)]).Holds rt "c" w := by
    intro h
    exact absurd ((holds_iff h.ne_undefined).mp h).symm h.ne_undefined
  have hsize (w : Value) : ¬(Value.int 5).Holds rt "size" w := by
    intro h
    exact absurd ((holds_iff h.ne_undefined).mp h).symm h.ne_undefined
  have tests := passes_of_absent_or_null rt [("a", .map [("b", .null), ("n", .int 5)])]
  obtain ⟨hbehind, -, -, -⟩ := tests "a.b.c" .equals .null
  obtain ⟨hmissing, -, -, -⟩ := tests "a.c" .lte (.int 5)
  obtain ⟨hattribute, -, -, -⟩ := tests "a.n.size" .lte (.int 5)
  obtain ⟨-, hother, -, -⟩ := tests "a.b" .lte (.int 5)
  obtain ⟨-, -, hfield, -⟩ := tests "a.b" .equals .undefined
  obtain ⟨-, -, -, hvalue⟩ := tests "a.b" .equals .null
  refine ⟨⟨hnull, hnone, hsize⟩, ?_, ?_, ?_, ?_, hfield hnull, hvalue rfl⟩
  · exact hbehind ["a", "b"] "c" [] .null rfl hnull (.inl rfl)
  · exact hmissing ["a"] "c" [] _ rfl hinner (.inr hnone)
  · exact hattribute ["a", "n"] "size" [] _ rfl hnumber (.inr hsize)
  · exact hother (by simp) (.inl ⟨.null, hnull, rfl⟩)

/-- A record in which a number stands at the end of a path passes a query for an attribute of that
number, although the record has no such field. -/
theorem passes_of_attribute :
    let rt : Runtime := { toLanguage := .standard, scene := none }
    let record := Value.map [("level", .int 10)]
    (record.LeadsTo rt ["level"] (.int 10) ∧ (Value.int 10).Holds rt "real" (.int 10)) ∧
      record.passes rt "level.real" .equals (.int 10) = pure true := by
  intro rt record
  refine ⟨⟨.step (.entry rfl (by simp)) (.here _), .ofHost rfl rfl (by simp)⟩, rfl⟩

end Value

end Trigger
