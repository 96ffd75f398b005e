import Trigger.Eval.Standard
import Trigger.Proofs.Selection.Verdict
import Trigger.Proofs.Text.Search

/-!
# Methods that search

The methods of lists that take a function go by the truth of its values, whatever else it does. So
they agree: the first item that is found is the first one that is kept, there is one exactly if any
is kept, and all items pass exactly if all are kept. The methods that look for a value agree too: a
value is among the items, or in a string, exactly if it has a position there, and the position is
the least one.
-/

namespace Trigger

/-! ## Calls of methods -/

/-- What a method of a value gives for arguments. -/
def Value.invoke (apply : Value → List Value → Eval Value) (frame : Frame) (v : Value)
    (name : String) (args : List Value) : Eval Value :=
  match v.method? frame.runtime name with
  | none => throw (.notAFunction name)
  | some m => m.call frame.around.host.language apply args

/-- The call of a method of a value with values as arguments. -/
def Expr.methodCall (v : Value) (name : String) (args : List Value) : Expr :=
  .call (.member (.literal v) name) (args.map .literal)

section

variable {apply : Value → List Value → Eval Value} {frame : Frame}

/-- A method is called on what its receiver gives with what its arguments give. -/
theorem evaluate_method {obj : Expr} {args : List Expr} {v : Value} {vs : List Value}
    (hobj : evaluate apply frame obj = pure v) (hargs : evaluateAll apply frame args = pure vs)
    (name : String) :
    evaluate apply frame (.call (.member obj name) args) = v.invoke apply frame name vs := by
  rw [evaluate, hobj, pure_bind, hargs, Value.invoke]
  cases v.method? frame.runtime name with
  | none => rfl
  | some m => exact pure_bind _ _

/-- Values stand for themselves. -/
theorem evaluateAll_literals (vs : List Value) :
    evaluateAll apply frame (vs.map .literal) = pure vs := by
  induction vs with
  | nil => rfl
  | cons v rest ih => rw [List.map_cons, evaluateAll, evaluate, pure_bind, ih, pure_bind]

/-- A method of a value is called with values. -/
theorem evaluate_methodCall (v : Value) (name : String) (args : List Value) :
    evaluate apply frame (.methodCall v name args) = v.invoke apply frame name args := by
  have hreceiver : evaluate apply frame (.literal v) = pure v := by rw [evaluate]
  exact evaluate_method hreceiver (evaluateAll_literals args) name

end

/-! ## Functions that are called on items -/

namespace ListMethod

open Eval (Yields)

variable {bound : Nat} {f : Value → Eval Value} {p : Value → Bool} {items : List Value}

/-- The first item for which a function gives a true value is found. -/
theorem yields_findItem (h : ∀ v ∈ items, Yields bound (f v) (·.isTruthy = p v)) :
    Yields bound (findItem f items) (· = items.find? p) := by
  induction items with
  | nil => exact .pure rfl
  | cons v rest ih =>
    obtain ⟨hv, hrest⟩ := List.forall_mem_cons.mp h
    rw [findItem]
    refine Yields.bind hv fun a ha => ?_
    rw [ha]
    cases hp : p v with
    | true => exact .pure (List.find?_cons_of_pos hp).symm
    | false =>
      rw [List.find?_cons_of_neg (by simp [hp])]
      exact ih hrest

/-- Whether a function gives a true value for all items. -/
theorem yields_everyItem (h : ∀ v ∈ items, Yields bound (f v) (·.isTruthy = p v)) :
    Yields bound (everyItem f items) (· = items.all p) := by
  induction items with
  | nil => exact .pure rfl
  | cons v rest ih =>
    obtain ⟨hv, hrest⟩ := List.forall_mem_cons.mp h
    rw [everyItem]
    refine Yields.bind hv fun a ha => ?_
    rw [ha, List.all_cons]
    cases p v with
    | true => exact ih hrest
    | false => exact .pure rfl

/-- The items for which a function gives a true value are kept. -/
theorem yields_filterItems (h : ∀ v ∈ items, Yields bound (f v) (·.isTruthy = p v)) :
    Yields bound (filterItems f items) (· = items.filter p) := by
  induction items with
  | nil => exact .pure rfl
  | cons v rest ih =>
    obtain ⟨hv, hrest⟩ := List.forall_mem_cons.mp h
    rw [filterItems]
    refine Yields.bind hv fun a ha => Yields.bind (ih hrest) fun kept hkept => .pure ?_
    rw [ha, hkept, List.filter_cons]

end ListMethod

/-! ## Positions -/

/-- A truth value says whether anything is at a position, and an integer is the least position where
something is, or negative. -/
structure Locates (P : ℕ → Prop) (found : Bool) (i : ℤ) : Prop where
  found_iff : found = true ↔ 0 ≤ i
  exists_iff : found = true ↔ ∃ n, P n
  least : 0 ≤ i → IsLeast {n | P n} i.toNat

/-- The value of a position locates what is at the position. -/
theorem exists_locates {P : ℕ → Prop} {position : Option ℕ}
    (hleast : ∀ n, position = some n → IsLeast {n | P n} n)
    (hnone : position = none → ∀ n, ¬P n) :
    ∃ i, positionValue position = .int i ∧ Locates P position.isSome i := by
  cases position with
  | none =>
    refine ⟨-1, rfl, ⟨by simp, ?_, fun h => absurd h (by decide)⟩⟩
    exact iff_of_false Bool.false_ne_true fun ⟨n, hn⟩ => hnone rfl n hn
  | some n =>
    have hn := hleast n rfl
    exact ⟨n, rfl, ⟨by simp, iff_of_true rfl ⟨n, hn.1⟩, fun _ => hn⟩⟩

section

variable (language : Language)

/-- An item that equals a value stands in a list with so many items in front of it. -/
def Value.EqualsAt (x : Value) (items : List Value) (n : ℕ) : Prop :=
  ∃ v, items[n]? = some v ∧ v.strictEquals language x = true

/-- The position of a value in a list is the least one of an equal item. -/
theorem Value.locates_position? (x : Value) (items : List Value) :
    ∃ i, positionValue (ListMethod.position? language x items) = .int i ∧
      Locates (x.EqualsAt language items) (items.any (·.strictEquals language x)) i := by
  rw [← List.findIdx?_isSome]
  refine exists_locates (fun n hn => ?_) fun hnone n => ?_
  · obtain ⟨hlt, hequal, hbefore⟩ := List.findIdx?_eq_some_iff_getElem.mp hn
    refine ⟨⟨items[n], List.getElem?_eq_getElem hlt, hequal⟩, ?_⟩
    rintro m ⟨v, hv, hequal'⟩
    obtain ⟨_, rfl⟩ := List.getElem?_eq_some_iff.mp hv
    exact Nat.le_of_not_lt fun hm => hbefore m hm hequal'
  · rintro ⟨v, hv, hequal⟩
    have hdifferent := List.findIdx?_eq_none_iff.mp hnone v (List.mem_of_getElem? hv)
    exact Bool.false_ne_true (hdifferent.symm.trans hequal)

end

/-- The position of a text in another one is the least one where it stands. -/
theorem Text.locates_find? (needle s : List Char) :
    ∃ i, positionValue (find? needle s) = .int i ∧
      Locates (StandsAt needle s) (contains needle s) i := by
  refine exists_locates (fun n => isLeast_of_find?) fun hnone n hn => ?_
  have hcontains : contains needle s = true :=
    contains_iff_isInfix.mpr (exists_standsAt_iff.mp ⟨n, hn⟩)
  rw [contains, hnone] at hcontains
  cases hcontains

/-! ## Agreement -/

namespace Value

open Eval (Yields)

/-- The methods of lists that take a function agree with what is kept by its values, and the methods
of lists and strings that look for a value agree with its least position. -/
theorem searches_agree (apply : Value → List Value → Eval Value) (frame : Frame) (kind : ListKind)
    (items : List Value) :
    let on (v : Value) (name : String) (arg : Value) :=
      evaluate apply frame (.methodCall v name [arg])
    (∀ (bound : ℕ) (f : Value) (p : Value → Bool),
      (∀ v ∈ items, Yields bound (apply f [v]) (·.isTruthy = p v)) →
        Yields bound (on (list kind items) "filter" f) (· = .ofList (items.filter p)) ∧
        Yields bound (on (list kind items) "find" f)
          (· = (items.filter p).head?.getD .undefined) ∧
        (∃ answer, Yields bound (on (list kind items) "some" f) (· = .bool answer) ∧
          (answer = true ↔ items.filter p ≠ [])) ∧
        ∃ answer, Yields bound (on (list kind items) "every" f) (· = .bool answer) ∧
          (answer = true ↔ items.filter p = items)) ∧
    (∀ x, ∃ found i, on (list kind items) "includes" x = pure (.bool found) ∧
      on (list kind items) "indexOf" x = pure (.int i) ∧
      Locates (x.EqualsAt frame.around.host.language items) found i) ∧
    ∀ s x, ∃ found i, on (str s) "includes" x = pure (.bool found) ∧
      on (str s) "indexOf" x = pure (.int i) ∧
      Locates (Text.StandsAt x.toText.toList s.toList) found i := by
  intro on
  simp only [on, evaluate_methodCall]
  refine ⟨fun bound f p h => ⟨?_, ?_, ⟨items.any p, ?_, ?_⟩, items.all p, ?_, ?_⟩,
    fun x => ?_, fun s x => ?_⟩
  · refine (ListMethod.yields_filterItems (f := Method.unary apply f) h).bind fun kept hkept =>
      .pure ?_
    rw [hkept]
  · refine (ListMethod.yields_findItem (f := Method.unary apply f) h).bind fun found hfound =>
      .pure ?_
    rw [hfound, List.head?_filter]
  · refine (ListMethod.yields_findItem (f := Method.unary apply f) h).bind fun found hfound =>
      .pure ?_
    rw [hfound, List.isSome_find?]
  · simp [List.filter_eq_nil_iff]
  · refine (ListMethod.yields_everyItem (f := Method.unary apply f) h).bind fun all hall =>
      .pure ?_
    rw [hall]
  · simp [List.filter_eq_self]
  · obtain ⟨i, hi, hlocates⟩ := locates_position? frame.around.host.language x items
    exact ⟨_, i, rfl, congrArg pure hi, hlocates⟩
  · obtain ⟨i, hi, hlocates⟩ := Text.locates_find? x.toText.toList s.toList
    exact ⟨_, i, rfl, congrArg pure hi, hlocates⟩

/-- A list with items that are not true, one that is not equal to itself and one that stands there
twice. -/
theorem searches_agree_boolean :
    let items : List Value := [.null, .float Decimal.nan, .str "a", .int 0, .str "", .str "a"]
    let host : Host := .standard fun _ _ => .ok .null
    let frame : Frame := { around := { text := "", scopes := [], subject := .undefined, host } }
    let apply := callFunction host
    let on (name : String) (arg : Value) :=
      evaluate apply frame (.methodCall (list .tuple items) name [arg])
    (∀ v ∈ items, Yields 0 (apply (.global .boolean) [v]) (·.isTruthy = v.isTruthy)) ∧
    Yields 0 (on "filter" (.global .boolean)) (· = .ofList [.str "a", .str "a"]) ∧
    Yields 0 (on "find" (.global .boolean)) (· = .str "a") ∧
    (∃ answer, Yields 0 (on "some" (.global .boolean)) (· = .bool answer) ∧
      (answer = true ↔ [Value.str "a", .str "a"] ≠ [])) ∧
    (∃ found i, on "includes" (.float Decimal.nan) = pure (.bool found) ∧
      on "indexOf" (.float Decimal.nan) = pure (.int i) ∧
      Locates ((float Decimal.nan).EqualsAt .standard items) found i) := by
  intro items host frame apply on
  have hitems : ∀ v ∈ items,
      Yields 0 (apply (.global .boolean) [v]) (·.isTruthy = v.isTruthy) :=
    fun v _ => Yields.pure rfl
  obtain ⟨hmethods, hvalues, -⟩ := searches_agree apply frame .tuple items
  obtain ⟨hfilter, hfind, hsome, -⟩ := hmethods 0 (.global .boolean) isTruthy hitems
  exact ⟨hitems, hfilter, hfind, hsome, hvalues (.float Decimal.nan)⟩

end Value

end Trigger
