import Trigger.Proofs.Renumbering.Runtime

/-!
# Values that share their members

Two objects whose members match may have different hidden attributes, so they may look different
and need not be equal. What is reached through them matches all the same: a member, a method, and
the value at the end of a path. What an object is as a number or a truth value, and whether it equals
something that is no object, has nothing to do with its attributes.
-/

namespace Trigger

variable {A : Accord}

namespace Value

/-- The attribute of an object with a name, undefined if it has none or hides it. -/
def shownAttribute (attributes : Fields) (name : String) : Value :=
  (if name.toList.head? = some '_' then none else attributes.lookup name).getD .undefined

/-- The members of an object are its attributes, whatever the language is. -/
theorem property_object (rt : Runtime) (attributes : Fields) (name : String) :
    property rt (.object attributes) name = shownAttribute attributes name := rfl

/-- Two values with matching members, which match themselves or are objects. -/
inductive SharesMembers (A : Accord) : Value → Value → Prop where
  | same {v w : Value} (h : Matched A v w) : SharesMembers A v w
  | objects {attributes others : Fields}
      (h : ∀ name, Matched A (shownAttribute attributes name) (shownAttribute others name)) :
      SharesMembers A (.object attributes) (.object others)

/-! ## Objects without their attributes -/

/-- An object without its attributes, and every other value as it is. -/
def bare : Value → Value
  | .object _ => .object []
  | v => v

/-- Whether a value is nothing does not depend on attributes. -/
theorem isNullish_bare (v : Value) : v.bare.isNullish = v.isNullish := by cases v <;> rfl

/-- Whether a value is true does not depend on attributes. -/
theorem isTruthy_bare (v : Value) : v.bare.isTruthy = v.isTruthy := by cases v <;> rfl

/-- Whether a value is a scalar does not depend on attributes. -/
theorem isScalar_bare (v : Value) : v.bare.isScalar = v.isScalar := by cases v <;> rfl

/-- The negative of a value does not depend on attributes. -/
theorem negate_bare (v : Value) : v.bare.negate = v.negate := by cases v <;> rfl

/-- A value as a number does not depend on attributes. -/
theorem posit_bare (v : Value) : v.bare.posit = v.posit := by cases v <;> rfl

/-- The order of two values does not depend on attributes. -/
theorem compare_bare (op : BinaryOperator) (v u : Value) :
    compare op v.bare u.bare = compare op v u := by
  have hleft : compare op v.bare u.bare = compare op v u.bare := by cases v <;> rfl
  rw [hleft]
  cases u with
  | object attributes =>
    unfold compare
    cases v.unbox <;> rfl
  | _ => rfl

/-- The results of arithmetic other than sums do not depend on attributes. -/
theorem arithmetic_bare {op : BinaryOperator} (hop : op ≠ .add) (v u : Value) :
    arithmetic op v.bare u.bare = arithmetic op v u := by
  have hleft : arithmetic op v.bare u.bare = arithmetic op v u.bare := by
    cases v with
    | object attributes =>
      cases op with
      | add => exact absurd rfl hop
      | _ => rfl
    | _ => rfl
  rw [hleft]
  cases u with
  | object attributes =>
    simp only [arithmetic, if_neg hop, bare, unbox, narrow, quotient, isInt, Bool.and_false,
      toNumber, scalarNumber]
  | _ => rfl

/-- Whether a value is strictly equal to one that is no object does not depend on attributes. -/
theorem strictEquals_bare (language : Language) {u : Value} (hu : u.unbox.kind ≠ .object)
    (v : Value) : v.bare.strictEquals language u = v.strictEquals language u := by
  cases v with
  | object attributes =>
    have hkind (fields : Fields) : ((Value.object fields).unbox.kind == u.unbox.kind) = false :=
      beq_eq_false_iff_ne.mpr hu.symm
    rw [bare, strictEquals, strictEquals, hkind, hkind, Bool.false_and, Bool.false_and]
  | _ => rfl

/-- No object equals a value that is none. -/
theorem looseEquals_object (language : Language) {u : Value} (hu : u.unbox.kind ≠ .object)
    (attributes : Fields) : (Value.object attributes).looseEquals language u = .ok false := by
  unfold looseEquals
  generalize u.unbox = b at hu
  cases b with
  | null | undefined | bool | int | float | str =>
    simp [unbox, kind, isNullish, mixedEquals, isList, pure, Except.pure]
  | _ => exact absurd rfl hu

/-- Whether a value equals one that is no object does not depend on attributes. -/
theorem looseEquals_bare (language : Language) {u : Value} (hu : u.unbox.kind ≠ .object)
    (v : Value) : v.bare.looseEquals language u = v.looseEquals language u := by
  cases v with
  | object attributes =>
    rw [bare, looseEquals_object language hu, looseEquals_object language hu]
  | _ => rfl

/-- A value that is no object has no numbers. -/
theorem renumber_of_kind {d : Nat} {u : Value} (hu : u.unbox.kind ≠ .object) :
    u.renumber d = u := by
  cases u with
  | boxed b => rfl
  | null | undefined | bool | int | float | str => rfl
  | _ => exact absurd rfl hu

/-! ## Scopes -/

/-- A value that is not undefined. -/
def toOption : Value → Option Value
  | .undefined => none
  | v => some v

/-- Matching values are both undefined or match. -/
theorem Matched.toOption {v w : Value} (h : Matched A v w) :
    Option.Rel (Matched A) v.toOption w.toOption := by
  obtain ⟨rfl, hv⟩ := h
  cases v with
  | undefined => exact .none
  | _ => exact .some ⟨rfl, hv⟩

/-- A scope that is no mapping has the names of its members. -/
theorem lookupIn_eq (rt : Runtime) {scope : Value} (h : ∀ entries, scope ≠ .map entries)
    (name : String) : ScopeChain.lookupIn rt name scope = (scope.property rt name).toOption := by
  unfold ScopeChain.lookupIn
  split
  · exact absurd rfl (h _)
  · cases scope.property rt name <;> rfl

/-! ## What is the same of both values -/

namespace SharesMembers

variable {v w : Value}

/-- The members for a name match. -/
theorem property {rt rt' : Runtime} (hrt : RuntimesAgree A rt rt') (h : SharesMembers A v w)
    (name : String) : Matched A (v.property rt name) (w.property rt' name) := by
  cases h with
  | same h =>
    obtain ⟨rfl, hv⟩ := h
    exact property_matched hrt hv name
  | objects h =>
    rw [property_object, property_object]
    exact h name

/-- The members for matching keys match. -/
theorem member {rt rt' : Runtime} (hrt : RuntimesAgree A rt rt') (h : SharesMembers A v w)
    (key : Value) :
    Outcomes (Matched A) (v.member rt key) (w.member rt' (key.renumber A.distance)) := by
  cases h with
  | same h =>
    obtain ⟨rfl, hv⟩ := h
    exact member_matched hrt hv key
  | objects h =>
    cases key with
    | str name => exact h name
    | _ => exact matched_of_isData (v := .undefined) rfl

/-- Without their attributes the values match. -/
theorem bare_eq (h : SharesMembers A v w) : w.bare = v.bare.renumber A.distance := by
  cases h with
  | same h =>
    rw [h.1]
    cases v <;> rfl
  | objects => rfl

/-- Both values are nothing or none is. -/
theorem isNullish (h : SharesMembers A v w) : w.isNullish = v.isNullish := by
  rw [← isNullish_bare w, h.bare_eq, isNullish_renumber, isNullish_bare]

/-- Both values are true or none is. -/
theorem isTruthy (h : SharesMembers A v w) : w.isTruthy = v.isTruthy := by
  rw [← isTruthy_bare w, h.bare_eq, isTruthy_renumber, isTruthy_bare]

/-- Both values are scalars or none is. -/
theorem isScalar (h : SharesMembers A v w) : w.isScalar = v.isScalar := by
  rw [← isScalar_bare w, h.bare_eq, isScalar_renumber, isScalar_bare]

/-- The negatives of both values are the same. -/
theorem negate (h : SharesMembers A v w) : w.negate = v.negate := by
  rw [← negate_bare w, h.bare_eq, negate_renumber, negate_bare]

/-- The values are the same as numbers. -/
theorem posit (h : SharesMembers A v w) : w.posit = v.posit := by
  rw [← posit_bare w, h.bare_eq, posit_renumber, posit_bare]

/-- The values are in the same order. -/
theorem compare (h : SharesMembers A v w) {u x : Value} (hux : SharesMembers A u x)
    (op : BinaryOperator) : Value.compare op w x = Value.compare op v u := by
  rw [← compare_bare op w, h.bare_eq, hux.bare_eq, compare_renumber, compare_bare]

/-- The values give the same results of arithmetic other than sums. -/
theorem arithmetic (h : SharesMembers A v w) {u x : Value} (hux : SharesMembers A u x)
    {op : BinaryOperator} (hop : op ≠ .add) :
    Value.arithmetic op w x = Value.arithmetic op v u := by
  rw [← arithmetic_bare hop w, h.bare_eq, hux.bare_eq, arithmetic_renumber, arithmetic_bare hop]

/-- Both values equal something that is no object, or none does. -/
theorem looseEquals {language : Language} (hlanguage : language.IgnoresNumbers A.distance)
    (h : SharesMembers A v w) {u : Value} (hu : u.unbox.kind ≠ .object) :
    w.looseEquals language u = v.looseEquals language u := by
  have hsame := looseEquals_renumber hlanguage v.bare u
  rw [← h.bare_eq, renumber_of_kind hu, looseEquals_bare language hu,
    looseEquals_bare language hu] at hsame
  exact hsame

/-- Both values are strictly equal to something that is no object, or none is. -/
theorem strictEquals {language : Language} (hlanguage : language.IgnoresNumbers A.distance)
    (h : SharesMembers A v w) {u : Value} (hu : u.unbox.kind ≠ .object) :
    w.strictEquals language u = v.strictEquals language u := by
  have hsame := strictEquals_renumber hlanguage v.bare u
  rw [← h.bare_eq, renumber_of_kind hu, strictEquals_bare language hu,
    strictEquals_bare language hu] at hsame
  exact hsame

/-- Values that are not true match, since objects are true. -/
theorem matched_of_not_isTruthy (h : SharesMembers A v w) (hv : ¬ v.isTruthy = true) :
    Matched A v w := by
  cases h with
  | same h => exact h
  | objects => exact absurd rfl hv

section

variable {rt rt' : Runtime} (hrt : RuntimesAgree A rt rt')

include hrt

/-- A path of members leads to matching values. -/
theorem follow (h : SharesMembers A v w) (name : String) (path : List String) :
    w.follow rt' (name :: path) = (v.follow rt (name :: path)).renumber A.distance := by
  obtain ⟨hrenumber, hwithin⟩ := h.property hrt name
  rw [Value.follow, Value.follow, h.isNullish, hrenumber]
  split
  · rfl
  · exact (follow_matched hrt hwithin path).1

/-- As scopes the values have the same names, with matching values. -/
theorem lookupIn (h : SharesMembers A v w) (name : String) :
    Option.Rel (Matched A) (ScopeChain.lookupIn rt name v) (ScopeChain.lookupIn rt' name w) := by
  cases h with
  | same h =>
    cases v with
    | map entries =>
      obtain ⟨rfl, hentries⟩ := h
      exact lookup_matched hentries name
    | _ =>
      have hproperty := property hrt (.same h) name
      obtain ⟨rfl, -⟩ := h
      rw [lookupIn_eq rt (fun _ h => by cases h), lookupIn_eq rt' (fun _ h => by cases h)]
      exact hproperty.toOption
  | objects h =>
    have hproperty := property hrt (.objects h) name
    rw [lookupIn_eq rt (fun _ h => by cases h), lookupIn_eq rt' (fun _ h => by cases h)]
    exact hproperty.toOption

/-- The methods with a name match. -/
theorem method? (h : SharesMembers A v w) (name : String) :
    Option.Rel (Method.Matched A) (v.method? rt name) (w.method? rt' name) := by
  cases h with
  | same h =>
    obtain ⟨rfl, hv⟩ := h
    exact method?_matched hrt hv name
  | objects h => exact memberMethod_matched (property hrt (.objects h) name)

end

end SharesMembers

end Value

end Trigger
