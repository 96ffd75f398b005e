import Trigger.Proofs.Decimal.Order
import Trigger.Proofs.Lookup.Entries
import Trigger.Value.Standard

/-!
# Equality in either order

Equality looks at its left side first, and takes apart whichever side is a list. It does not matter
which of two values is on the left, though. Values of one kind have the same contents in either
order: for mappings this takes that their keys are distinct, since then a mapping with entries that
are all in another one of the same length has all of the other's. Of values of different kinds at
most one is a list, and what the two are taken for does not depend on their order, nor does a failure
to take them for it. All this rests on the language, for which it does not matter either which of two
objects or numbers of column types comes first.
-/

namespace Trigger.Value

mutual

/-- Whether the keys of all mappings and objects in a value are distinct. -/
def hasDistinctKeys : Value → Bool
  | .list _ items => haveDistinctKeys items
  | .map entries => decide (entries.map Prod.fst).Nodup && entriesHaveDistinctKeys entries
  | .object entries => decide (entries.map Prod.fst).Nodup && entriesHaveDistinctKeys entries
  | .native _ parts => decide (parts.map Prod.fst).Nodup && entriesHaveDistinctKeys parts
  | _ => true

/-- Whether the keys in all values are distinct. -/
def haveDistinctKeys : List Value → Bool
  | [] => true
  | v :: rest => hasDistinctKeys v && haveDistinctKeys rest

/-- Whether the keys in the values of all entries are distinct. -/
def entriesHaveDistinctKeys : List (String × Value) → Bool
  | [] => true
  | (_, v) :: rest => hasDistinctKeys v && entriesHaveDistinctKeys rest

end

/-- The keys in the value of an entry are distinct if those in all entries are. -/
theorem hasDistinctKeys_of_mem {entries : List (String × Value)}
    (h : entriesHaveDistinctKeys entries = true) {e : String × Value} (he : e ∈ entries) :
    e.2.hasDistinctKeys = true := by
  induction entries with
  | nil => exact absurd he List.not_mem_nil
  | cons o rest ih =>
    rw [entriesHaveDistinctKeys, Bool.and_eq_true] at h
    rcases List.mem_cons.mp he with rfl | he
    · exact h.1
    · exact ih h.2 he

/-! ## Contents -/

/-- Plain values without contents are the same in either order. -/
theorem sameScalar_comm (a b : Value) : sameScalar a b = sameScalar b a := by
  fun_cases sameScalar a b with
  | case5 | case9 | case11 => exact Decimal.beq_comm _ _
  | case8 | case10 => rfl
  | case13 => fun_cases sameScalar b a <;> simp_all
  | _ => first | rfl | exact Bool.beq_comm

/-- Whether a value has items or entries. -/
def isContainer : Value → Bool
  | .list .. => true
  | .map _ => true
  | .object _ => true
  | .native .. => true
  | _ => false

section

variable {language : Language}

/-- Items are the same if they are one object or have the same contents. -/
def sameItem (language : Language) (a b : Value) : Bool :=
  language.identical a b || same language a b

/-- Every entry of a mapping is one of another where each key is found there with the same value. -/
theorem sameEntries_eq_true_iff {entries others : List (String × Value)} :
    sameEntries language entries others = true ↔
      ∀ e ∈ entries, ∃ w, others.lookup e.1 = some w ∧ sameItem language e.2 w = true := by
  induction entries with
  | nil => simp [sameEntries]
  | cons e rest ih =>
    rw [sameEntries, Bool.and_eq_true, ih, List.forall_mem_cons]
    refine and_congr_left fun _ => ?_
    cases others.lookup e.1 <;> simp [sameItem]

section

variable {entries others : List (String × Value)}

/-- Values of entries are the same in either order. -/
def SameCommEntries (language : Language) (entries others : List (String × Value)) : Prop :=
  ∀ e ∈ entries, ∀ o ∈ others, sameItem language e.2 o.2 = sameItem language o.2 e.2

/-- Where all entries of a mapping are in another one with as many entries, all entries of that one
are in the first one. -/
theorem sameEntries_swap (hlength : entries.length = others.length)
    (hnodup : (entries.map Prod.fst).Nodup) (hnodup' : (others.map Prod.fst).Nodup)
    (hcomm : SameCommEntries language entries others)
    (h : sameEntries language entries others = true) :
    sameEntries language others entries = true := by
  rw [sameEntries_eq_true_iff] at h ⊢
  have hkeys : others.map Prod.fst ⊆ entries.map Prod.fst := by
    refine keys_subset_of_subset hnodup hlength fun k hk => ?_
    obtain ⟨e, he, rfl⟩ := List.mem_map.mp hk
    obtain ⟨w, hw, -⟩ := h e he
    exact List.mem_map.mpr ⟨(e.1, w), mem_of_lookup hw, rfl⟩
  intro o ho
  obtain ⟨e, he, hkey⟩ := List.mem_map.mp (hkeys (List.mem_map_of_mem ho))
  obtain ⟨w, hw, hsame⟩ := h e he
  rw [hkey, lookup_of_mem hnodup' ho, Option.some_inj] at hw
  subst hw
  exact ⟨e.2, hkey ▸ lookup_of_mem hnodup he, hcomm e he o ho ▸ hsame⟩

/-- Mappings have the same entries in either order. -/
theorem sameEntries_comm (hnodup : (entries.map Prod.fst).Nodup)
    (hnodup' : (others.map Prod.fst).Nodup) (hcomm : SameCommEntries language entries others) :
    (entries.length == others.length && sameEntries language entries others) =
      (others.length == entries.length && sameEntries language others entries) := by
  rw [Bool.eq_iff_iff, Bool.and_eq_true, Bool.and_eq_true, beq_iff_eq, beq_iff_eq]
  constructor
  · rintro ⟨hlength, h⟩
    exact ⟨hlength.symm, sameEntries_swap hlength hnodup hnodup' hcomm h⟩
  · rintro ⟨hlength, h⟩
    exact ⟨hlength.symm, sameEntries_swap hlength hnodup' hnodup
      (fun o ho e he => (hcomm e he o ho).symm) h⟩

end

variable (hlanguage : language.Symmetric)

include hlanguage

/-- Values of which one has no items and no entries are the same in either order. -/
theorem same_comm_of_atom {a b : Value} (ha : a.isContainer = false) :
    same language a b = same language b a := by
  fun_cases same language a b with
  | case1 | case2 | case3 | case4 => cases ha
  | case5 p q =>
    change p.same q = q.same p
    rw [Pattern.same, Pattern.same, Bool.beq_comm, Bool.beq_comm (a := p.flags)]
  | case7 f s f' s' =>
    change (f == f' && decide (s = s')) = (f' == f && decide (s' = s))
    rw [Bool.beq_comm, decide_eq_decide.mpr (eq_comm (a := s))]
  | case11 c =>
    cases b with
    | boxed c' => exact hlanguage.boxedEquals_comm c c'
    | _ => rfl
  | case12 => rfl
  | case13 =>
    fun_cases same language b a with
    | case13 => exact sameScalar_comm _ _
    | _ => grind
  | case6 | case8 | case9 | case10 => exact Bool.beq_comm

mutual

/-- Values have the same contents in either order. -/
theorem same_comm (a b : Value) (ha : a.hasDistinctKeys = true) (hb : b.hasDistinctKeys = true) :
    same language a b = same language b a := by
  cases a with
  | list k items =>
    cases b with
    | list l others =>
      rw [same, same, sameItems_comm items others ha hb, Bool.beq_comm]
    | boxed => exact (same_comm_of_atom hlanguage rfl).symm
    | _ => rfl
  | map entries =>
    cases b with
    | map others =>
      rw [hasDistinctKeys, Bool.and_eq_true, decide_eq_true_eq] at ha hb
      rw [same, same]
      exact sameEntries_comm ha.1 hb.1 (sameCommEntries entries others ha.2 hb.2)
    | boxed => exact (same_comm_of_atom hlanguage rfl).symm
    | _ => rfl
  | object entries =>
    cases b with
    | object others =>
      rw [hasDistinctKeys, Bool.and_eq_true, decide_eq_true_eq] at ha hb
      rw [same, same]
      exact sameEntries_comm ha.1 hb.1 (sameCommEntries entries others ha.2 hb.2)
    | boxed => exact (same_comm_of_atom hlanguage rfl).symm
    | _ => rfl
  | native kind parts =>
    cases b with
    | native kind' others =>
      rw [hasDistinctKeys, Bool.and_eq_true, decide_eq_true_eq] at ha hb
      rw [same, same, Bool.beq_comm, Bool.and_assoc, Bool.and_assoc]
      exact congrArg (kind' == kind && ·)
        (sameEntries_comm ha.1 hb.1 (sameCommEntries parts others ha.2 hb.2))
    | boxed => exact (same_comm_of_atom hlanguage rfl).symm
    | _ => rfl
  | _ => exact same_comm_of_atom hlanguage rfl

/-- Lists have the same items in either order. -/
theorem sameItems_comm (items others : List Value) (ha : haveDistinctKeys items = true)
    (hb : haveDistinctKeys others = true) :
    sameItems language items others = sameItems language others items := by
  cases items with
  | nil => cases others <;> rfl
  | cons a rest =>
    cases others with
    | nil => rfl
    | cons b others =>
      rw [haveDistinctKeys, Bool.and_eq_true] at ha hb
      rw [sameItems, sameItems, hlanguage.identical_comm a b, same_comm a b ha.1 hb.1,
        sameItems_comm rest others ha.2 hb.2]

/-- Mappings have entries with values that are the same in either order. -/
theorem sameCommEntries (entries others : List (String × Value))
    (ha : entriesHaveDistinctKeys entries = true) (hb : entriesHaveDistinctKeys others = true) :
    SameCommEntries language entries others := by
  cases entries with
  | nil => exact fun _ he => absurd he List.not_mem_nil
  | cons e rest =>
    rw [entriesHaveDistinctKeys, Bool.and_eq_true] at ha
    refine List.forall_mem_cons.mpr ⟨fun o ho => ?_, sameCommEntries rest others ha.2 hb⟩
    rw [sameItem, sameItem, hlanguage.identical_comm e.2 o.2,
      same_comm e.2 o.2 ha.1 (hasDistinctKeys_of_mem hb ho)]

end

end

/-! ## Values of different kinds -/

/-- A value of the kind of no object is no list. -/
theorem kind_of_isList {a : Value} (h : a.isList = true) : a.kind = .object := by
  cases a <;> first | rfl | cases h

/-- The only failure is that of an integer that is too large. -/
theorem toNumber_error {a : Value} {e : Fault} (h : a.toNumber = .error e) : e = .integerTooLarge := by
  fun_induction toNumber a with
  | case1 => cases h
  | case2 _ _ ih => exact ih h
  | case3 a =>
    unfold scalarNumber floatOfInt at h
    split at h <;> (try split at h) <;> cases h
    rfl

/-- Two values are taken as numbers in either order. -/
theorem numbers_comm (a b : Value) :
    (do return (← a.toNumber) == (← b.toNumber) : Except Fault Bool) =
      do return (← b.toNumber) == (← a.toNumber) := by
  cases ha : a.toNumber with
  | error e =>
    cases hb : b.toNumber with
    | error f =>
      rw [toNumber_error ha, toNumber_error hb]
    | ok y => rfl
  | ok x =>
    cases hb : b.toNumber with
    | error f => rfl
    | ok y => exact congrArg Except.ok (Decimal.beq_comm x y)

/-- Values of different kinds are equal in either order. -/
theorem mixedEquals_comm {a b : Value} (h : a.kind ≠ b.kind) : mixedEquals a b = mixedEquals b a := by
  unfold mixedEquals
  by_cases ha : a.isList = true
  · have hb : ¬b.isList = true := fun hb => h ((kind_of_isList ha).trans (kind_of_isList hb).symm)
    rw [if_pos ha, if_neg hb, if_pos ha]
  · by_cases hb : b.isList = true
    · rw [if_neg ha, if_pos hb, if_pos hb]
    · rw [if_neg ha, if_neg hb, if_neg hb, if_neg ha, Bool.or_comm]
      split
      · rfl
      · exact numbers_comm a b

/-- A boxed number has no keys. -/
theorem hasDistinctKeys_unbox (a : Value) : a.unbox.hasDistinctKeys = a.hasDistinctKeys := by
  cases a with
  | boxed b =>
    obtain ⟨number, -, -⟩ := b
    cases number <;> rfl
  | _ => rfl

section

variable {language : Language} (hlanguage : language.Symmetric) {a b : Value}

include hlanguage

/-- Strict equality does not depend on which of two values comes first. -/
theorem strictEquals_comm (ha : a.hasDistinctKeys = true) (hb : b.hasDistinctKeys = true) :
    strictEquals language a b = strictEquals language b a := by
  rw [← hasDistinctKeys_unbox] at ha hb
  by_cases hkind : a.unbox.kind = b.unbox.kind
  · simp only [strictEquals, hkind, same_comm hlanguage a.unbox b.unbox ha hb,
      hlanguage.identical_comm a.unbox b.unbox]
  · have hne : (a.unbox.kind == b.unbox.kind) = false := beq_eq_false_iff_ne.mpr hkind
    have hne' : (b.unbox.kind == a.unbox.kind) = false := beq_eq_false_iff_ne.mpr (Ne.symm hkind)
    simp only [strictEquals, hne, hne', Bool.false_and]

/-- Loose equality does not depend on which of two values comes first. -/
theorem looseEquals_comm (ha : a.hasDistinctKeys = true) (hb : b.hasDistinctKeys = true) :
    looseEquals language a b = looseEquals language b a := by
  rw [← hasDistinctKeys_unbox] at ha hb
  unfold looseEquals
  dsimp only
  by_cases hkind : a.unbox.kind = b.unbox.kind
  · rw [if_pos hkind, if_pos hkind.symm, strictEquals_comm hlanguage ha hb]
  · rw [if_neg hkind, if_neg (Ne.symm hkind), Bool.or_comm, Bool.and_comm, mixedEquals_comm hkind]

end

/-- Equality does not depend on which of two values comes first: strict equality does not, nor does
loose equality, be its outcome an answer or a failure. -/
theorem equality_comm {language : Language} (hlanguage : language.Symmetric) (a b : Value)
    (ha : a.hasDistinctKeys = true) (hb : b.hasDistinctKeys = true) :
    strictEquals language a b = strictEquals language b a ∧
      looseEquals language a b = looseEquals language b a :=
  ⟨strictEquals_comm hlanguage ha hb, looseEquals_comm hlanguage ha hb⟩

/-! ## The standard language -/

/-- Numbers of column types are the same in either order. -/
theorem mixedPrecision_comm (a b : Value) :
    Language.mixedPrecision a b = Language.mixedPrecision b a := by
  have hnumber (i : Int) (x : Float) :
      (Decimal.ofInt? i == some x) = (some x == Decimal.ofInt? i) := by
    cases Decimal.ofInt? i with
    | none => rfl
    | some y => exact Decimal.beq_comm y x
  fun_cases Language.mixedPrecision a b with
  | case1 i x => exact hnumber i x
  | case2 x i => exact (hnumber i x).symm
  | case3 => fun_cases Language.mixedPrecision b a <;> grind [sameScalar_comm]

/-- In the standard language it does not matter which of two values comes first. -/
theorem symmetric_standard : Language.standard.Symmetric where
  identical_comm _ _ := rfl
  boxedEquals_comm a b := by
    have hmixed (a b : Boxed) : Language.standard.boxedEquals a.number (.boxed b) =
        Language.mixedPrecision (ofBoxedNumber a.number) (ofBoxedNumber b.number) := by
      obtain ⟨number, -, -⟩ := a
      cases number <;> rfl
    rw [hmixed, hmixed, mixedPrecision_comm]

/-- Mappings with the same entries in another order are equal either way, within lists as well. -/
theorem equality_comm_of_nested :
    let yes : Value := .boxed ⟨.bool true, "True", "np.True_"⟩
    let a := ofList [.map [("x", .int 1), ("y", .list .tuple [.bool true])], .null]
    let b := ofList [.map [("y", .list .tuple [.int 1]), ("x", yes)], .null]
    (a.hasDistinctKeys = true ∧ b.hasDistinctKeys = true) ∧
      (strictEquals .standard a b = true ∧ strictEquals .standard b a = true) ∧
        looseEquals .standard a b = .ok true ∧ looseEquals .standard b a = .ok true := by
  intro yes a b
  have ha : a.hasDistinctKeys = true := by decide
  have hb : b.hasDistinctKeys = true := by decide
  obtain ⟨hstrict, hloose⟩ := equality_comm symmetric_standard a b ha hb
  have hequal : strictEquals .standard a b = true := by decide
  have hequal' : looseEquals .standard a b = .ok true := congrArg Except.ok hequal
  exact ⟨⟨ha, hb⟩, ⟨hequal, hstrict ▸ hequal⟩, hequal', hloose ▸ hequal'⟩

end Trigger.Value
