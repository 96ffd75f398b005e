import Trigger.Proofs.Toml.Numbers
import Trigger.Proofs.Toml.Strings

/-!
# Values before a cut

A value ends with a visible character, and so do the items of an array and the entries of an inline
table. Between them, blanks, line ends and comments are left out, which cannot go on to the end of a
text. The induction is on the fuel, for values, items and entries together.
-/

namespace Trigger.Toml

variable {T : List Char → Prop} {fuel : Nat} {t w rest : List Char}

/-! ## Items and entries -/

/-- What follows an item or an entry: the end of all, or a comma and others. -/
def behind? {α : Type} (closing : Char) (more : List Char → Option (List α × List Char))
    (s : List Char) : Option (List α × List Char) :=
  match s with
  | c :: rest => if c = closing then some ([], rest) else if c = ',' then more rest else none
  | [] => none

/-- Nothing but the end and a comma stands behind an item or an entry. -/
theorem behind?_eq_none {α : Type} {closing : Char}
    {more : List Char → Option (List α × List Char)} {s : List Char}
    (hclose : ∀ rest, s = closing :: rest → False) (hcomma : ∀ rest, s = ',' :: rest → False) :
    behind? closing more s = none := by
  cases s with
  | nil => rfl
  | cons c s =>
    have hc : c ≠ closing := fun h => hclose s (h ▸ rfl)
    have hc' : c ≠ ',' := fun h => hcomma s (h ▸ rfl)
    exact (if_neg hc).trans (if_neg hc')

/-- The items in front of the end of an array, of which there may be none. -/
def itemsFrom? (fuel : Nat) : List Char → Option (List TomlValue × List Char)
  | ']' :: rest => some ([], rest)
  | s => readItems? fuel s

/-- The items behind a comma or an opening bracket. -/
def moreItems? (fuel : Nat) (s : List Char) : Option (List TomlValue × List Char) :=
  (skipFiller? (s.length + 1) s).bind (itemsFrom? fuel)

/-- The entries behind a comma. -/
def moreEntries? (fuel : Nat) (s : List Char) : Option (List (Key × TomlValue) × List Char) :=
  (some (skipBlanks s)).bind (readPairs? fuel)

/-- A key with its value, each with fuel of its own. -/
def readPair? (m n : Nat) (s : List Char) : Option ((Key × TomlValue) × List Char) :=
  (readKey? m s).bind fun key => (after? ['='] key.2).bind fun rest =>
    (readValue? n (skipBlanks rest)).map fun v => ((key.1, v.1), v.2)

/-- A value that is not made of others. -/
def readSimple? (s : List Char) : Option (TomlValue × List Char) :=
  match s with
  | c :: _ =>
    if c = '"' ∨ c = '\'' then
      (readString? s).map fun (inner, rest) => (.str (String.ofList inner), rest)
    else (readWord? s).or ((readMoment? s).or (readNumber? s))
  | [] => none

/-- A value is not made of others unless a bracket or a brace opens it. -/
theorem readValue?_simple {c : Char} {s : List Char} (harray : c ≠ '[') (htable : c ≠ '\x7b') :
    readValue? (fuel + 1) (c :: s) = readSimple? (c :: s) :=
  readValue?.eq_4 _ _ _ harray htable

/-- The items of an array are those behind its opening bracket. -/
theorem readValue?_array (fuel : Nat) (s : List Char) :
    readValue? (fuel + 1) ('[' :: s) =
      (moreItems? fuel s).map fun (items, rest) => (TomlValue.array items, rest) := by
  rw [readValue?, moreItems?]
  cases skipFiller? (s.length + 1) s with
  | none => rfl
  | some next =>
    simp only [Option.bind_eq_bind, Option.bind_some]
    split
    · rfl
    · rename_i hclose
      rw [itemsFrom?.eq_2 fuel next hclose]
      cases readItems? fuel next <;> rfl

/-- The items of an array are one and those behind it. -/
theorem readItems?_succ (fuel : Nat) (s : List Char) :
    readItems? (fuel + 1) s = (readValue? fuel s).bind fun r =>
      ((skipFiller? (r.2.length + 1) r.2).bind (behind? ']' (moreItems? fuel))).map
        fun more => (r.1 :: more.1, more.2) := by
  rw [readItems?]
  refine congrArg (Option.bind _) (funext fun r => ?_)
  obtain ⟨v, rest⟩ := r
  rw [Option.map_bind]
  refine congrArg (Option.bind _) (funext fun next => ?_)
  rw [Function.comp_apply]
  split
  · rfl
  · rename_i more
    change _ = (moreItems? fuel more).map _
    rw [moreItems?, Option.map_bind]
    refine congrArg (Option.bind _) (funext fun next => ?_)
    rw [Function.comp_apply]
    split
    · rfl
    · rename_i hclose
      rw [itemsFrom?.eq_2 fuel next hclose]
      cases readItems? fuel next <;> rfl
  · rename_i hclose hcomma
    rw [behind?_eq_none hclose hcomma]
    rfl

/-- The entries of an inline table are one and those behind it. -/
theorem readPairs?_succ (fuel : Nat) (s : List Char) :
    readPairs? (fuel + 1) s = (readPair? (s.length + 1) fuel s).bind fun entry =>
      ((some (skipBlanks entry.2)).bind (behind? '\x7d' (moreEntries? fuel))).map
        fun more => (entry.1 :: more.1, more.2) := by
  rw [readPairs?, readPair?, Option.bind_assoc]
  refine congrArg (Option.bind _) (funext fun key => ?_)
  rw [Option.bind_assoc]
  refine congrArg (Option.bind _) (funext fun rest => ?_)
  rw [Option.bind_map]
  refine congrArg (Option.bind _) (funext fun v => ?_)
  dsimp only [Function.comp_apply]
  rw [Option.bind_some]
  generalize skipBlanks v.2 = next
  split
  · rfl
  · rename_i more
    change _ = (readPairs? fuel (skipBlanks more)).map _
    cases readPairs? fuel (skipBlanks more) <;> rfl
  · rename_i hclose hcomma
    rw [behind?_eq_none hclose hcomma]
    rfl

/-! ## Steps -/

/-- What separates the parts of a value is left out before a cut. -/
def Skips (T : List Char → Prop) (skip : List Char → Option (List Char)) : Prop :=
  ∀ ⦃t w s : List Char⦄, T w → skip (t ++ w) = some s →
    ∃ s', Cut T s s' ∧ s' <:+ t ∧ skip t = some s'

/-- Blanks, line ends and comments are left out before a cut. -/
theorem skips_filler (hT : IsTail T) : Skips T fun s => skipFiller? (s.length + 1) s := by
  intro t w s hw h
  obtain ⟨s', hcut, hsuffix, hall⟩ := skipFiller?_append hT hw h
  have hlength := hsuffix.length_le
  exact ⟨s', hcut, hsuffix, hall _ (by omega)⟩

/-- Blanks alone are as well. -/
theorem skips_blanks (hT : IsTail T) : Skips T fun s => some (skipBlanks s) := by
  intro t w s hw h
  exact ⟨skipBlanks t, Option.some.inj h ▸ cut_skipBlanks hT hw t, List.dropWhile_suffix _, rfl⟩

section Behind

variable {α : Type} {skip : List Char → Option (List Char)}

/-- A reader is stable behind what separates it from what was read before. -/
theorem stableAt_skip (hskip : Skips T skip) {read : Nat → List Char → Option (α × List Char)}
    (hread : StableAt T read fuel) : StableAt T (fun n s => (skip s).bind (read n)) fuel := by
  intro t w a rest hw h
  obtain ⟨s, hs, h⟩ := Option.bind_eq_some_iff.mp h
  obtain ⟨s', ⟨w', hw', rfl⟩, hsuffix, hs'⟩ := hskip hw hs
  obtain ⟨rest', hcut, hrest, hall⟩ := hread hw' h
  have hlength := hsuffix.length_le
  exact ⟨rest', hcut, hrest.trans hsuffix,
    fun n hn => Option.bind_eq_some_iff.mpr ⟨s', hs', hall n (by omega)⟩⟩

/-- What follows an item or an entry is read before a cut, the end or a comma at least. -/
theorem stable_behind? (hT : IsTail T) (hskip : Skips T skip) {closing : Char}
    (hclosing : Text.isSpace closing = false)
    {more : Nat → List Char → Option (List α × List Char)} (hmore : StableAt T more fuel)
    (hw : T w) {items : List α}
    (h : (skip (t ++ w)).bind (behind? closing (more fuel)) = some (items, rest)) :
    ∃ rest', Cut T rest rest' ∧ rest' <:+ t ∧ rest'.length < t.length ∧
      ∀ n, t.length ≤ rest'.length + n →
        (skip t).bind (behind? closing (more n)) = some (items, rest') := by
  obtain ⟨s, hs, h⟩ := Option.bind_eq_some_iff.mp h
  obtain ⟨s', ⟨w', hw', rfl⟩, hsuffix, hs'⟩ := hskip hw hs
  have hlength := hsuffix.length_le
  by_cases hclose : ∃ r, s' = closing :: r
  · obtain ⟨r, rfl⟩ := hclose
    have hend (next : List Char → Option (List α × List Char)) (r : List Char) :
        behind? closing next (closing :: r) = some ([], r) := if_pos rfl
    rw [List.cons_append, hend] at h
    obtain ⟨rfl, rfl⟩ := Prod.mk.inj (Option.some.inj h)
    exact ⟨r, cut_append hw' r, (List.suffix_cons _ r).trans hsuffix, hlength,
      fun n _ => Option.bind_eq_some_iff.mpr ⟨_, hs', hend _ r⟩⟩
  by_cases hcomma : ∃ r, s' = ',' :: r
  · obtain ⟨r, rfl⟩ := hcomma
    have hnext (next : List Char → Option (List α × List Char)) (r : List Char) :
        behind? closing next (',' :: r) = next r :=
      (if_neg fun heq => hclose ⟨_, by rw [heq]⟩).trans (if_pos rfl)
    rw [List.cons_append, hnext] at h
    obtain ⟨rest', hcut, hrest, hall⟩ := hmore hw' h
    have hlength' := hrest.length_le
    rw [List.length_cons] at hlength
    exact ⟨rest', hcut, hrest.trans ((List.suffix_cons _ r).trans hsuffix), by omega,
      fun n hn => Option.bind_eq_some_iff.mpr ⟨_, hs', (hnext _ r).trans (hall n (by omega))⟩⟩
  · rw [behind?_eq_none (hT.not_cons_of_append hw' hclosing hclose)
      (hT.not_cons_of_append hw' (by decide) hcomma)] at h
    exact nomatch h

end Behind

section Step

variable (hT : IsTail T)
include hT

/-- Items of which there may be none are read before a cut if others are. -/
theorem stableAt_moreItems? (hitems : StableAt T readItems? fuel) : StableAt T moreItems? fuel := by
  suffices hfrom : StableAt T itemsFrom? fuel from stableAt_skip (skips_filler hT) hfrom
  intro t w items rest hw h
  by_cases hclose : ∃ more, t = ']' :: more
  · obtain ⟨more, rfl⟩ := hclose
    obtain ⟨rfl, rfl⟩ := Prod.mk.inj (Option.some.inj h)
    exact ⟨more, cut_append hw more, List.suffix_cons _ more, fun _ _ => rfl⟩
  · rw [itemsFrom?.eq_2 _ _ (hT.not_cons_of_append hw (by decide) hclose)] at h
    obtain ⟨rest', hcut, hsuffix, hall⟩ := hitems hw h
    refine ⟨rest', hcut, hsuffix, fun n hn => ?_⟩
    rw [itemsFrom?.eq_2 _ _ fun more heq => hclose ⟨more, heq⟩]
    exact hall n hn

/-- The items of an array are read before a cut if each of them is. -/
theorem stableAt_readItems?_succ (hvalue : StableAt T readValue? fuel)
    (hitems : StableAt T readItems? fuel) : StableAt T readItems? (fuel + 1) := by
  intro t w items rest hw h
  rw [readItems?_succ] at h
  obtain ⟨⟨v, more⟩, hv, h⟩ := Option.bind_eq_some_iff.mp h
  obtain ⟨⟨others, rest⟩, hothers, heq⟩ := Option.map_eq_some_iff.mp h
  obtain ⟨rfl, rfl⟩ := Prod.mk.inj heq
  obtain ⟨more', ⟨w', hw', rfl⟩, hmore, hv'⟩ := hvalue hw hv
  obtain ⟨rest', hcut, hsuffix, hless, hothers'⟩ := stable_behind? hT (skips_filler hT)
    (by decide) (stableAt_moreItems? hT hitems) hw' hothers
  have hlength := hmore.length_le
  refine ⟨rest', hcut, hsuffix.trans hmore, fun n hn => ?_⟩
  obtain ⟨m, rfl⟩ : ∃ m, n = m + 1 := ⟨n - 1, by omega⟩
  rw [readItems?_succ, hv' m (by omega), Option.bind_some, hothers' m (by omega)]
  rfl

/-- A key with its value is read before a cut if the value is. -/
theorem stable_readPair? (hvalue : StableAt T readValue? fuel) (hw : T w) {m : Nat}
    {entry : Key × TomlValue} (h : readPair? m fuel (t ++ w) = some (entry, rest)) :
    ∃ rest', Cut T rest rest' ∧ rest' <:+ t ∧
      ∀ n, t.length < rest'.length + n →
        readPair? (t.length + 1) n t = some (entry, rest') := by
  obtain ⟨⟨key, r₁⟩, hkey, h⟩ := Option.bind_eq_some_iff.mp h
  obtain ⟨r₂, hequals, h⟩ := Option.bind_eq_some_iff.mp h
  obtain ⟨⟨v, r₃⟩, hv, heq⟩ := Option.map_eq_some_iff.mp h
  obtain ⟨rfl, rfl⟩ := Prod.mk.inj heq
  obtain ⟨s₁, ⟨w₁, hw₁, rfl⟩, hs₁, hkey'⟩ := stableAt_readKey? hT m hw hkey
  rw [after?_append hT hw₁ (by decide)] at hequals
  obtain ⟨s₂, hequals', rfl⟩ := Option.map_eq_some_iff.mp hequals
  obtain ⟨w₂, hw₂, hskip⟩ := cut_skipBlanks hT hw₁ s₂
  rw [hskip] at hv
  obtain ⟨rest', hcut, hrest, hv'⟩ := hvalue hw₂ hv
  have hs₂ : skipBlanks s₂ <:+ t :=
    (List.dropWhile_suffix _).trans ((suffix_of_after? hequals').trans hs₁)
  have hlength := hs₂.length_le
  refine ⟨rest', hcut, hrest.trans hs₂, fun n hn => ?_⟩
  exact Option.bind_eq_some_iff.mpr ⟨(key, s₁), hkey' _ (by omega), Option.bind_eq_some_iff.mpr
    ⟨s₂, hequals', Option.map_eq_some_iff.mpr ⟨(v, rest'), hv' n (by omega), rfl⟩⟩⟩

/-- The entries of an inline table are read before a cut if the value of each is. -/
theorem stableAt_readPairs?_succ (hvalue : StableAt T readValue? fuel)
    (hpairs : StableAt T readPairs? fuel) : StableAt T readPairs? (fuel + 1) := by
  intro t w pairs rest hw h
  rw [readPairs?_succ] at h
  obtain ⟨⟨entry, more⟩, hentry, h⟩ := Option.bind_eq_some_iff.mp h
  obtain ⟨⟨others, rest⟩, hothers, heq⟩ := Option.map_eq_some_iff.mp h
  obtain ⟨rfl, rfl⟩ := Prod.mk.inj heq
  obtain ⟨more', ⟨w', hw', rfl⟩, hmore, hentry'⟩ := stable_readPair? hT hvalue hw hentry
  have hentries : StableAt T moreEntries? fuel := stableAt_skip (skips_blanks hT) hpairs
  obtain ⟨rest', hcut, hsuffix, hless, hothers'⟩ := stable_behind? hT (skips_blanks hT)
    (by decide) hentries hw' hothers
  have hlength := hmore.length_le
  refine ⟨rest', hcut, hsuffix.trans hmore, fun n hn => ?_⟩
  obtain ⟨m, rfl⟩ : ∃ m, n = m + 1 := ⟨n - 1, by omega⟩
  rw [readPairs?_succ, hentry' m (by omega), Option.bind_some, hothers' m (by omega)]
  rfl

/-- An inline table is read before a cut if its entries are. -/
theorem stable_readValue?_table (hpairs : StableAt T readPairs? fuel) (hw : T w) {v : TomlValue}
    (h : readValue? (fuel + 1) ('\x7b' :: t ++ w) = some (v, rest)) :
    ∃ rest', Cut T rest rest' ∧ rest' <:+ '\x7b' :: t ∧
      ∀ n, ('\x7b' :: t).length < rest'.length + n →
        readValue? n ('\x7b' :: t) = some (v, rest') := by
  obtain ⟨w', hw', hskip⟩ := cut_skipBlanks hT hw t
  obtain ⟨s, hs⟩ : ∃ s, skipBlanks t = s := ⟨_, rfl⟩
  have hsuffix : s <:+ t := hs ▸ List.dropWhile_suffix _
  have hlength := hsuffix.length_le
  rw [List.cons_append, readValue?, hskip, hs] at h
  by_cases hclose : ∃ more, s = '\x7d' :: more
  · obtain ⟨more, rfl⟩ := hclose
    obtain ⟨rfl, rfl⟩ := Prod.mk.inj (Option.some.inj h)
    have hmore : more <:+ t := (List.suffix_cons _ more).trans hsuffix
    refine ⟨more, cut_append hw' more, hmore.trans (List.suffix_cons _ t), fun n hn => ?_⟩
    obtain ⟨m, rfl, -⟩ := exists_fuel hmore hn
    rw [readValue?, hs]
    rfl
  · split at h
    · rename_i heq
      exact (hT.not_cons_of_append hw' (by decide) hclose _ heq).elim
    · obtain ⟨⟨pairs, rest⟩, hread, h⟩ := Option.bind_eq_some_iff.mp h
      obtain ⟨entries, hentries, heq⟩ := Option.bind_eq_some_iff.mp h
      obtain ⟨rfl, rfl⟩ := Prod.mk.inj (Option.some.inj heq)
      obtain ⟨rest', hcut, hrest, hread'⟩ := hpairs hw' hread
      refine ⟨rest', hcut, (hrest.trans hsuffix).trans (List.suffix_cons _ t), fun n hn => ?_⟩
      obtain ⟨m, rfl, hm⟩ := exists_fuel (hrest.trans hsuffix) hn
      rw [readValue?, hs]
      split
      · exact absurd ⟨_, rfl⟩ hclose
      · exact Option.bind_eq_some_iff.mpr ⟨(pairs, rest'), hread' m (by omega),
          Option.bind_eq_some_iff.mpr ⟨entries, hentries, rfl⟩⟩

/-- An array is read before a cut if its items are. -/
theorem stable_readValue?_array (hitems : StableAt T readItems? fuel) (hw : T w) {v : TomlValue}
    (h : readValue? (fuel + 1) ('[' :: t ++ w) = some (v, rest)) :
    ∃ rest', Cut T rest rest' ∧ rest' <:+ '[' :: t ∧
      ∀ n, ('[' :: t).length < rest'.length + n → readValue? n ('[' :: t) = some (v, rest') := by
  rw [List.cons_append, readValue?_array] at h
  obtain ⟨⟨items, more⟩, hread, heq⟩ := Option.map_eq_some_iff.mp h
  obtain ⟨rfl, rfl⟩ := Prod.mk.inj heq
  obtain ⟨rest', hcut, hsuffix, hall⟩ := stableAt_moreItems? hT hitems hw hread
  refine ⟨rest', hcut, hsuffix.trans (List.suffix_cons _ t), fun n hn => ?_⟩
  obtain ⟨m, rfl, hm⟩ := exists_fuel hsuffix hn
  rw [readValue?_array, hall m hm]
  rfl

/-- A value that is not made of others is read before a cut. -/
theorem stable_readSimple? : Stable T readSimple? := by
  intro t w v rest hw h
  have hplain {c : Char} {s : List Char} (hquote : ¬(c = '"' ∨ c = '\'')) :
      readSimple? (c :: s) = (readWord? (c :: s)).or
        ((readMoment? (c :: s)).or (readNumber? (c :: s))) := if_neg hquote
  cases t with
  | nil =>
    cases w with
    | nil => exact nomatch h
    | cons c w =>
      have hquote : ¬(c = '"' ∨ c = '\'') := by
        rintro (hc | hc)
        · exact hT.ne hw (by decide) hc
        · exact hT.ne hw (by decide) hc
      rw [List.nil_append, hplain hquote] at h
      obtain ⟨rest', -, -, hnone⟩ := stable_readScalar hT (t := []) hw h
      exact nomatch hnone
  | cons c t =>
    by_cases hquote : c = '"' ∨ c = '\''
    · have hstring (s : List Char) : readSimple? (c :: s) = (readString? (c :: s)).map
          fun (inner, rest) => (.str (String.ofList inner), rest) := if_pos hquote
      rw [List.cons_append, hstring] at h
      rw [hstring]
      exact stable_mapped (f := fun inner => TomlValue.str (String.ofList inner))
        (fun _ _ hinner => stable_readString? hT (t := c :: t) hw hinner) h
    · rw [List.cons_append, hplain hquote] at h
      rw [hplain hquote]
      exact stable_readScalar hT (t := c :: t) hw h

/-- A value is read before a cut if those that it is made of are. -/
theorem stableAt_readValue?_succ (hitems : StableAt T readItems? fuel)
    (hpairs : StableAt T readPairs? fuel) : StableAt T readValue? (fuel + 1) := by
  intro t w v rest hw h
  cases t with
  | nil =>
    cases w with
    | nil => exact nomatch h
    | cons c w =>
      rw [List.nil_append, readValue?_simple (hT.ne hw (by decide)) (hT.ne hw (by decide))] at h
      obtain ⟨rest', -, -, hnone⟩ := stable_readSimple? hT (t := []) hw h
      exact nomatch hnone
  | cons c t =>
    by_cases harray : c = '['
    · subst harray
      exact stable_readValue?_array hT hitems hw h
    by_cases htable : c = '\x7b'
    · subst htable
      exact stable_readValue?_table hT hpairs hw h
    rw [List.cons_append, readValue?_simple harray htable] at h
    obtain ⟨rest', hcut, hsuffix, hread⟩ := stable_readSimple? hT (t := c :: t) hw h
    have hlength := hsuffix.length_le
    refine ⟨rest', hcut, hsuffix, fun n hn => ?_⟩
    obtain ⟨m, rfl⟩ : ∃ m, n = m + 1 := ⟨n - 1, by omega⟩
    rw [readValue?_simple harray htable, hread]

end Step

/-- Values, items and entries are read before a cut. -/
theorem stableAt_readValue? (hT : IsTail T) (fuel : Nat) :
    StableAt T readValue? fuel ∧ StableAt T readItems? fuel ∧ StableAt T readPairs? fuel := by
  induction fuel with
  | zero =>
    exact ⟨fun _ _ _ _ _ h => (nomatch h), fun _ _ _ _ _ h => (nomatch h),
      fun _ _ _ _ _ h => (nomatch h)⟩
  | succ fuel ih =>
    obtain ⟨hvalue, hitems, hpairs⟩ := ih
    exact ⟨stableAt_readValue?_succ hT hitems hpairs, stableAt_readItems?_succ hT hvalue hitems,
      stableAt_readPairs?_succ hT hvalue hpairs⟩

end Trigger.Toml
