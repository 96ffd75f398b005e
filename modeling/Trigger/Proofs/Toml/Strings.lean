import Mathlib.Data.List.TakeWhile
import Trigger.Proofs.Toml.Cut

/-!
# Strings and keys before a cut

A string ends with a quote, which is no white space, and no carriage return stands in it. So the
quote stands before the cut, or there is none before a carriage return.
-/

namespace Trigger.Toml

variable {T : List Char → Prop} {w : List Char}

/-- A character that is no white space stands behind a carriage return, if in what is cut off. -/
theorem IsTail.return_mem (hT : IsTail T) {s rest : List Char} {c : Char} (hw : T (s ++ c :: rest))
    (hc : Text.isSpace c = false) : '\r' ∈ s := by
  induction s with
  | nil => exact absurd rfl (hT.ne hw hc)
  | cons d s ih =>
    by_cases hd : d = '\r'
    · exact hd ▸ List.mem_cons_self
    · exact List.mem_cons_of_mem d (ih (hT.tail hw hd))

/-! ## Strings between single quotes -/

/-- A string that ends with the first quote. -/
theorem readLiteral?_quote {s : List Char} (hs : '\'' ∉ s) (rest : List Char) :
    readLiteral? (s ++ '\'' :: rest) = if s.any isControl then none else some (s, rest) := by
  have hpos : ∀ c ∈ s, decide (c ≠ '\'') = true := fun c hc =>
    decide_eq_true (fun heq => hs (heq ▸ hc))
  have hdrop : (s ++ '\'' :: rest).dropWhile (fun c => decide (c ≠ '\'')) = '\'' :: rest := by
    rw [List.dropWhile_append_of_pos hpos]
    rfl
  have htake : (s ++ '\'' :: rest).takeWhile (fun c => decide (c ≠ '\'')) = s := by
    rw [List.takeWhile_append_of_pos hpos]
    exact List.append_nil s
  rw [readLiteral?, hdrop, htake]

/-- No string ends without a quote. -/
theorem readLiteral?_eq_none {s : List Char} (hs : '\'' ∉ s) : readLiteral? s = none := by
  have hdrop : s.dropWhile (fun c => decide (c ≠ '\'')) = [] :=
    List.dropWhile_eq_nil_iff.mpr fun c hc => decide_eq_true (fun heq => hs (heq ▸ hc))
  rw [readLiteral?, hdrop]

section Append

variable (hT : IsTail T) (hw : T w)
include hT hw

/-- A string between single quotes is the same whatever is cut off. -/
theorem readLiteral?_append (s : List Char) :
    readLiteral? (s ++ w) = (readLiteral? s).map (extend w) := by
  by_cases hs : '\'' ∈ s
  · obtain ⟨inner, rest, rfl, hinner⟩ := List.eq_append_cons_of_mem hs
    rw [List.append_assoc, List.cons_append, readLiteral?_quote hinner, readLiteral?_quote hinner]
    split <;> rfl
  · rw [readLiteral?_eq_none hs]
    by_cases hquote : '\'' ∈ w
    · obtain ⟨inner, rest, rfl, hinner⟩ := List.eq_append_cons_of_mem hquote
      have hreturn := hT.return_mem hw (by decide)
      have hcontrol : (s ++ inner).any isControl = true :=
        List.any_eq_true.mpr ⟨'\r', List.mem_append_right s hreturn, rfl⟩
      rw [← List.append_assoc, readLiteral?_quote (by simp [hs, hinner]), if_pos hcontrol]
      rfl
    · rw [readLiteral?_eq_none (by simp [hs, hquote])]
      rfl

/-- No string ends in what is cut off. -/
theorem readLiteralLines?_tail : readLiteralLines? w = none := by
  induction w with
  | nil => rfl
  | cons c w ih =>
    have hquote (rest : List Char) : c :: w ≠ '\'' :: rest :=
      fun h => hT.ne hw (by decide) (List.cons.inj h).1
    rw [readLiteralLines?.eq_3 _ _ (fun _ h => absurd h (hT.ne hw (by decide)))]
    split
    · rfl
    · rename_i hcontrol
      have hreturn : c ≠ '\r' := by
        rintro rfl
        exact hcontrol rfl
      rw [ih (hT.tail hw hreturn)]
      rfl

/-- Two quotes do not stand partly before a cut. -/
theorem exists_two_quotes {quote : Char} (hquote : Text.isSpace quote = false) {s more : List Char}
    (h : s ++ w = quote :: quote :: more) : ∃ more', s = quote :: quote :: more' := by
  obtain ⟨s', rfl, h'⟩ := hT.exists_of_cons hw hquote h
  obtain ⟨s'', rfl, -⟩ := hT.exists_of_cons hw hquote h'.symm
  exact ⟨s'', rfl⟩

/-- Behind a quote, two more do not stand partly before a cut. -/
theorem quotes_of_append {c : Char} {rest : List Char}
    (hquotes : ∀ more, c = '\'' → rest = '\'' :: '\'' :: more → False) (more : List Char)
    (hc : c = '\'') (h : rest ++ w = '\'' :: '\'' :: more) : False := by
  obtain ⟨more', hmore⟩ := exists_two_quotes hT hw (by decide) h
  exact hquotes more' hc hmore

/-- A string between three single quotes is the same whatever is cut off. -/
theorem readLiteralLines?_append (s : List Char) :
    readLiteralLines? (s ++ w) = (readLiteralLines? s).map (extend w) := by
  induction s using readLiteralLines?.induct with
  | case1 => exact readLiteralLines?_tail hT hw
  | case2 rest => rfl
  | case3 c rest hquotes hc =>
    rw [List.cons_append, readLiteralLines?.eq_3 _ _ (quotes_of_append hT hw hquotes), if_pos hc,
      readLiteralLines?.eq_3 _ _ hquotes, if_pos hc]
    rfl
  | case4 c rest hquotes hc ih =>
    rw [List.cons_append, readLiteralLines?.eq_3 _ _ (quotes_of_append hT hw hquotes), if_neg hc,
      readLiteralLines?.eq_3 _ _ hquotes, if_neg hc, ih]
    cases readLiteralLines? rest <;> rfl

end Append

/-- What follows a string between single quotes is the end of the text. -/
theorem suffix_of_readLiteral? {s inner rest : List Char}
    (h : readLiteral? s = some (inner, rest)) : rest <:+ s := by
  by_cases hs : '\'' ∈ s
  · obtain ⟨inner', rest', rfl, hinner⟩ := List.eq_append_cons_of_mem hs
    rw [readLiteral?_quote hinner] at h
    split at h
    · exact nomatch h
    · obtain ⟨rfl, rfl⟩ := Prod.mk.inj (Option.some.inj h)
      exact (List.suffix_cons _ _).trans (List.suffix_append _ _)
  · rw [readLiteral?_eq_none hs] at h
    exact nomatch h

/-- What follows a string between three single quotes is the end of the text. -/
theorem suffix_of_readLiteralLines? {s inner rest : List Char}
    (h : readLiteralLines? s = some (inner, rest)) : rest <:+ s := by
  induction s using readLiteralLines?.induct generalizing inner with
  | case1 => exact nomatch h
  | case2 more =>
    obtain ⟨rfl, rfl⟩ := Prod.mk.inj (Option.some.inj h)
    exact ⟨['\'', '\'', '\''], rfl⟩
  | case3 c more hquotes hc =>
    rw [readLiteralLines?.eq_3 _ _ hquotes, if_pos hc] at h
    exact nomatch h
  | case4 c more hquotes hc ih =>
    rw [readLiteralLines?.eq_3 _ _ hquotes, if_neg hc] at h
    obtain ⟨⟨inner', rest'⟩, hinner, heq⟩ := Option.map_eq_some_iff.mp h
    obtain ⟨rfl, rfl⟩ := Prod.mk.inj heq
    exact (ih hinner).trans (List.suffix_cons c more)

/-- A string between single quotes is read before a cut. -/
theorem stable_readLiteral? (hT : IsTail T) : Stable T readLiteral? :=
  stable_of_append (fun _ hw => readLiteral?_append hT hw) fun _ _ _ => suffix_of_readLiteral?

/-- A string between three single quotes is read before a cut. -/
theorem stable_readLiteralLines? (hT : IsTail T) : Stable T readLiteralLines? :=
  stable_of_append (fun _ hw => readLiteralLines?_append hT hw)
    fun _ _ _ => suffix_of_readLiteralLines?

/-! ## Escapes -/

/-- The character for so many digits, if there are so many. -/
theorem readCode?_eq (width : Nat) (s : List Char) :
    readCode? width s = if (s.take width).length = width then
      (hexValue? (s.take width)).bind fun n =>
        if n.isValidChar then some ([Char.ofNat n], s.drop width) else none
      else none := by
  unfold readCode?
  by_cases h : (s.take width).length = width
  · rw [if_neg (not_not_intro h), if_pos h]
    rfl
  · rw [if_pos h, if_neg h]
    rfl

/-- What follows a code is the end of the text. -/
theorem suffix_of_readCode? {width : Nat} {s e rest : List Char}
    (h : readCode? width s = some (e, rest)) : rest <:+ s := by
  rw [readCode?_eq] at h
  split at h
  · obtain ⟨n, -, h⟩ := Option.bind_eq_some_iff.mp h
    split at h
    · exact (Prod.mk.inj (Option.some.inj h)).2 ▸ List.drop_suffix width s
    · exact nomatch h
  · exact nomatch h

/-- The value of digits, the first of which stands for a number. -/
def withDigit? (s : List Char) (d : Nat) : Option Nat :=
  (hexValue? s).bind fun n => some (d * Nat.pow 16 s.length + n)

/-- The value of digits is found from the first one and from the others. -/
theorem hexValue?_cons (c : Char) (s : List Char) :
    hexValue? (c :: s) =
      if c.isDigit then withDigit? s (c.toNat - 48)
      else if 'a' ≤ c ∧ c ≤ 'f' then withDigit? s (c.toNat - 87)
      else if 'A' ≤ c ∧ c ≤ 'F' then withDigit? s (c.toNat - 55)
      else none :=
  rfl

/-- White space is no part of the digits of a number. -/
theorem hexValue?_eq_none {s : List Char} {c : Char} (hc : c ∈ s) (hspace : Text.isSpace c = true) :
    hexValue? s = none := by
  induction s with
  | nil => exact nomatch hc
  | cons d s ih =>
    rw [hexValue?_cons]
    rcases List.mem_cons.mp hc with rfl | hc
    · have hhex := eq_false_of_isSpace toNat_of_isHexDigit c hspace
      simp only [isHexDigit, Bool.or_eq_false_iff, Bool.and_eq_false_iff, decide_eq_false_iff_not,
        ← not_and_or] at hhex
      rw [if_neg (by simp [hhex.1.1]), if_neg hhex.1.2, if_neg hhex.2]
    · have hnone (n : Nat) : withDigit? s n = none := by
        rw [withDigit?, ih hc]
        rfl
      rw [hnone, hnone, hnone, ite_self, ite_self, ite_self]

/-- What follows a backslash at the end of a line. -/
def overLineEnd? (s : List Char) : Option (List Char × List Char) :=
  match skipBlanks s with
  | [] => some ([], [])
  | '\n' :: rest => some ([], rest.dropWhile fun c => isBlank c || c == '\n')
  | _ => none

/-- A backslash stands at the end of a line, or a character behind it. -/
theorem readEscape?_cons (lines : Bool) (c : Char) (s : List Char) :
    readEscape? lines (c :: s) =
      if lines && (isBlank c || c == '\n') then overLineEnd? (c :: s)
      else readEscape? false (c :: s) := by
  cases lines with
  | false => rfl
  | true =>
    rw [readEscape?.eq_def true, readEscape?.eq_def false]
    dsimp only
    split <;> rfl

/-- What follows an escape within a line is the end of the text. -/
theorem suffix_of_readEscape? {s e rest : List Char}
    (h : readEscape? false s = some (e, rest)) : rest <:+ s := by
  unfold readEscape? at h
  simp only [Bool.false_and, Bool.false_eq_true, if_false] at h
  split at h
  · exact nomatch h
  · refine List.IsSuffix.trans ?_ (List.suffix_cons _ _)
    split at h
    case h_8 => exact suffix_of_readCode? h
    case h_9 => exact suffix_of_readCode? h
    case h_10 => exact nomatch h
    all_goals exact (Prod.mk.inj (Option.some.inj h)).2 ▸ List.suffix_refl _

section Append

variable (hT : IsTail T) (hw : T w)
include hT hw

/-- No digit of a code is white space, so all of them stand before the cut. -/
theorem readCode?_append (width : Nat) (s : List Char) :
    readCode? width (s ++ w) = (readCode? width s).map (extend w) := by
  rw [readCode?_eq, readCode?_eq]
  by_cases hlength : width ≤ s.length
  · rw [List.take_append_of_le_length hlength, List.drop_append_of_le_length hlength]
    split
    · cases hexValue? (s.take width) with
      | none => rfl
      | some n =>
        dsimp only [Option.bind_some]
        split <;> rfl
    · rfl
  · have hshort : (s.take width).length ≠ width := by
      rw [List.length_take]
      omega
    rw [if_neg hshort]
    split
    · rename_i hwidth
      obtain ⟨c, hmem, hspace⟩ := hT.exists_isSpace_of_take hw hlength hwidth
      rw [hexValue?_eq_none hmem hspace]
      rfl
    · rfl

/-- What is over a line end before a cut. -/
theorem stable_overLineEnd? (s : List Char) {e rest : List Char}
    (h : overLineEnd? (s ++ w) = some (e, rest)) :
    ∃ rest', Cut T rest rest' ∧ rest' <:+ s ∧ overLineEnd? s = some (e, rest') := by
  obtain ⟨w', hw', hskip⟩ := cut_skipBlanks hT hw s
  have hsuffix : skipBlanks s <:+ s := List.dropWhile_suffix _
  unfold overLineEnd? at h ⊢
  rw [hskip] at h
  cases hs : skipBlanks s with
  | nil =>
    rw [hs, List.nil_append] at h
    cases w' with
    | nil =>
      obtain ⟨rfl, rfl⟩ := Prod.mk.inj (Option.some.inj h)
      exact ⟨[], cut_nil hw', List.nil_suffix, rfl⟩
    | cons c w' =>
      split at h
      · rename_i heq
        exact nomatch heq
      · rename_i more heq
        obtain ⟨rfl, rfl⟩ := List.cons.inj heq
        obtain ⟨rfl, rfl⟩ := Prod.mk.inj (Option.some.inj h)
        obtain ⟨w'', hw'', hcut⟩ := cut_dropFiller hT (hT.tail hw' (by decide)) []
        exact ⟨[], ⟨w'', hw'', hcut⟩, List.nil_suffix, rfl⟩
      · exact nomatch h
  | cons c more =>
    rw [hs] at hsuffix
    rw [hs, List.cons_append] at h
    by_cases hc : c = '\n'
    · subst hc
      obtain ⟨rfl, rfl⟩ := Prod.mk.inj (Option.some.inj h)
      exact ⟨_, cut_dropFiller hT hw' more,
        (List.dropWhile_suffix _).trans ((List.suffix_cons _ more).trans hsuffix), rfl⟩
    · split at h
      · rename_i heq
        exact nomatch heq
      · rename_i heq
        exact absurd (List.cons.inj heq).1 hc
      · exact nomatch h

/-- An escape within a line is the same whatever is cut off. -/
theorem readEscape?_append (s : List Char) :
    readEscape? false (s ++ w) = (readEscape? false s).map (extend w) := by
  cases s with
  | nil =>
    cases w with
    | nil => rfl
    | cons c w =>
      have hne {d : Char} (hd : Text.isSpace d = false) : c ≠ d := hT.ne hw hd
      rw [List.nil_append, readEscape?.eq_11 _ _ _ (hne (by decide)) (hne (by decide))
        (hne (by decide)) (hne (by decide)) (hne (by decide)) (hne (by decide)) (hne (by decide))
        (hne (by decide)) (hne (by decide))]
      rfl
  | cons c s =>
    unfold readEscape?
    simp only [List.cons_append, Bool.false_and, Bool.false_eq_true, if_false]
    split
    case h_8 => exact readCode?_append hT hw 4 s
    case h_9 => exact readCode?_append hT hw 8 s
    all_goals rfl

/-- An escape of which only the backslash stands before a cut leaves what is cut off as well. -/
theorem tail_of_readEscape? {lines : Bool} {e rest : List Char}
    (h : readEscape? lines w = some (e, rest)) : T rest := by
  cases w with
  | nil => exact nomatch h
  | cons c w =>
    rw [readEscape?_cons] at h
    split at h
    · obtain ⟨rest', ⟨w', hw', hrest⟩, hsuffix, -⟩ := stable_overLineEnd? hT hw [] h
      rw [List.suffix_nil.mp hsuffix] at hrest
      exact hrest ▸ hw'
    · rw [← List.nil_append (c :: w), readEscape?_append hT hw] at h
      exact nomatch h

/-- An escape of which something stands before a cut, behind the backslash. -/
theorem stable_readEscape? {lines : Bool} {c : Char} {s e rest : List Char}
    (h : readEscape? lines (c :: s ++ w) = some (e, rest)) :
    ∃ rest', Cut T rest rest' ∧ rest' <:+ c :: s ∧
      readEscape? lines (c :: s) = some (e, rest') := by
  rw [List.cons_append, readEscape?_cons, ← List.cons_append] at h
  rw [readEscape?_cons]
  by_cases hblank : (lines && (isBlank c || c == '\n')) = true
  · rw [if_pos hblank] at h ⊢
    exact stable_overLineEnd? hT hw _ h
  · rw [if_neg hblank] at h ⊢
    rw [readEscape?_append hT hw, Option.map_eq_some_iff] at h
    obtain ⟨⟨e', rest'⟩, hread, heq⟩ := h
    obtain ⟨rfl, rfl⟩ := Prod.mk.inj heq
    exact ⟨rest', cut_append hw rest', suffix_of_readEscape? hread, hread⟩

/-! ## Strings between double quotes -/

/-- No string ends in what is cut off. -/
theorem readBasic?_tail (lines : Bool) (fuel : Nat) : readBasic? lines fuel w = none := by
  induction fuel generalizing w with
  | zero => rfl
  | succ fuel ih =>
    cases w with
    | nil => rfl
    | cons c w =>
      rw [readBasic?.eq_5 _ _ _ _ (hT.ne hw (by decide)) (hT.ne hw (by decide))]
      split
      · rfl
      · rename_i hcontrol
        have hreturn : c ≠ '\r' := by
          rintro rfl
          exact hcontrol (by cases lines <;> rfl)
        rw [ih (hT.tail hw hreturn)]
        rfl

end Append

section Basic

variable {lines : Bool} {fuel : Nat} {t a rest : List Char}

/-- A quote ends a string, or it is part of a string of several lines. -/
theorem stable_readBasic?_quote (hT : IsTail T) (ih : StableAt T (readBasic? lines) fuel) (hw : T w)
    (h : readBasic? lines (fuel + 1) ('"' :: t ++ w) = some (a, rest)) :
    ∃ rest', Cut T rest rest' ∧ rest' <:+ '"' :: t ∧
      ∀ n, ('"' :: t).length < rest'.length + n →
        readBasic? lines n ('"' :: t) = some (a, rest') := by
  rw [List.cons_append, readBasic?] at h
  cases lines with
  | false =>
    obtain ⟨rfl, rfl⟩ := Prod.mk.inj (Option.some.inj h)
    refine ⟨t, cut_append hw t, List.suffix_cons _ t, fun n hn => ?_⟩
    obtain ⟨m, rfl, -⟩ := exists_fuel (List.suffix_refl t) hn
    rfl
  | true =>
    rw [after?_append hT hw (by decide)] at h
    cases hafter : after? ['"', '"'] t with
    | some more =>
      rw [hafter] at h
      obtain ⟨rfl, rfl⟩ := Prod.mk.inj (Option.some.inj h)
      have hmore := suffix_of_after? hafter
      refine ⟨more, cut_append hw more, hmore.trans (List.suffix_cons _ t), fun n hn => ?_⟩
      obtain ⟨m, rfl, -⟩ := exists_fuel hmore hn
      rw [readBasic?, hafter]
      rfl
    | none =>
      rw [hafter] at h
      obtain ⟨⟨inner, rest⟩, hinner, heq⟩ := Option.map_eq_some_iff.mp h
      obtain ⟨rfl, rfl⟩ := Prod.mk.inj heq
      obtain ⟨rest', hcut, hsuffix, hall⟩ := ih hw hinner
      refine ⟨rest', hcut, hsuffix.trans (List.suffix_cons _ t), fun n hn => ?_⟩
      obtain ⟨m, rfl, hm⟩ := exists_fuel hsuffix hn
      rw [readBasic?, hafter, hall m hm]
      rfl

/-- A backslash is read together with what follows. -/
theorem stable_readBasic?_escape (hT : IsTail T) (ih : StableAt T (readBasic? lines) fuel)
    (hw : T w) (h : readBasic? lines (fuel + 1) ('\\' :: t ++ w) = some (a, rest)) :
    ∃ rest', Cut T rest rest' ∧ rest' <:+ '\\' :: t ∧
      ∀ n, ('\\' :: t).length < rest'.length + n →
        readBasic? lines n ('\\' :: t) = some (a, rest') := by
  rw [List.cons_append, readBasic?] at h
  obtain ⟨⟨e, more⟩, hescape, h⟩ := Option.bind_eq_some_iff.mp h
  obtain ⟨⟨inner, rest⟩, hinner, heq⟩ := Option.bind_eq_some_iff.mp h
  obtain ⟨rfl, rfl⟩ := Prod.mk.inj (Option.some.inj heq)
  cases t with
  | nil =>
    have htail := tail_of_readEscape? hT hw hescape
    rw [readBasic?_tail hT htail] at hinner
    exact nomatch hinner
  | cons d t =>
    obtain ⟨more', ⟨w', hw', rfl⟩, hmore, hescape'⟩ := stable_readEscape? hT hw hescape
    obtain ⟨rest', hcut, hsuffix, hall⟩ := ih hw' hinner
    refine ⟨rest', hcut, (hsuffix.trans hmore).trans (List.suffix_cons _ _), fun n hn => ?_⟩
    obtain ⟨m, rfl, hm⟩ := exists_fuel (hsuffix.trans hmore) hn
    have hlength := hmore.length_le
    exact Option.bind_eq_some_iff.mpr
      ⟨(e, more'), hescape', Option.bind_eq_some_iff.mpr ⟨(inner, rest'), hall m (by omega), rfl⟩⟩

/-- A string is read before a cut. -/
theorem stableAt_readBasic? (hT : IsTail T) (lines : Bool) (fuel : Nat) :
    StableAt T (readBasic? lines) fuel := by
  induction fuel with
  | zero => exact fun t w a rest hw h => nomatch h
  | succ fuel ih =>
    intro t w a rest hw h
    cases t with
    | nil => exact nomatch (readBasic?_tail hT hw lines (fuel + 1)).symm.trans h
    | cons c t =>
      by_cases hquote : c = '"'
      · subst hquote
        exact stable_readBasic?_quote hT ih hw h
      by_cases hescape : c = '\\'
      · subst hescape
        exact stable_readBasic?_escape hT ih hw h
      rw [List.cons_append, readBasic?.eq_5 _ _ _ _ hquote hescape] at h
      split at h
      · exact nomatch h
      · rename_i hcontrol
        obtain ⟨⟨inner, rest⟩, hinner, heq⟩ := Option.map_eq_some_iff.mp h
        obtain ⟨rfl, rfl⟩ := Prod.mk.inj heq
        obtain ⟨rest', hcut, hsuffix, hall⟩ := ih hw hinner
        refine ⟨rest', hcut, hsuffix.trans (List.suffix_cons c t), fun n hn => ?_⟩
        obtain ⟨m, rfl, hm⟩ := exists_fuel hsuffix hn
        rw [readBasic?.eq_5 _ _ _ _ hquote hescape, if_neg hcontrol, hall m hm]
        rfl

end Basic

/-! ## Strings -/

/-- A string read with the fuel that its text gives. -/
theorem stable_of_stableAt {α : Type} {read : Nat → List Char → Option (α × List Char)}
    (h : ∀ fuel, StableAt T read fuel) {n : Nat} {t rest : List Char} {a : α} (hw : T w)
    (hread : read n (t ++ w) = some (a, rest)) {m : Nat} (hm : t.length < m) :
    ∃ rest', Cut T rest rest' ∧ rest' <:+ t ∧ read m t = some (a, rest') := by
  obtain ⟨rest', hcut, hsuffix, hall⟩ := h n hw hread
  exact ⟨rest', hcut, hsuffix, hall m (by omega)⟩

/-- A line feed is left out before a cut, or in what is cut off. -/
theorem cut_skipLineFeed (hT : IsTail T) (hw : T w) (t : List Char) :
    Cut T (skipLineFeed (t ++ w)) (skipLineFeed t) ∧ skipLineFeed t <:+ t := by
  cases t with
  | nil =>
    refine ⟨?_, List.suffix_refl _⟩
    rw [List.nil_append]
    unfold skipLineFeed
    split
    · exact cut_nil (hT.tail hw (by decide))
    · exact cut_nil hw
  | cons c t =>
    by_cases hc : c = '\n'
    · subst hc
      exact ⟨cut_append hw t, List.suffix_cons _ t⟩
    · have hkeep (s : List Char) : skipLineFeed (c :: s) = c :: s :=
        skipLineFeed.eq_2 _ fun _ h => hc (List.cons.inj h).1
      rw [List.cons_append, hkeep, hkeep]
      exact ⟨cut_append hw (c :: t), List.suffix_refl _⟩

/-- Quotes that belong to a string of several lines stand before the cut. -/
theorem moreQuotes_extend (hT : IsTail T) (hw : T w) {quote : Char}
    (hquote : Text.isSpace quote = false) (inner rest : List Char) :
    moreQuotes quote (inner, rest ++ w) = extend w (moreQuotes quote (inner, rest)) := by
  have hnone (n : Nat) : (w.take n).takeWhile (· == quote) = [] := by
    cases w with
    | nil => rw [List.take_nil]; rfl
    | cons c w =>
      cases n with
      | zero => rfl
      | succ n =>
        rw [List.take_succ_cons, List.takeWhile_cons_of_neg]
        exact fun h => hT.ne hw hquote (beq_iff_eq.mp h)
  have hextra : ((rest ++ w).take 2).takeWhile (· == quote) =
      (rest.take 2).takeWhile (· == quote) := by
    rw [List.take_append, List.takeWhile_append, hnone, List.append_nil]
    split
    · rename_i hlength
      exact ((List.takeWhile_prefix _).eq_of_length hlength).symm
    · rfl
  have hlength : ((rest.take 2).takeWhile (· == quote)).length ≤ rest.length :=
    ((List.takeWhile_prefix _).length_le).trans ((List.take_prefix 2 rest).length_le)
  simp only [moreQuotes, extend, hextra, List.drop_append_of_le_length hlength]

/-- What follows the quotes that belong to a string is the end of the text. -/
theorem suffix_moreQuotes (quote : Char) (inner rest : List Char) :
    (moreQuotes quote (inner, rest)).2 <:+ rest := List.drop_suffix _ _

/-- A string of several lines, with quotes that belong to it, is read before a cut. -/
theorem stable_map_moreQuotes (hT : IsTail T) {quote : Char} (hquote : Text.isSpace quote = false)
    {read read' : Option (List Char × List Char)} {t a rest : List Char}
    (hread : ∀ inner more, read = some (inner, more) →
      ∃ more', Cut T more more' ∧ more' <:+ t ∧ read' = some (inner, more'))
    (h : read.map (moreQuotes quote) = some (a, rest)) :
    ∃ rest', Cut T rest rest' ∧ rest' <:+ t ∧
      read'.map (moreQuotes quote) = some (a, rest') := by
  obtain ⟨⟨inner, more⟩, hinner, heq⟩ := Option.map_eq_some_iff.mp h
  obtain ⟨more', ⟨w', hw', rfl⟩, hmore, hread'⟩ := hread inner more hinner
  rw [moreQuotes_extend hT hw' hquote] at heq
  obtain ⟨rfl, rfl⟩ := Prod.mk.inj heq
  exact ⟨_, cut_append hw' _, (suffix_moreQuotes quote inner more').trans hmore,
    Option.map_eq_some_iff.mpr ⟨(inner, more'), hread', rfl⟩⟩

/-- A string that starts with a double quote is read before a cut. -/
theorem stable_readString?_double (hT : IsTail T) {t a rest : List Char} (hw : T w)
    (h : readString? ('"' :: t ++ w) = some (a, rest)) :
    ∃ rest', Cut T rest rest' ∧ rest' <:+ '"' :: t ∧ readString? ('"' :: t) = some (a, rest') := by
  by_cases hlines : ∃ more, t = '"' :: '"' :: more
  · obtain ⟨more, rfl⟩ := hlines
    obtain ⟨⟨w', hw', hskip⟩, hsuffix⟩ := cut_skipLineFeed hT hw more
    have hlength := hsuffix.length_le
    simp only [List.cons_append, readString?, hskip] at h
    rw [readString?]
    obtain ⟨rest', hcut, hrest, hread⟩ := stable_map_moreQuotes hT (by decide)
      (fun inner _ hinner => stable_of_stableAt (stableAt_readBasic? hT true) hw' hinner
        (m := ('"' :: '"' :: '"' :: more).length + 1)
        (by simp only [List.length_cons]; omega)) h
    exact ⟨rest', hcut, (hrest.trans hsuffix).trans ⟨['"', '"', '"'], rfl⟩, hread⟩
  · have hlines' (more : List Char) (heq : t ++ w = '"' :: '"' :: more) : False :=
      hlines (exists_two_quotes hT hw (by decide) heq)
    rw [List.cons_append, readString?.eq_2 _ hlines'] at h
    obtain ⟨rest', hcut, hsuffix, hread⟩ := stable_of_stableAt (stableAt_readBasic? hT false) hw h
      (m := ('"' :: t).length + 1) (by simp only [List.length_cons]; omega)
    refine ⟨rest', hcut, hsuffix.trans (List.suffix_cons _ t), ?_⟩
    rw [readString?.eq_2 _ fun more heq => hlines ⟨more, heq⟩, hread]

/-- A string that starts with a single quote is read before a cut. -/
theorem stable_readString?_single (hT : IsTail T) {t a rest : List Char} (hw : T w)
    (h : readString? ('\'' :: t ++ w) = some (a, rest)) :
    ∃ rest', Cut T rest rest' ∧ rest' <:+ '\'' :: t ∧
      readString? ('\'' :: t) = some (a, rest') := by
  by_cases hlines : ∃ more, t = '\'' :: '\'' :: more
  · obtain ⟨more, rfl⟩ := hlines
    obtain ⟨⟨w', hw', hskip⟩, hsuffix⟩ := cut_skipLineFeed hT hw more
    simp only [List.cons_append, readString?, hskip] at h
    rw [readString?]
    obtain ⟨rest', hcut, hrest, hread⟩ := stable_map_moreQuotes hT (by decide)
      (fun _ _ hinner => stable_readLiteralLines? hT hw' hinner) h
    exact ⟨rest', hcut, (hrest.trans hsuffix).trans ⟨['\'', '\'', '\''], rfl⟩, hread⟩
  · have hlines' (more : List Char) (heq : t ++ w = '\'' :: '\'' :: more) : False :=
      hlines (exists_two_quotes hT hw (by decide) heq)
    rw [List.cons_append, readString?.eq_4 _ hlines'] at h
    obtain ⟨rest', hcut, hsuffix, hread⟩ := stable_readLiteral? hT hw h
    refine ⟨rest', hcut, hsuffix.trans (List.suffix_cons _ t), ?_⟩
    rw [readString?.eq_4 _ fun more heq => hlines ⟨more, heq⟩, hread]

/-- A string is read before a cut. -/
theorem stable_readString? (hT : IsTail T) : Stable T readString? := by
  intro t w a rest hw h
  by_cases hdouble : ∃ more, t = '"' :: more
  · obtain ⟨more, rfl⟩ := hdouble
    exact stable_readString?_double hT hw h
  by_cases hsingle : ∃ more, t = '\'' :: more
  · obtain ⟨more, rfl⟩ := hsingle
    exact stable_readString?_single hT hw h
  have hnone₁ := hT.not_cons_of_append hw (by decide) hdouble
  have hnone₂ := hT.not_cons_of_append hw (by decide) hsingle
  rw [readString?.eq_5 _ (fun _ => hnone₁ _) hnone₁ (fun _ => hnone₂ _) hnone₂] at h
  exact nomatch h

/-! ## Keys -/

/-- A string within a line that is changed into something else is read before a cut. -/
theorem stable_mapped {α β : Type} {read read' : Option (α × List Char)} {t rest : List Char}
    {f : α → β} {b : β}
    (hread : ∀ a more, read = some (a, more) →
      ∃ more', Cut T more more' ∧ more' <:+ t ∧ read' = some (a, more'))
    (h : (read.map fun (a, rest) => (f a, rest)) = some (b, rest)) :
    ∃ rest', Cut T rest rest' ∧ rest' <:+ t ∧
      (read'.map fun (a, rest) => (f a, rest)) = some (b, rest') := by
  obtain ⟨⟨a, more⟩, ha, heq⟩ := Option.map_eq_some_iff.mp h
  obtain ⟨rfl, rfl⟩ := Prod.mk.inj heq
  obtain ⟨rest', hcut, hsuffix, hread'⟩ := hread a more ha
  exact ⟨rest', hcut, hsuffix, Option.map_eq_some_iff.mpr ⟨(a, rest'), hread', rfl⟩⟩

/-- A part of a key is read before a cut, and it is not empty. -/
theorem stable_readKeyPart? (hT : IsTail T) {t rest : List Char} {part : String} (hw : T w)
    (h : readKeyPart? (t ++ w) = some (part, rest)) :
    ∃ c t' rest', t = c :: t' ∧ Cut T rest rest' ∧ rest' <:+ t' ∧
      readKeyPart? t = some (part, rest') := by
  by_cases hdouble : ∃ more, t = '"' :: more
  · obtain ⟨more, rfl⟩ := hdouble
    rw [List.cons_append, readKeyPart?] at h
    obtain ⟨rest', hcut, hsuffix, hread⟩ := stable_mapped
      (fun _ _ hinner => stable_of_stableAt (stableAt_readBasic? hT false) hw hinner
        (m := ('"' :: more).length + 1) (by simp only [List.length_cons]; omega)) h
    exact ⟨'"', more, rest', rfl, hcut, hsuffix, hread⟩
  by_cases hsingle : ∃ more, t = '\'' :: more
  · obtain ⟨more, rfl⟩ := hsingle
    rw [List.cons_append, readKeyPart?] at h
    obtain ⟨rest', hcut, hsuffix, hread⟩ := stable_mapped
      (fun _ _ hinner => stable_readLiteral? hT hw hinner) h
    exact ⟨'\'', more, rest', rfl, hcut, hsuffix, hread⟩
  have hbare := takeWhile_append hT hw (eq_false_of_isSpace toNat_of_isBare) t
  rw [readKeyPart?.eq_3 _ (hT.not_cons_of_append hw (by decide) hdouble)
    (hT.not_cons_of_append hw (by decide) hsingle), hbare.1, hbare.2] at h
  split at h
  · exact nomatch h
  · rename_i hnonempty
    obtain ⟨rfl, rfl⟩ := Prod.mk.inj (Option.some.inj h)
    cases t with
    | nil => exact absurd rfl hnonempty
    | cons c t =>
      have hc : isBare c = true := by
        by_contra hc
        rw [List.takeWhile_cons_of_neg hc] at hnonempty
        exact hnonempty rfl
      refine ⟨c, t, _, rfl, cut_append hw _, ?_, ?_⟩
      · rw [List.dropWhile_cons_of_pos hc]
        exact List.dropWhile_suffix _
      · rw [readKeyPart?.eq_3 _ (fun more heq => hdouble ⟨more, heq⟩)
          (fun more heq => hsingle ⟨more, heq⟩), if_neg hnonempty]

/-- A key is read before a cut. -/
theorem stableAt_readKey? (hT : IsTail T) (fuel : Nat) : StableAt T readKey? fuel := by
  induction fuel with
  | zero => exact fun t w a rest hw h => nomatch h
  | succ fuel ih =>
    intro t w key rest hw h
    obtain ⟨⟨part, more⟩, hpart, h⟩ := Option.bind_eq_some_iff.mp h
    obtain ⟨c, t, more', rfl, ⟨w', hw', rfl⟩, hmore, hpart'⟩ := stable_readKeyPart? hT hw hpart
    obtain ⟨w₁, hw₁, hskip⟩ := cut_skipBlanks hT hw' more'
    obtain ⟨next, hnext⟩ : ∃ next, skipBlanks more' = next := ⟨_, rfl⟩
    have hsuffix : next <:+ t := (hnext ▸ List.dropWhile_suffix _ : next <:+ more').trans hmore
    dsimp only at h
    rw [hskip, hnext] at h
    by_cases hpoint : ∃ v, next = '.' :: v
    · obtain ⟨v, rfl⟩ := hpoint
      obtain ⟨⟨key', rest⟩, hkey, heq⟩ := Option.bind_eq_some_iff.mp h
      obtain ⟨rfl, rfl⟩ := Prod.mk.inj (Option.some.inj heq)
      obtain ⟨w₂, hw₂, hskip'⟩ := cut_skipBlanks hT hw₁ v
      obtain ⟨rest', hcut, hrest, hall⟩ := ih hw₂ (hskip' ▸ hkey)
      have hv : skipBlanks v <:+ t :=
        (List.dropWhile_suffix _).trans ((List.suffix_cons _ v).trans hsuffix)
      have hlength := hv.length_le
      refine ⟨rest', hcut, (hrest.trans hv).trans (List.suffix_cons c t), fun n hn => ?_⟩
      obtain ⟨m, rfl, hm⟩ := exists_fuel (hrest.trans hv) hn
      refine Option.bind_eq_some_iff.mpr ⟨(part, more'), hpart', ?_⟩
      dsimp only
      rw [hnext]
      exact Option.bind_eq_some_iff.mpr ⟨(key', rest'), hall m (by omega), rfl⟩
    · split at h
      · rename_i heq
        exact (hT.not_cons_of_append hw₁ (by decide) hpoint _ heq).elim
      · obtain ⟨rfl, rfl⟩ := Prod.mk.inj (Option.some.inj h)
        refine ⟨next, cut_append hw₁ next, hsuffix.trans (List.suffix_cons c t), fun n hn => ?_⟩
        obtain ⟨m, rfl, -⟩ := exists_fuel hsuffix hn
        refine Option.bind_eq_some_iff.mpr ⟨(part, more'), hpart', ?_⟩
        dsimp only
        rw [hnext]
        split
        · exact absurd ⟨_, rfl⟩ hpoint
        · rfl

end Trigger.Toml
