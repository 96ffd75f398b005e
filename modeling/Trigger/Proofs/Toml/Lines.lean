import Trigger.Proofs.Text.Trim
import Trigger.Proofs.Toml.Values
import Trigger.Text.Utf8

/-!
# Documents without white space around them

A document says the same without the white space at its start and at its end, and none has a
carriage return that stands alone. Its lines are read before a cut: the last of them may be cut
within a comment, and those that are cut off altogether say nothing.
-/

namespace Trigger.Toml

section Step

variable {T : List Char → Prop} {t w rest : List Char}

/-- A header is read before a cut. -/
theorem stable_readHeader? (hT : IsTail T) {closing : List Char}
    (hclosing : closing.any Text.isSpace = false) (hw : T w) {key : Key}
    (h : readHeader? closing (t ++ w) = some (key, rest)) :
    ∃ rest', Cut T rest rest' ∧ rest' <:+ t ∧ readHeader? closing t = some (key, rest') := by
  obtain ⟨⟨key', more⟩, hkey, h⟩ := Option.bind_eq_some_iff.mp h
  obtain ⟨rest, hafter, heq⟩ := Option.bind_eq_some_iff.mp h
  obtain ⟨rfl, rfl⟩ := Prod.mk.inj (Option.some.inj heq)
  obtain ⟨w₁, hw₁, hskip⟩ := cut_skipBlanks hT hw t
  rw [hskip] at hkey
  obtain ⟨more', ⟨w₂, hw₂, rfl⟩, hmore, hkey'⟩ := stableAt_readKey? hT _ hw₁ hkey
  rw [after?_append hT hw₂ hclosing] at hafter
  obtain ⟨rest', hafter', rfl⟩ := Option.map_eq_some_iff.mp hafter
  have hskipped : skipBlanks t <:+ t := List.dropWhile_suffix _
  have hlength := hskipped.length_le
  exact ⟨rest', cut_append hw₂ rest', ((suffix_of_after? hafter').trans hmore).trans hskipped,
    Option.bind_eq_some_iff.mpr ⟨(key', more'), hkey' _ (by omega),
      Option.bind_eq_some_iff.mpr ⟨rest', hafter', rfl⟩⟩⟩

/-- A line that is neither empty nor a comment nor a header is a key with its value. -/
theorem readLine?_entry {c : Char} {s : List Char} (hfeed : c ≠ '\n') (hcomment : c ≠ '#')
    (hheader : c ≠ '[') :
    readLine? (c :: s) = (readPair? ((c :: s).length + 1) ((c :: s).length + 1) (c :: s)).map
      fun (entry, rest) => ([Line.value entry.1 entry.2], rest) := by
  rw [readLine?.eq_6 (c :: s) (fun h => nomatch h) (fun _ h => hfeed (List.cons.inj h).1)
    (fun _ h => hcomment (List.cons.inj h).1) (fun _ h => hheader (List.cons.inj h).1)
    (fun _ h => hheader (List.cons.inj h).1), readPair?, Option.map_bind]
  refine congrArg (Option.bind _) (funext fun key => ?_)
  rw [Function.comp_apply, Option.map_bind]
  refine congrArg (Option.bind _) (funext fun rest => ?_)
  rw [Function.comp_apply, Option.map_map]
  cases readValue? ((c :: s).length + 1) (skipBlanks rest) <;> rfl

/-- A line that is a header is read before a cut. -/
theorem stable_readLine?_header (hT : IsTail T) (hw : T w) {line : List Line}
    (h : readLine? ('[' :: t ++ w) = some (line, rest)) :
    ∃ rest', Cut T rest rest' ∧ rest' <:+ '[' :: t ∧ readLine? ('[' :: t) = some (line, rest') := by
  by_cases hitem : ∃ more, t = '[' :: more
  · obtain ⟨more, rfl⟩ := hitem
    obtain ⟨rest', hcut, hsuffix, hread⟩ := stable_mapped (f := fun key => [Line.item key])
      (fun _ _ hkey => stable_readHeader? hT (by decide) hw hkey) h
    exact ⟨rest', hcut, hsuffix.trans ⟨['[', '['], rfl⟩, hread⟩
  · rw [List.cons_append, readLine?.eq_5 _ (hT.not_cons_of_append hw (by decide) hitem)] at h
    rw [readLine?.eq_5 _ fun more heq => hitem ⟨more, heq⟩]
    obtain ⟨rest', hcut, hsuffix, hread⟩ := stable_mapped (f := fun key => [Line.table key])
      (fun _ _ hkey => stable_readHeader? hT (by decide) hw hkey) h
    exact ⟨rest', hcut, hsuffix.trans (List.suffix_cons _ t), hread⟩

/-- A line is read before a cut. -/
theorem stable_readLine? (hT : IsTail T) : Stable T readLine? := by
  intro t w line rest hw h
  cases t with
  | nil =>
    cases w with
    | nil =>
      obtain ⟨rfl, rfl⟩ := Prod.mk.inj (Option.some.inj h)
      exact ⟨[], cut_nil hw, List.suffix_refl _, rfl⟩
    | cons c w =>
      by_cases hfeed : c = '\n'
      · subst hfeed
        obtain ⟨rfl, rfl⟩ := Prod.mk.inj (Option.some.inj h)
        exact ⟨[], cut_nil hw, List.suffix_refl _, rfl⟩
      · rw [List.nil_append,
          readLine?_entry hfeed (hT.ne hw (by decide)) (hT.ne hw (by decide))] at h
        obtain ⟨⟨entry, more⟩, hentry, -⟩ := Option.map_eq_some_iff.mp h
        obtain ⟨rest', -, -, hnone⟩ :=
          stable_readPair? hT (stableAt_readValue? hT _).1 (t := []) hw hentry
        exact nomatch hnone 1 (by simp)
  | cons c t =>
    by_cases hfeed : c = '\n'
    · subst hfeed
      obtain ⟨rfl, rfl⟩ := Prod.mk.inj (Option.some.inj h)
      exact ⟨_, cut_append hw _, List.suffix_refl _, rfl⟩
    by_cases hcomment : c = '#'
    · subst hcomment
      obtain ⟨rfl, rfl⟩ := Prod.mk.inj (Option.some.inj h)
      exact ⟨_, cut_append hw _, List.suffix_refl _, rfl⟩
    by_cases hheader : c = '['
    · subst hheader
      exact stable_readLine?_header hT hw h
    · rw [List.cons_append, readLine?_entry hfeed hcomment hheader] at h
      obtain ⟨⟨entry, more⟩, hentry, heq⟩ := Option.map_eq_some_iff.mp h
      obtain ⟨rfl, rfl⟩ := Prod.mk.inj heq
      obtain ⟨rest', hcut, hsuffix, hentry'⟩ :=
        stable_readPair? hT (stableAt_readValue? hT _).1 (t := c :: t) hw hentry
      refine ⟨rest', hcut, hsuffix, ?_⟩
      rw [readLine?_entry hfeed hcomment hheader, hentry' _ (by omega)]
      rfl

/-- The lines behind a line, which must be at its end. -/
def afterLine? (fuel : Nat) (line : List Line) : List Char → Option (List Line)
  | [] => some line
  | '\n' :: rest => (readLines? fuel rest).map (line ++ ·)
  | _ => none

/-- The lines of a text are one and those behind it. -/
theorem readLines?_succ (fuel : Nat) (s : List Char) :
    readLines? (fuel + 1) s = (readLine? (skipBlanks s)).bind fun r =>
      (skipComment? (skipBlanks r.2)).bind (afterLine? fuel r.1) := by
  rw [readLines?]
  refine congrArg (Option.bind _) (funext fun r => ?_)
  refine congrArg (Option.bind _) (funext fun next => ?_)
  split
  · rfl
  · rename_i more
    change _ = (readLines? fuel more).map (r.1 ++ ·)
    cases readLines? fuel more <;> rfl
  · rename_i hnil hfeed
    exact (afterLine?.eq_3 fuel r.1 next hnil hfeed).symm

/-- Only a line feed stands behind a line. -/
theorem afterLine?_eq_none {fuel : Nat} {line : List Line} {c : Char} (hfeed : c ≠ '\n')
    (s : List Char) : afterLine? fuel line (c :: s) = none :=
  afterLine?.eq_3 fuel line (c :: s) (fun h => nomatch h) fun _ h => hfeed (List.cons.inj h).1

/-- The lines behind a line are those before a cut if all lines are. -/
theorem afterLine?_cut (hT : IsTail T) {fuel : Nat} {line lines : List Line}
    (ih : ∀ {t w : List Char} {lines : List Line}, T w → readLines? fuel (t ++ w) = some lines →
      T [] ∧ ∀ n, t.length < n → readLines? n t = some lines)
    (hw : T w) (h : afterLine? fuel line (t ++ w) = some lines) :
    T [] ∧ ∀ n, t.length ≤ n → afterLine? n line t = some lines := by
  cases t with
  | nil =>
    cases w with
    | nil => exact ⟨hw, fun _ _ => h⟩
    | cons c w =>
      by_cases hfeed : c = '\n'
      · subst hfeed
        obtain ⟨more, hmore, heq⟩ := Option.map_eq_some_iff.mp h
        obtain ⟨hnil, hall⟩ := ih (t := []) (hT.tail hw (by decide)) hmore
        -- The lines that are cut off say nothing.
        obtain rfl : [] = more := Option.some.inj (hall 1 (by simp))
        rw [List.append_nil] at heq
        exact ⟨hnil, fun _ _ => congrArg some heq⟩
      · rw [List.nil_append, afterLine?_eq_none hfeed] at h
        exact nomatch h
  | cons c t =>
    by_cases hfeed : c = '\n'
    · subst hfeed
      obtain ⟨more, hmore, rfl⟩ := Option.map_eq_some_iff.mp h
      obtain ⟨hnil, hall⟩ := ih hw hmore
      exact ⟨hnil, fun n hn => Option.map_eq_some_iff.mpr ⟨more, hall n hn, rfl⟩⟩
    · rw [List.cons_append, afterLine?_eq_none hfeed] at h
      exact nomatch h

/-- The lines of a text are those before a cut, and nothing but what can be cut off is cut off. -/
theorem readLines?_cut (hT : IsTail T) {fuel : Nat} {lines : List Line} (hw : T w)
    (h : readLines? fuel (t ++ w) = some lines) :
    T [] ∧ ∀ n, t.length < n → readLines? n t = some lines := by
  induction fuel generalizing t w lines with
  | zero => exact nomatch h
  | succ fuel ih =>
    rw [readLines?_succ] at h
    obtain ⟨⟨line, r⟩, hline, h⟩ := Option.bind_eq_some_iff.mp h
    obtain ⟨next, hcomment, h⟩ := Option.bind_eq_some_iff.mp h
    obtain ⟨w₁, hw₁, hskip₁⟩ := cut_skipBlanks hT hw t
    rw [hskip₁] at hline
    obtain ⟨r', ⟨w₂, hw₂, rfl⟩, hr, hline'⟩ := stable_readLine? hT hw₁ hline
    obtain ⟨w₃, hw₃, hskip₂⟩ := cut_skipBlanks hT hw₂ r'
    rw [hskip₂] at hcomment
    obtain ⟨next', ⟨w₄, hw₄, rfl⟩, hnext, hcomment'⟩ := skipComment?_append hT hw₃ hcomment
    obtain ⟨hnil, hall⟩ := afterLine?_cut hT ih hw₄ h
    have hsuffix : next' <:+ t := ((hnext.trans (List.dropWhile_suffix _)).trans hr).trans
      (List.dropWhile_suffix _)
    have hlength := hsuffix.length_le
    refine ⟨hnil, fun n hn => ?_⟩
    obtain ⟨m, rfl⟩ : ∃ m, n = m + 1 := ⟨n - 1, by omega⟩
    rw [readLines?_succ, hline', Option.bind_some, hcomment', Option.bind_some]
    exact hall m (by omega)

end Step

/-! ## White space around lines -/

/-- No carriage return is read. -/
theorem return_not_mem_of_readLines? {fuel : Nat} {s : List Char} {lines : List Line}
    (h : readLines? fuel s = some lines) : '\r' ∉ s := by
  intro hreturn
  obtain ⟨t, u, rfl, -⟩ := List.eq_append_cons_of_mem hreturn
  obtain ⟨⟨u', hnil⟩, -⟩ := readLines?_cut isTail_return ⟨u, rfl⟩ h
  exact nomatch hnil

/-- Lines are read with any fuel that is more than their text. -/
theorem readLines?_of_length_lt {fuel n : Nat} {s : List Char} {lines : List Line}
    (h : readLines? fuel s = some lines) (hn : s.length < n) : readLines? n s = some lines := by
  rw [← List.append_nil s] at h
  exact (readLines?_cut isTail_space (by simp) h).2 n hn

/-- A line does not start with a character that starts no key, no header and no comment. -/
theorem readLine?_eq_none {c : Char} (hfeed : c ≠ '\n') (hcomment : c ≠ '#') (hheader : c ≠ '[')
    (hdouble : c ≠ '"') (hsingle : c ≠ '\'') (hbare : isBare c = false) (s : List Char) :
    readLine? (c :: s) = none := by
  have hpart : readKeyPart? (c :: s) = none := by
    rw [readKeyPart?.eq_3 _ (fun _ h => hdouble (List.cons.inj h).1)
      (fun _ h => hsingle (List.cons.inj h).1), List.takeWhile_cons_of_neg (by simp [hbare])]
    rfl
  rw [readLine?_entry hfeed hcomment hheader, readPair?, readKey?, hpart]
  rfl

/-- White space at the start of a text says nothing. -/
theorem exists_readLines?_of_space {fuel : Nat} {w s : List Char} {lines : List Line}
    (hw : ∀ c ∈ w, Text.isSpace c = true) (h : readLines? fuel (w ++ s) = some lines) :
    ∃ n, readLines? n s = some lines := by
  induction w generalizing fuel with
  | nil => exact ⟨fuel, h⟩
  | cons c w ih =>
    have hrest : ∀ c ∈ w, Text.isSpace c = true := fun d hd => hw d (List.mem_cons_of_mem c hd)
    have hspace := hw c List.mem_cons_self
    cases fuel with
    | zero => exact nomatch h
    | succ fuel =>
      by_cases hblank : isBlank c = true
      · have hmore : readLines? (fuel + 1) (w ++ s) = some lines := by
          rw [← h, readLines?_succ, readLines?_succ, List.cons_append, skipBlanks, skipBlanks,
            List.dropWhile_cons_of_pos hblank]
        exact ih hrest hmore
      by_cases hfeed : c = '\n'
      · subst hfeed
        have hskip : readLines? (fuel + 1) ('\n' :: (w ++ s)) =
            (readLines? fuel (w ++ s)).map ([] ++ ·) := by
          rw [readLines?_succ]
          rfl
        rw [List.cons_append, hskip] at h
        obtain ⟨more, hmore, rfl⟩ := Option.map_eq_some_iff.mp h
        exact ih hrest hmore
      · have hne {d : Char} (hd : Text.isSpace d = false) : c ≠ d :=
          fun heq => Bool.false_ne_true (hd.symm.trans (heq ▸ hspace))
        have hnone := readLine?_eq_none hfeed (hne (by decide)) (hne (by decide)) (hne (by decide))
          (hne (by decide)) (eq_false_of_isSpace toNat_of_isBare c hspace) (w ++ s)
        rw [readLines?_succ, List.cons_append, skipBlanks, List.dropWhile_cons_of_neg hblank,
          hnone] at h
        exact nomatch h

/-! ## Documents -/

/-- A text without carriage returns stays as it is. -/
theorem unifyLines_of_not_mem {s : List Char} (hs : '\r' ∉ s) : unifyLines s = s := by
  induction s using unifyLines.induct with
  | case1 => rfl
  | case2 rest => simp at hs
  | case3 c rest h ih =>
    rw [unifyLines.eq_3 _ _ h, ih fun hmem => hs (List.mem_cons_of_mem c hmem)]

/-- Line ends are the same in both ways where no carriage return stands alone. -/
theorem unifyLineEnds_append {s : List Char} (hs : '\r' ∉ unifyLines s) (t : List Char) :
    Text.unifyLineEnds (s ++ t) = unifyLines s ++ Text.unifyLineEnds t := by
  induction s using unifyLines.induct with
  | case1 => rfl
  | case2 rest ih =>
    rw [unifyLines] at hs ⊢
    rw [List.cons_append, List.cons_append, Text.unifyLineEnds,
      ih fun hmem => hs (List.mem_cons_of_mem _ hmem)]
    rfl
  | case3 c rest h ih =>
    rw [unifyLines.eq_3 _ _ h, List.mem_cons, not_or] at hs
    have hc : c ≠ '\r' := Ne.symm hs.1
    rw [List.cons_append, Text.unifyLineEnds.eq_4 _ _ (fun _ heq => absurd heq hc) hc, ih hs.2,
      unifyLines.eq_3 _ _ h, List.cons_append]

/-- A document has no carriage return that stands alone. -/
theorem return_not_mem_of_read? {t : List Char} {entries : Entries}
    (h : read? t = some entries) : '\r' ∉ unifyLines t := by
  obtain ⟨lines, hlines, -⟩ := Option.bind_eq_some_iff.mp h
  exact return_not_mem_of_readLines? hlines

/-- A document stands for the same table without the white space around it. -/
theorem read?_trim {t : List Char} {entries : Entries} (h : read? t = some entries) :
    read? (Text.trim (unifyLines t)) = some entries := by
  have hreturn := return_not_mem_of_read? h
  obtain ⟨lines, hlines, hentries⟩ := Option.bind_eq_some_iff.mp h
  obtain ⟨w, w', hw, hw', hs⟩ := Text.exists_trim (unifyLines t)
  rw [hs] at hreturn hlines
  have hnone : '\r' ∉ Text.trim (unifyLines t) := by
    rw [List.mem_append, List.mem_append, not_or, not_or] at hreturn
    exact hreturn.1.2
  have hend := (readLines?_cut isTail_space hw' hlines).2 _ (Nat.lt_succ_self _)
  obtain ⟨n, hstart⟩ := exists_readLines?_of_space hw hend
  rw [read?, unifyLines_of_not_mem hnone]
  exact Option.bind_eq_some_iff.mpr
    ⟨lines, readLines?_of_length_lt hstart (Nat.lt_succ_self _), hentries⟩

/-- What starts with a character that no line starts with is no document. -/
theorem read?_eq_none {c : Char} (hreturn : c ≠ '\r') (hblank : isBlank c = false)
    (hfeed : c ≠ '\n') (hcomment : c ≠ '#') (hheader : c ≠ '[')
    (hdouble : c ≠ '"') (hsingle : c ≠ '\'') (hbare : isBare c = false) (s : List Char) :
    read? (c :: s) = none := by
  have hlines (s : List Char) : readLines? ((c :: s).length + 1) (c :: s) = none := by
    rw [readLines?_succ, skipBlanks, List.dropWhile_cons_of_neg (by simp [hblank]),
      readLine?_eq_none hfeed hcomment hheader hdouble hsingle hbare]
    rfl
  rw [read?, unifyLines.eq_3 _ _ fun _ heq => absurd heq hreturn]
  rw [hlines]
  rfl

end Trigger.Toml
