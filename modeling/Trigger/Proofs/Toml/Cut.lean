import Mathlib.Data.List.TakeWhile
import Trigger.Text.Space
import Trigger.Toml.Reader

/-!
# Texts that are cut off

White space at the end of a document can be cut off, and nothing is read beyond a carriage return
that stands alone. Both are one property of the readers: what is cut off starts with white space,
and so does the rest of it up to its end or to a carriage return. A reader finds the same before the
cut, and leaves what it left before or less.

What is cut off is described by a property of texts, of which only this is used.
-/

namespace Trigger.Toml

/-- The texts with a property start with white space, and what stands behind a character other than
a carriage return has the property as well. -/
structure IsTail (T : List Char → Prop) : Prop where
  isSpace : ∀ {c : Char} {w : List Char}, T (c :: w) → Text.isSpace c = true
  tail : ∀ {c : Char} {w : List Char}, T (c :: w) → c ≠ '\r' → T w

/-- White space up to the end of a text. -/
theorem isTail_space : IsTail fun w => ∀ c ∈ w, Text.isSpace c = true where
  isSpace h := h _ List.mem_cons_self
  tail h _ c hc := h c (List.mem_cons_of_mem _ hc)

/-- Whatever comes behind a carriage return. -/
theorem isTail_return : IsTail fun w => ∃ u, w = '\r' :: u where
  isSpace := by
    rintro c w ⟨u, h⟩
    obtain ⟨rfl, -⟩ := List.cons.inj h
    decide
  tail := by
    rintro c w ⟨u, h⟩ hc
    exact absurd (List.cons.inj h).1 hc

/-- A text is another one with something behind it that is cut off. -/
def Cut (T : List Char → Prop) (s t : List Char) : Prop := ∃ w, T w ∧ s = t ++ w

variable {T : List Char → Prop} {s t w rest : List Char}

/-- What is cut off is a text that is cut down to nothing. -/
theorem cut_nil (hw : T w) : Cut T w [] := ⟨w, hw, rfl⟩

/-- Behind the same characters, the same is cut off. -/
theorem cut_append (hw : T w) (t : List Char) : Cut T (t ++ w) t := ⟨w, hw, rfl⟩

namespace IsTail

/-- What is cut off starts with no other character than white space. -/
theorem ne (hT : IsTail T) {c d : Char} (hw : T (c :: w)) (hd : Text.isSpace d = false) : c ≠ d :=
  fun h => Bool.false_ne_true (hd.symm.trans (h ▸ hT.isSpace hw))

/-- A character before what is cut off, if it is no white space, is kept. -/
theorem exists_of_cons (hT : IsTail T) (hw : T w) {c : Char} (hc : Text.isSpace c = false)
    (h : t ++ w = c :: s) : ∃ t', t = c :: t' ∧ s = t' ++ w := by
  cases t with
  | nil =>
    obtain rfl : w = c :: s := h
    exact absurd rfl (hT.ne hw hc)
  | cons d t =>
    obtain ⟨rfl, rfl⟩ := List.cons.inj h
    exact ⟨t, rfl, rfl⟩

/-- A text does not start with a character that is no white space because of what is cut off. -/
theorem not_cons_of_append (hT : IsTail T) (hw : T w) {c : Char} (hc : Text.isSpace c = false)
    (ht : ¬∃ more, t = c :: more) (more : List Char) (h : t ++ w = c :: more) : False := by
  obtain ⟨more', ht', -⟩ := hT.exists_of_cons hw hc h
  exact ht ⟨more', ht'⟩

/-- What is cut off without characters at its start, none of them a carriage return. -/
theorem dropWhile (hT : IsTail T) {test : Char → Bool} (hw : T w)
    (htest : ∀ c ∈ w.takeWhile test, c ≠ '\r') : T (w.dropWhile test) := by
  induction w with
  | nil => exact hw
  | cons c w ih =>
    by_cases hc : test c = true
    · rw [List.takeWhile_cons_of_pos hc] at htest
      rw [List.dropWhile_cons_of_pos hc]
      exact ih (hT.tail hw (htest c List.mem_cons_self))
        fun d hd => htest d (List.mem_cons_of_mem _ hd)
    · rwa [List.dropWhile_cons_of_neg hc]

/-- So many characters of a text, if some of them are cut off, are not without white space. -/
theorem exists_isSpace_of_take (hT : IsTail T) (hw : T w) {width : Nat}
    (hlong : ¬width ≤ s.length) (hwidth : ((s ++ w).take width).length = width) :
    ∃ c ∈ (s ++ w).take width, Text.isSpace c = true := by
  cases w with
  | nil =>
    rw [List.append_nil, List.length_take] at hwidth
    omega
  | cons c w =>
    refine ⟨c, ?_, hT.isSpace hw⟩
    obtain ⟨more, hmore⟩ := Nat.exists_eq_add_of_lt (Nat.lt_of_not_le hlong)
    rw [List.take_append, hmore, Nat.add_assoc, Nat.add_sub_cancel_left, List.take_succ_cons]
    exact List.mem_append_right _ List.mem_cons_self

end IsTail

/-- Characters that pass a test are left out before the cut, and behind it if all before it do. -/
theorem cut_dropWhile (hT : IsTail T) {test : Char → Bool} (hw : T w)
    (htest : ∀ c ∈ w.takeWhile test, c ≠ '\r') (t : List Char) :
    Cut T ((t ++ w).dropWhile test) (t.dropWhile test) := by
  rw [List.dropWhile_append]
  split
  case isTrue h =>
    rw [List.isEmpty_iff.mp h]
    exact cut_nil (hT.dropWhile hw htest)
  case isFalse => exact cut_append hw _

/-- Characters that are no white space are taken before the cut. -/
theorem takeWhile_append (hT : IsTail T) {test : Char → Bool} (hw : T w)
    (htest : ∀ c, Text.isSpace c = true → test c = false) (t : List Char) :
    (t ++ w).takeWhile test = t.takeWhile test ∧
      (t ++ w).dropWhile test = t.dropWhile test ++ w := by
  have hnone : w.takeWhile test = [] ∧ w.dropWhile test = w := by
    cases w with
    | nil => exact ⟨rfl, rfl⟩
    | cons c w =>
      have hc := htest c (hT.isSpace hw)
      exact ⟨List.takeWhile_cons_of_neg (by simp [hc]), List.dropWhile_cons_of_neg (by simp [hc])⟩
  induction t with
  | nil => exact hnone
  | cons c t ih =>
    by_cases hc : test c = true
    · rw [List.cons_append, List.takeWhile_cons_of_pos hc, List.takeWhile_cons_of_pos hc,
        List.dropWhile_cons_of_pos hc, List.dropWhile_cons_of_pos hc, ih.1, ih.2]
      exact ⟨rfl, rfl⟩
    · rw [List.cons_append, List.takeWhile_cons_of_neg hc, List.takeWhile_cons_of_neg hc,
        List.dropWhile_cons_of_neg hc, List.dropWhile_cons_of_neg hc]
      exact ⟨rfl, rfl⟩

/-! ## Readers -/

/-- What is read of a text is read of it before a cut as well, and what is left of it is cut off in
the same way. -/
def Stable {α : Type} (T : List Char → Prop) (read : List Char → Option (α × List Char)) : Prop :=
  ∀ ⦃t w : List Char⦄ ⦃a : α⦄ ⦃rest : List Char⦄, T w → read (t ++ w) = some (a, rest) →
    ∃ rest', Cut T rest rest' ∧ rest' <:+ t ∧ read t = some (a, rest')

/-- What is read with some fuel is read before a cut as well, with any fuel that is more than what
is read there. -/
def StableAt {α : Type} (T : List Char → Prop) (read : Nat → List Char → Option (α × List Char))
    (fuel : Nat) : Prop :=
  ∀ ⦃t w : List Char⦄ ⦃a : α⦄ ⦃rest : List Char⦄, T w → read fuel (t ++ w) = some (a, rest) →
    ∃ rest', Cut T rest rest' ∧ rest' <:+ t ∧
      ∀ fuel', t.length < rest'.length + fuel' → read fuel' t = some (a, rest')

/-- What was read, with more text behind what was left. -/
def extend {α : Type} (w : List Char) (read : α × List Char) : α × List Char :=
  (read.1, read.2 ++ w)

/-- Fuel that is more than what is read is more than what is read behind the first character, also
without one of it. -/
theorem exists_fuel {c : Char} (hs : s <:+ t) {fuel : Nat}
    (hfuel : (c :: t).length < s.length + fuel) :
    ∃ n, fuel = n + 1 ∧ t.length < s.length + n := by
  have hlength := hs.length_le
  rw [List.length_cons] at hfuel
  exact ⟨fuel - 1, by omega, by omega⟩

/-- A reader that gives the same whatever is cut off. -/
theorem stable_of_append {α : Type} {read : List Char → Option (α × List Char)}
    (happend : ∀ w, T w → ∀ t, read (t ++ w) = (read t).map (extend w))
    (hsuffix : ∀ t a rest, read t = some (a, rest) → rest <:+ t) : Stable T read := by
  intro t w a rest hw h
  rw [happend w hw, Option.map_eq_some_iff] at h
  obtain ⟨⟨b, rest'⟩, hread, heq⟩ := h
  obtain ⟨rfl, rfl⟩ := Prod.mk.inj heq
  exact ⟨rest', cut_append hw rest', hsuffix t b rest' hread, hread⟩

/-! ## Characters -/

/-- Blanks are no carriage returns. -/
theorem ne_return_of_isBlank {c : Char} (h : (isBlank c || c == '\n') = true) : c ≠ '\r' := by
  rintro rfl
  exact absurd h (by decide)

/-- A carriage return stands in no comment and no string. -/
theorem ne_return_of_not_isControl {c : Char} (h : isControl c = false) : c ≠ '\r' := by
  rintro rfl
  exact absurd h (by decide)

/-- Blanks are left out before the cut, and in what is cut off if nothing is left before it. -/
theorem cut_skipBlanks (hT : IsTail T) (hw : T w) (t : List Char) :
    Cut T (skipBlanks (t ++ w)) (skipBlanks t) := by
  refine cut_dropWhile hT hw (fun c hc => ne_return_of_isBlank ?_) t
  rw [List.mem_takeWhile_imp hc, Bool.true_or]

/-- Blanks and line ends are left out in the same way. -/
theorem cut_dropFiller (hT : IsTail T) (hw : T w) (t : List Char) :
    Cut T ((t ++ w).dropWhile fun c => isBlank c || c == '\n')
      (t.dropWhile fun c => isBlank c || c == '\n') := by
  refine cut_dropWhile hT hw (fun c hc => ne_return_of_isBlank ?_) t
  simpa using List.mem_takeWhile_imp hc

/-- The visible characters of ASCII are no white space. -/
theorem isSpace_eq_false {c : Char} (hlow : 33 ≤ c.toNat) (hhigh : c.toNat ≤ 126) :
    Text.isSpace c = false := by
  rw [← Bool.not_eq_true]
  intro h
  obtain ⟨r, hr, hfirst, hlast⟩ := Text.inRanges_of_mem h
  simp only [Text.spaceRanges, List.mem_cons, List.not_mem_nil, or_false] at hr
  rcases hr with rfl | rfl | rfl | rfl | rfl | rfl | rfl | rfl | rfl | rfl <;> omega

/-- White space fails a test that only visible characters of ASCII pass. -/
theorem eq_false_of_isSpace {test : Char → Bool}
    (htest : ∀ c, test c = true → 33 ≤ c.toNat ∧ c.toNat ≤ 126) (c : Char)
    (hc : Text.isSpace c = true) : test c = false := by
  rw [← Bool.not_eq_true]
  intro h
  exact Bool.false_ne_true ((isSpace_eq_false (htest c h).1 (htest c h).2).symm.trans hc)

/-- Digits are visible. -/
theorem toNat_of_isDigit (c : Char) (h : c.isDigit = true) : 33 ≤ c.toNat ∧ c.toNat ≤ 126 := by
  simp only [Char.isDigit, Bool.and_eq_true, decide_eq_true_eq, UInt32.le_iff_toNat_le] at h
  have hlow : 48 ≤ c.toNat := h.1
  have hhigh : c.toNat ≤ 57 := h.2
  omega

/-- Characters between two visible ones are visible. -/
theorem toNat_of_le {c low high : Char} (h : low ≤ c ∧ c ≤ high) (hlow : 33 ≤ low.toNat)
    (hhigh : high.toNat ≤ 126) : 33 ≤ c.toNat ∧ c.toNat ≤ 126 :=
  ⟨Nat.le_trans hlow h.1, Nat.le_trans h.2 hhigh⟩

/-- Hexadecimal digits are visible. -/
theorem toNat_of_isHexDigit (c : Char) (h : isHexDigit c = true) :
    33 ≤ c.toNat ∧ c.toNat ≤ 126 := by
  simp only [isHexDigit, Bool.or_eq_true, Bool.and_eq_true, decide_eq_true_eq] at h
  rcases h with (h | h) | h
  · exact toNat_of_isDigit c h
  · exact toNat_of_le h (by decide) (by decide)
  · exact toNat_of_le h (by decide) (by decide)

/-- Letters are visible. -/
theorem toNat_of_isAlpha (c : Char) (h : c.isAlpha = true) : 33 ≤ c.toNat ∧ c.toNat ≤ 126 := by
  rcases Bool.or_eq_true_iff.mp h with hupper | hlower
  · exact toNat_of_le (of_decide_eq_true hupper) (by decide) (by decide)
  · have h : (decide ('a' ≤ c) && decide (c ≤ 'z')) = true := hlower
    rw [Bool.and_eq_true, decide_eq_true_eq, decide_eq_true_eq] at h
    exact toNat_of_le h (by decide) (by decide)

/-- The characters of keys without quotes are visible. -/
theorem toNat_of_isBare (c : Char) (h : isBare c = true) : 33 ≤ c.toNat ∧ c.toNat ≤ 126 := by
  rw [isBare, Bool.or_eq_true, Bool.or_eq_true, beq_iff_eq, beq_iff_eq] at h
  rcases h with (h | rfl) | rfl
  · rcases Bool.or_eq_true_iff.mp h with h | h
    · exact toNat_of_isAlpha c h
    · exact toNat_of_isDigit c h
  · decide
  · decide

/-! ## Fixed characters -/

section After

variable {word : List Char}

/-- What follows fixed characters is the end of the text. -/
theorem suffix_of_after? (h : after? word s = some rest) : rest <:+ s := by
  unfold after? at h
  split at h
  · exact Option.some.inj h ▸ List.drop_suffix _ _
  · exact nomatch h

/-- Fixed visible characters stand at the start of a text or do not, whatever is cut off. -/
theorem prefix_append_iff (hT : IsTail T) (hw : T w) (hword : word.any Text.isSpace = false)
    (s : List Char) : word <+: s ++ w ↔ word <+: s := by
  refine ⟨fun h => ?_, fun h => h.trans (List.prefix_append s w)⟩
  induction word generalizing s with
  | nil => exact List.nil_prefix
  | cons c word ih =>
    obtain ⟨more, hmore⟩ := h
    rw [List.any_cons, Bool.or_eq_false_iff] at hword
    obtain ⟨s', rfl, hs'⟩ := hT.exists_of_cons hw hword.1 hmore.symm
    exact (List.prefix_cons_inj c).mpr (ih hword.2 s' ⟨more, hs'⟩)

/-- What follows fixed visible characters is cut off in the same way. -/
theorem after?_append (hT : IsTail T) (hw : T w) (hword : word.any Text.isSpace = false)
    (s : List Char) : after? word (s ++ w) = (after? word s).map (· ++ w) := by
  have hiff := prefix_append_iff hT hw hword s
  unfold after?
  by_cases h : word <+: s
  · rw [if_pos (List.isPrefixOf_iff_prefix.mpr (hiff.mpr h)),
      if_pos (List.isPrefixOf_iff_prefix.mpr h), List.drop_append_of_le_length h.length_le]
    rfl
  · rw [if_neg (fun hp => h (hiff.mp (List.isPrefixOf_iff_prefix.mp hp))),
      if_neg (fun hp => h (List.isPrefixOf_iff_prefix.mp hp))]
    rfl

end After

/-! ## Comments -/

/-- A comment is over at the end of its line. -/
theorem suffix_of_skipComment? (h : skipComment? ('#' :: t) = some rest) : rest <:+ t := by
  rw [skipComment?] at h
  split at h
  · exact nomatch h
  · exact Option.some.inj h ▸ List.dropWhile_suffix _

/-- What passes a test at the start of a text does so in front of more. -/
theorem mem_takeWhile_append {test : Char → Bool} {c : Char} (hc : c ∈ t.takeWhile test) :
    c ∈ (t ++ w).takeWhile test := by
  rw [List.takeWhile_append]
  split
  · exact List.mem_append_left _ ((List.takeWhile_prefix test).subset hc)
  · exact hc

/-- The rest of a line without control characters, if the line goes on in what is cut off. -/
theorem cut_dropLine (hT : IsTail T) (hw : T w)
    (hline : ∀ c ∈ (t ++ w).takeWhile (· ≠ '\n'), isControl c = false) :
    Cut T ((t ++ w).dropWhile (· ≠ '\n')) (t.dropWhile (· ≠ '\n')) := by
  rw [List.dropWhile_append]
  split
  · rename_i hempty
    rw [List.isEmpty_iff.mp hempty]
    refine cut_nil (hT.dropWhile hw fun c hc => ne_return_of_not_isControl (hline c ?_))
    rw [List.isEmpty_iff, List.dropWhile_eq_nil_iff] at hempty
    rw [List.takeWhile_append_of_pos hempty]
    exact List.mem_append_right t hc
  · exact cut_append hw _

/-- What follows a comment before a cut. -/
theorem skipComment?_append (hT : IsTail T) (hw : T w) (h : skipComment? (t ++ w) = some rest) :
    ∃ rest', Cut T rest rest' ∧ rest' <:+ t ∧ skipComment? t = some rest' := by
  by_cases hcomment : ∃ more, t = '#' :: more
  · obtain ⟨more, rfl⟩ := hcomment
    rw [List.cons_append, skipComment?] at h
    split at h
    · exact nomatch h
    · rename_i hcontrol
      obtain rfl := Option.some.inj h
      rw [Bool.not_eq_true, List.any_eq_false] at hcontrol
      have hline : ∀ c ∈ (more ++ w).takeWhile (· ≠ '\n'), isControl c = false :=
        fun c hc => Bool.not_eq_true _ ▸ hcontrol c hc
      have hshort : (more.takeWhile (· ≠ '\n')).any isControl = false :=
        List.any_eq_false.mpr fun c hc => hcontrol c (mem_takeWhile_append hc)
      refine ⟨more.dropWhile (· ≠ '\n'), cut_dropLine hT hw hline,
        (List.dropWhile_suffix _).trans (List.suffix_cons _ more), ?_⟩
      rw [skipComment?, hshort]
      rfl
  · rw [skipComment?.eq_2 _ fun more heq => ?_] at h
    · obtain rfl := Option.some.inj h
      exact ⟨t, cut_append hw t, List.suffix_refl t,
        skipComment?.eq_2 _ fun more heq => hcomment ⟨more, heq⟩⟩
    · exact hT.not_cons_of_append hw (by decide) hcomment more heq

/-- What follows blanks, line ends and comments before a cut. -/
theorem skipFiller?_append (hT : IsTail T) {fuel : Nat} (hw : T w)
    (h : skipFiller? fuel (t ++ w) = some rest) :
    ∃ rest', Cut T rest rest' ∧ rest' <:+ t ∧
      ∀ n, t.length < rest'.length + n → skipFiller? n t = some rest' := by
  induction fuel generalizing t w with
  | zero => exact nomatch h
  | succ fuel ih =>
    obtain ⟨w', hw', hdrop⟩ := cut_dropFiller hT hw t
    obtain ⟨u, hu⟩ : ∃ u, (t.dropWhile fun c => isBlank c || c == '\n') = u := ⟨_, rfl⟩
    have hsuffix : u <:+ t := hu ▸ List.dropWhile_suffix _
    rw [skipFiller?, hdrop, hu] at h
    by_cases hcomment : ∃ more, u = '#' :: more
    · obtain ⟨more, rfl⟩ := hcomment
      obtain ⟨line, hline, h⟩ := Option.bind_eq_some_iff.mp h
      obtain ⟨line', ⟨w'', hw'', rfl⟩, -, hline'⟩ :=
        skipComment?_append (t := '#' :: more) hT hw' hline
      obtain ⟨rest', hcut, hrest, hall⟩ := ih hw'' h
      have hmore := suffix_of_skipComment? hline'
      have hcons := hsuffix.length_le
      have hlength := hmore.length_le
      have hlength' := hrest.length_le
      rw [List.length_cons] at hcons
      refine ⟨rest', hcut, (hrest.trans hmore).trans ((List.suffix_cons _ more).trans hsuffix),
        fun n hn => ?_⟩
      obtain ⟨m, rfl⟩ : ∃ m, n = m + 1 := ⟨n - 1, by omega⟩
      rw [skipFiller?, hu]
      exact Option.bind_eq_some_iff.mpr ⟨line', hline', hall m (by omega)⟩
    · split at h
      · rename_i heq
        exact (hT.not_cons_of_append hw' (by decide) hcomment _ heq).elim
      · obtain rfl := Option.some.inj h
        have hlength := hsuffix.length_le
        refine ⟨u, cut_append hw' u, hsuffix, fun n hn => ?_⟩
        obtain ⟨m, rfl⟩ : ∃ m, n = m + 1 := ⟨n - 1, by omega⟩
        rw [skipFiller?, hu]
        split
        · exact absurd ⟨_, rfl⟩ hcomment
        · rfl

end Trigger.Toml
