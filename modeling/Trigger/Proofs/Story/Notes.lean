import Mathlib.Data.List.TakeWhile
import Trigger.Proofs.Story.Matching
import Trigger.Proofs.Text.Trim

/-!
# Notes that are removed

A text is read from the left into parts. Where a note stands it is taken as a whole, and everywhere
else the next character is a part of its own. Stripping leaves one character of each part: a kept
character is left as it is, and of a note a blank is left. A note starts with an opening bracket and
ends with a closing one, so white space around a text does not change which notes are removed.
-/

namespace Trigger.Story

open Text Pattern

/-- A part of a text: a character that is kept, or a note that is removed. -/
inductive Part where
  | kept (c : Char)
  | note (n : List Char)

namespace Part

/-- The text of a part. -/
def text : Part → List Char
  | kept c => [c]
  | note n => n

/-- The character that is left of a part. -/
def shown : Part → Char
  | kept c => c
  | note _ => ' '

end Part

/-- A text as it is read from the left: a note where one stands, and the next character elsewhere. -/
inductive Parted : List Char → List Part → Prop
  | nil : Parted [] []
  | kept {c : Char} {s : List Char} {parts : List Part} (hnone : ∀ n, IsNote n → ¬n <+: c :: s)
      (h : Parted s parts) : Parted (c :: s) (.kept c :: parts)
  | note {n s : List Char} {parts : List Part} (hnote : IsNote n) (h : Parted s parts) :
      Parted (n ++ s) (.note n :: parts)

/-- A note stands somewhere in a text. -/
def HasNote (s : List Char) : Prop := ∃ n, IsNote n ∧ n <:+: s

variable {n s t w : List Char} {parts : List Part} {c : Char}

/-! ## The shape of notes -/

/-- Letters are no white space. -/
theorem not_isSpace_of_sameLetters (h : sameLetters s t = true)
    (hs : (s.all fun c => !isSpace c) = true) : ∀ d ∈ t, isSpace d = false := by
  intro d hd
  obtain ⟨c, hc, hsame⟩ := exists_of_sameLetters h hd
  have hc' : isSpace c = false := by simpa using List.all_eq_true.mp hs c hc
  rw [← Bool.not_eq_true]
  intro hspace
  rw [isSpace_of_sameLetter hsame hspace] at hc'
  cases hc'

/-- An opening starts with a bracket. -/
theorem IsOpening.exists_cons {opening : List Char} (h : IsOpening opening) :
    ∃ s, opening = '[' :: s := by
  obtain @⟨author, apostrophe, s, hauthor, -, -⟩ := h
  obtain _ | ⟨c, author⟩ := author
  · cases hauthor
  · have hauthor' : (sameLetter '[' c && sameLetters "Author".toList author) = true := hauthor
    rw [Bool.and_eq_true, sameLetter_mark_iff (by decide)] at hauthor'
    obtain ⟨rfl, -⟩ := hauthor'
    exact ⟨_, rfl⟩

/-- An opening has no white space in it. -/
theorem IsOpening.not_isSpace {opening : List Char} (h : IsOpening opening) :
    ∀ c ∈ opening, isSpace c = false := by
  obtain @⟨author, apostrophe, s, hauthor, hapostrophe, hs⟩ := h
  have hletter : sameLetters ['s'] [s] = true := by
    rw [sameLetters, hs]
    rfl
  intro c hc
  rcases List.mem_append.mp hc with hc | hc
  · exact not_isSpace_of_sameLetters hauthor (by decide) c hc
  · rcases List.mem_cons.mp hc with rfl | hc
    · rcases hapostrophe with rfl | rfl <;> decide
    · exact not_isSpace_of_sameLetters hletter (by decide) c hc

/-- A note starts with an opening bracket. -/
theorem IsNote.exists_cons (h : IsNote n) : ∃ s, n = '[' :: s := by
  obtain ⟨hopening, -, -, -⟩ := h
  obtain ⟨s, rfl⟩ := hopening.exists_cons
  exact ⟨_, List.cons_append⟩

/-- A note ends with a closing bracket. -/
theorem IsNote.exists_concat (h : IsNote n) : ∃ s, n = s ++ [']'] := by
  obtain @⟨opening, gap, word, content, -, -, -, -⟩ := h
  exact ⟨opening ++ (gap ++ (word ++ content)), by simp only [List.append_assoc]⟩

/-- A note has more than one character. -/
theorem IsNote.one_lt_length (h : IsNote n) : 1 < n.length := by
  obtain ⟨s, rfl⟩ := h.exists_cons
  obtain ⟨t, ht⟩ := h.exists_concat
  obtain _ | ⟨d, s⟩ := s
  · obtain _ | ⟨e, t⟩ := t <;> simp at ht
  · simp

/-! ## Reading a text into parts -/

/-- Every text can be read into parts. -/
theorem exists_parted (t : List Char) : ∃ parts, Parted t parts := by
  induction hlength : t.length using Nat.strongRecOn generalizing t with
  | ind k ih =>
    subst hlength
    obtain _ | ⟨c, s⟩ := t
    · exact ⟨[], .nil⟩
    by_cases hnote : ∃ n, IsNote n ∧ n <+: c :: s
    · obtain ⟨n, hn, s', hs'⟩ := hnote
      have hshorter : s'.length < (c :: s).length := by
        have hlt := hn.one_lt_length
        rw [← hs', List.length_append]
        omega
      obtain ⟨parts, hparts⟩ := ih _ hshorter s' rfl
      exact ⟨.note n :: parts, hs' ▸ .note hn hparts⟩
    · obtain ⟨parts, hparts⟩ := ih _ (Nat.lt_succ_self s.length) s rfl
      exact ⟨.kept c :: parts, .kept (fun n hn hprefix => hnote ⟨n, hn, hprefix⟩) hparts⟩

/-- The parts make up the text. -/
theorem Parted.flatMap_text (h : Parted t parts) : parts.flatMap Part.text = t := by
  induction h with
  | nil => rfl
  | kept _ _ ih => rw [List.flatMap_cons, ih]; rfl
  | note _ _ ih => rw [List.flatMap_cons, ih]; rfl

/-- What stands behind some of the parts is read into the others. -/
theorem Parted.of_append {front back : List Part} (h : Parted t (front ++ back)) :
    Parted (back.flatMap Part.text) back := by
  induction front generalizing t with
  | nil => exact h.flatMap_text ▸ h
  | cons p front ih =>
    cases h with
    | kept _ h => exact ih h
    | note _ h => exact ih h

/-- Where a kept character comes next, no note stands. -/
theorem Parted.not_prefix (h : Parted t (.kept c :: parts)) (hn : IsNote n) : ¬n <+: t := by
  cases h with
  | kept hnone _ => exact hnone n hn

/-- Kept characters are the text that they make up. -/
theorem flatMap_text_kept (s : List Char) : (s.map Part.kept).flatMap Part.text = s := by
  rw [List.flatMap_map]
  exact List.flatMap_singleton' s

/-- No note stands in a text whose characters are all kept. -/
theorem Parted.not_hasNote (h : Parted s (s.map .kept)) : ¬HasNote s := by
  rintro ⟨n, hn, front, back, rfl⟩
  rw [List.append_assoc, List.map_append] at h
  have hback := h.of_append
  rw [flatMap_text_kept] at hback
  obtain ⟨n', rfl⟩ := hn.exists_cons
  exact hback.not_prefix hn (List.prefix_append _ back)

/-- A text without a note is read into its characters. -/
theorem parted_of_not_hasNote (h : ¬HasNote s) : Parted s (s.map .kept) := by
  induction s with
  | nil => exact .nil
  | cons c s ih =>
    refine .kept (fun n hn hprefix => h ⟨n, hn, hprefix.isInfix⟩) (ih fun ⟨n, hn, hinfix⟩ => h ⟨n, hn, ?_⟩)
    exact hinfix.trans (List.suffix_cons c s).isInfix

/-! ## Stripping -/

/-- A note stands at a position exactly if what follows there starts with it. -/
theorem matchAt?_notePattern_append {before : List Char} {m : Found} :
    notePattern.matchAt? (before ++ t).toArray false before.length = some m ↔
      ∃ n, IsNote n ∧ n <+: t ∧ m = ⟨before.length, before.length + n.length, []⟩ := by
  rw [matchAt?_notePattern_eq_some_iff]
  simp only [Stands, List.drop_left]

/-- Where no note comes next, the pattern of notes does not match. -/
theorem matchAt?_notePattern_eq_none {before : List Char} (h : ∀ n, IsNote n → ¬n <+: t) :
    notePattern.matchAt? (before ++ t).toArray false before.length = none := by
  cases hmatch : notePattern.matchAt? (before ++ t).toArray false before.length with
  | none => rfl
  | some m =>
    obtain ⟨n, hn, hprefix, -⟩ := matchAt?_notePattern_append.mp hmatch
    exact absurd hprefix (h n hn)

/-- From a position on, one character is left of each part. -/
theorem replaceFrom_notePattern (h : Parted t parts) (before : List Char) (fuel : Nat)
    (hfuel : t.length ≤ fuel) :
    replaceFrom [' '] (before ++ t).toArray before.length
      (notePattern.findFrom (before ++ t).toArray fuel before.length false) =
        parts.map Part.shown := by
  induction h generalizing before fuel with
  | nil =>
    have hnone : notePattern.matchAt? (before ++ []).toArray false before.length = none := by
      refine matchAt?_notePattern_eq_none fun n hn hprefix => ?_
      obtain ⟨s, rfl⟩ := hn.exists_cons
      exact absurd (List.prefix_nil.mp hprefix) (List.cons_ne_nil _ s)
    rw [List.append_nil] at hnone ⊢
    exact replaceFrom_of_end hnone
  | @kept c s parts hnone _ ih =>
    have hc : (before ++ c :: s)[before.length]? = some c := by simp
    rw [replaceFrom_of_none (matchAt?_notePattern_eq_none hnone) hc]
    have hrest := ih (before ++ [c]) fuel (Nat.le_of_succ_le hfuel)
    rw [List.append_assoc, List.length_append] at hrest
    exact congrArg (c :: ·) hrest
  | @note n s parts hnote _ ih =>
    have hlt := hnote.one_lt_length
    rw [List.length_append] at hfuel
    obtain ⟨fuel, rfl⟩ := Nat.exists_eq_add_of_lt (show 0 < fuel by omega)
    have hmatch : notePattern.matchAt? (before ++ (n ++ s)).toArray false before.length =
        some ⟨before.length, before.length + n.length, []⟩ :=
      matchAt?_notePattern_append.mpr ⟨n, hnote, List.prefix_append n s, rfl⟩
    rw [Nat.zero_add, replaceFrom_of_match hmatch (by simp) (by dsimp only; omega)]
    have hrest := ih (before ++ n) fuel (by omega)
    rw [List.append_assoc, List.length_append] at hrest
    exact congrArg (' ' :: ·) hrest

/-- Stripping leaves one character of each part of a text. -/
theorem stripNotes_eq (h : Parted t parts) : stripNotes t = parts.map Part.shown := by
  have hfrom := replaceFrom_notePattern h [] (2 * t.length + 2) (by omega)
  simpa [stripNotes, replace, findAll] using hfrom

/-- A text has as many parts as characters only if all of them are kept. -/
theorem Parted.eq_of_length (h : Parted t parts) :
    parts.length ≤ t.length ∧ (parts.length = t.length → parts = t.map .kept) := by
  induction h with
  | nil => exact ⟨Nat.le_refl 0, fun _ => rfl⟩
  | @kept c s parts _ _ ih =>
    refine ⟨Nat.succ_le_succ ih.1, fun hlength => ?_⟩
    rw [List.map_cons, ← ih.2 (Nat.succ_inj.mp hlength)]
  | @note n s parts hnote _ ih =>
    have hlt := hnote.one_lt_length
    rw [List.length_append, List.length_cons]
    exact ⟨by omega, fun hlength => by omega⟩

/-- Stripping changes nothing exactly if no note stands in a text. -/
theorem stripNotes_eq_self_iff : stripNotes s = s ↔ ¬HasNote s := by
  constructor
  · intro h
    obtain ⟨parts, hparts⟩ := exists_parted s
    rw [stripNotes_eq hparts] at h
    have hlength : parts.length = s.length := by rw [← h, List.length_map]
    exact (hparts.eq_of_length.2 hlength ▸ hparts).not_hasNote
  · intro h
    rw [stripNotes_eq (parted_of_not_hasNote h), List.map_map]
    exact List.map_id s

/-- The pattern of an author's note is found exactly in the texts in which a note stands. -/
theorem occursIn_notePattern_iff : notePattern.occursIn s.toArray = true ↔ HasNote s := by
  rw [occursIn]
  constructor
  · intro h
    obtain ⟨m, hm⟩ := Option.isSome_iff_exists.mp h
    rw [searchFrom?, Nat.zero_min] at hm
    obtain ⟨n, hn, hstands, -⟩ := matchAt?_notePattern_eq_some_iff.mp (searchAmong_eq_some hm).2.1
    exact ⟨n, hn, hstands.isInfix.trans (List.drop_suffix m.start s).isInfix⟩
  · rintro ⟨n, hn, before, after, rfl⟩
    rw [← Option.ne_none_iff_isSome]
    intro hnone
    rw [searchFrom?, Nat.zero_min] at hnone
    have hmatch := matchAt?_notePattern_eq_some_iff.mpr ⟨n, hn, .of_split before n after, rfl⟩
    have hwithin : before.length < 0 + ((before ++ n ++ after).toArray.size + 1 - 0) := by
      rw [List.size_toArray, List.length_append, List.length_append]
      omega
    rw [searchAmong_eq_none hnone (Nat.zero_le _) hwithin] at hmatch
    cases hmatch

/-! ## White space around a text -/

/-- White space in front of a text is kept. -/
theorem Parted.blanks_append (h : Parted s parts) (hw : Blank w) :
    Parted (w ++ s) (w.map .kept ++ parts) := by
  induction w with
  | nil => exact h
  | cons c w ih =>
    refine .kept (fun n hn hprefix => ?_) (ih fun d hd => hw d (List.mem_cons_of_mem c hd))
    obtain ⟨n', rfl⟩ := hn.exists_cons
    obtain ⟨rfl, -⟩ := List.cons_prefix_cons.mp hprefix
    exact absurd (hw '[' List.mem_cons_self) (by decide)

/-- White space behind a text is kept. -/
theorem Parted.append_blanks (h : Parted s parts) (hw : Blank w) :
    Parted (s ++ w) (parts ++ w.map .kept) := by
  induction h with
  | nil => simpa using Parted.nil.blanks_append hw
  | @kept c s parts hnone _ ih =>
    refine .kept (fun n hn hprefix => ?_) ih
    -- a note does not end with white space, so it ends in front of it
    rcases List.prefix_or_prefix_of_prefix hprefix (List.prefix_append (c :: s) w) with h | ⟨u, rfl⟩
    · exact hnone n hn h
    · rcases List.eq_nil_or_concat u with rfl | ⟨u, d, rfl⟩
      · exact hnone _ hn (by simp)
      · obtain ⟨v, hv⟩ := hn.exists_concat
        rw [List.concat_eq_append] at hprefix hv
        rw [← List.append_assoc] at hv
        obtain ⟨-, hd⟩ := List.append_inj' hv rfl
        have hmem : ']' ∈ w := by
          rw [← List.singleton_inj.mp hd]
          exact ((List.prefix_append_right_inj _).mp hprefix).subset (by simp)
        exact absurd (hw _ hmem) (by decide)
  | @note n s parts hnote _ ih =>
    rw [List.append_assoc]
    exact .note hnote ih

/-- White space around a text stays around it. -/
theorem stripNotes_blanks (hw : Blank w) (ht : Blank t) :
    stripNotes (w ++ s ++ t) = w ++ stripNotes s ++ t := by
  obtain ⟨parts, hparts⟩ := exists_parted s
  rw [stripNotes_eq ((hparts.blanks_append hw).append_blanks ht), stripNotes_eq hparts]
  simp [Function.comp_def, Part.shown]

/-- White space around a text does not change whether a note stands in it. -/
theorem hasNote_blanks_iff (hw : Blank w) (ht : Blank t) : HasNote (w ++ s ++ t) ↔ HasNote s := by
  rw [← not_iff_not, ← stripNotes_eq_self_iff, ← stripNotes_eq_self_iff, stripNotes_blanks hw ht,
    List.append_left_inj, List.append_right_inj]

/-- Trimming does not change whether a note stands in a text. -/
theorem hasNote_trim_iff : HasNote (trim s) ↔ HasNote s := by
  obtain ⟨w, t, hw, ht, hs⟩ := exists_trim s
  have hiff := hasNote_blanks_iff (s := trim s) hw ht
  rw [← hs] at hiff
  exact hiff.symm

/-! ## What is left of a text -/

/-- What is left without white space in it was kept. -/
theorem eq_kept_of_map_shown (hs : ∀ c ∈ s, isSpace c = false) (h : parts.map Part.shown = s) :
    parts = s.map .kept := by
  induction parts generalizing s with
  | nil =>
    subst h
    rfl
  | cons p parts ih =>
    subst h
    rw [List.map_cons, List.forall_mem_cons] at hs
    cases p with
    | kept c => rw [List.map_cons, List.map_cons, ← ih hs.2 rfl]; rfl
    | note n => exact absurd hs.1 (show isSpace ' ' ≠ false by decide)

/-- What stands in a stripped text without white space in it stands in the text itself. -/
theorem infix_of_infix_stripNotes (hs : ∀ c ∈ s, isSpace c = false) (h : s <:+: stripNotes t) :
    s <:+: t := by
  obtain ⟨parts, hparts⟩ := exists_parted t
  obtain ⟨front, back, hsplit⟩ := h
  rw [stripNotes_eq hparts, eq_comm, List.map_eq_append_iff] at hsplit
  obtain ⟨left, back', rfl, hleft, -⟩ := hsplit
  obtain ⟨front', middle, rfl, -, hmiddle⟩ := List.map_eq_append_iff.mp hleft
  rw [← hparts.flatMap_text, List.flatMap_append, List.flatMap_append,
    eq_kept_of_map_shown hs hmiddle, flatMap_text_kept]
  exact List.infix_append _ _ _

end Trigger.Story
