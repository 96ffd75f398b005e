import Trigger.Proofs.Story.Extract

/-!
# Notes that survive

Stripping goes through a text once, so it does not see a note that only comes about when others are
removed. A note survives exactly where removing notes joins the opening of a note to the rest of
one: the blank that is left of a removed note is white space in the note that comes about. Where
nothing is joined in this way, no note is left, and stripping once more changes nothing.
-/

namespace Trigger.Story

open Text Pattern

/-- Between the kept opening of a note and the kept rest of one there are notes that are removed,
and of the text itself nothing but white space. -/
def JoinsNote (parts : List Part) : Prop :=
  ∃ front opening gap word back,
    parts = front ++ (opening.map .kept ++ (gap ++ (word.map .kept ++ back))) ∧
      IsOpening opening ∧ (∀ p ∈ gap, isSpace p.shown = true) ∧ (∃ n, .note n ∈ gap) ∧
      sameLetters "note:".toList word = true ∧ .kept ']' ∈ back

variable {t : List Char} {parts gap : List Part}

/-- White space among whose parts is no note is kept. -/
theorem eq_kept_of_no_note (h : ∀ n, .note n ∉ gap) : gap = (gap.map Part.shown).map .kept := by
  induction gap with
  | nil => rfl
  | cons p gap ih =>
    rw [List.map_cons, List.map_cons, ← ih fun n hn => h n (List.mem_cons_of_mem p hn)]
    cases p with
    | kept c => rfl
    | note n => exact absurd List.mem_cons_self (h n)

/-- An opening, white space, the word behind it and a closing bracket somewhere make up a note. -/
theorem exists_note_prefix {opening gap word rest : List Char} (hopening : IsOpening opening)
    (hgap : Blank gap) (hword : sameLetters "note:".toList word = true) (hrest : ']' ∈ rest) :
    ∃ n, IsNote n ∧ n <+: opening ++ (gap ++ (word ++ rest)) := by
  obtain ⟨content, after, rfl, hcontent⟩ := List.eq_append_cons_of_mem hrest
  refine ⟨_, .intro hopening hgap hword hcontent, after, ?_⟩
  simp only [List.append_assoc, List.singleton_append]

/-- Where a note is joined, one stands in the stripped text. -/
theorem hasNote_of_joinsNote (h : JoinsNote parts) : HasNote (parts.map Part.shown) := by
  obtain ⟨front, opening, gap, word, back, rfl, hopening, hgap, -, hword, hclose⟩ := h
  have hshown (s : List Char) : (s.map Part.kept).map Part.shown = s := by
    rw [List.map_map]
    exact List.map_id s
  have hblank : Blank (gap.map Part.shown) := List.forall_mem_map.mpr hgap
  have hclosing : ']' ∈ back.map Part.shown := List.mem_map.mpr ⟨_, hclose, rfl⟩
  obtain ⟨n, hn, hprefix⟩ := exists_note_prefix hopening hblank hword hclosing
  refine ⟨n, hn, hprefix.isInfix.trans ⟨front.map Part.shown, [], ?_⟩⟩
  simp only [List.map_append, hshown, List.append_nil]

/-- A note in the stripped text was joined. If no note had been removed between its opening and its
word, it would stand in the text, since a closing bracket that is left behind the word was kept. -/
theorem joinsNote_of_hasNote (h : Parted t parts) (hnote : HasNote (parts.map Part.shown)) :
    JoinsNote parts := by
  obtain ⟨_, @⟨opening, gap, word, content, hopening, hgap, hword, -⟩, front, back, hsplit⟩ := hnote
  simp only [List.append_assoc] at hsplit
  obtain ⟨front', others, rfl, -, hnote⟩ := List.map_eq_append_iff.mp hsplit.symm
  obtain ⟨opening', others, rfl, hkept, hbehind⟩ := List.map_eq_append_iff.mp hnote
  obtain ⟨gap', others, rfl, rfl, hrest⟩ := List.map_eq_append_iff.mp hbehind
  obtain ⟨word', back', rfl, hkept', hback⟩ := List.map_eq_append_iff.mp hrest
  have hword_not : ∀ c ∈ word, isSpace c = false := not_isSpace_of_sameLetters hword (by decide)
  obtain rfl := eq_kept_of_map_shown hopening.not_isSpace hkept
  obtain rfl := eq_kept_of_map_shown hword_not hkept'
  have hclose : .kept ']' ∈ back' := by
    have hmem : ']' ∈ back'.map Part.shown := by simp [hback]
    obtain ⟨p, hp, hshown⟩ := List.mem_map.mp hmem
    cases p with
    | kept c => exact (show c = ']' from hshown) ▸ hp
    | note n => exact absurd hshown (show ' ' ≠ ']' by decide)
  refine ⟨front', opening, gap', word, back', rfl, hopening, List.forall_mem_map.mp hgap, ?_, hword,
    hclose⟩
  by_contra hnone
  -- then the opening stands in the text with white space and the word behind it
  have hread := h.of_append
  rw [eq_kept_of_no_note fun n hn => hnone ⟨n, hn⟩] at hread
  simp only [List.flatMap_append, flatMap_text_kept] at hread
  have hmem : ']' ∈ back'.flatMap Part.text :=
    List.mem_flatMap.mpr ⟨.kept ']', hclose, List.mem_singleton_self _⟩
  obtain ⟨n, hn, hprefix⟩ := exists_note_prefix hopening hgap hword hmem
  obtain ⟨s, rfl⟩ := hopening.exists_cons
  exact hread.not_prefix hn hprefix

/-- A note stands in a stripped text exactly if one was joined. -/
theorem hasNote_stripNotes_iff (h : Parted t parts) : HasNote (stripNotes t) ↔ JoinsNote parts := by
  rw [stripNotes_eq h]
  exact ⟨joinsNote_of_hasNote h, hasNote_of_joinsNote⟩

/-- A note is left in a stripped text exactly if removing notes joined one, and exactly then
stripping once more changes the text. The same holds for the story in a context. -/
theorem note_survives_iff (t : List Char) :
    ∃ parts, Parted t parts ∧ stripNotes t = parts.map Part.shown ∧
      (notePattern.occursIn (stripNotes t).toArray = true ↔ JoinsNote parts) ∧
      (stripNotes (stripNotes t) = stripNotes t ↔ ¬JoinsNote parts) ∧
      ∀ text before header after, Extract text before header t after →
        (notePattern.occursIn (recent text).toArray = true ↔ JoinsNote parts) ∧
        (stripNotes (recent text) = recent text ↔ ¬JoinsNote parts) := by
  obtain ⟨parts, hparts⟩ := exists_parted t
  have hstripped := hasNote_stripNotes_iff hparts
  refine ⟨parts, hparts, stripNotes_eq hparts, occursIn_notePattern_iff.trans hstripped,
    stripNotes_eq_self_iff.trans (not_congr hstripped), fun text before header after h => ?_⟩
  have hrecent : HasNote (recent text) ↔ JoinsNote parts := by
    rw [h.recent_eq, hasNote_trim_iff, hstripped]
  exact ⟨occursIn_notePattern_iff.trans hrecent, stripNotes_eq_self_iff.trans (not_congr hrecent)⟩

/-- The note in another note is removed, and the blank that is left joins what stands around it. -/
theorem nested_note_survives :
    let t := "[Author's[Author's note:x]note: y]".toList
    stripNotes t = "[Author's note: y]".toList ∧
      notePattern.occursIn (stripNotes t).toArray = true ∧
      stripNotes (stripNotes t) = " ".toList ∧
      recent ("Recent Story:".toList ++ t) = "[Author's note: y]".toList := by
  decide +kernel

/-- A note is joined where one stands in another, and is left in the story as well. -/
theorem note_survives_iff_of_nested_note :
    let t := "[Author's[Author's note:x]note: y]".toList
    ∃ parts, Parted t parts ∧ JoinsNote parts ∧
      Extract ("Recent Story:".toList ++ t) [] "Recent Story:".toList t [] ∧
      notePattern.occursIn (recent ("Recent Story:".toList ++ t)).toArray = true := by
  intro t
  have hcomputed : sameLetters "Recent".toList "Recent".toList = true ∧
      sameLetters "Story".toList "Story".toList = true ∧
      notePattern.occursIn (stripNotes t).toArray = true := by decide +kernel
  obtain ⟨hrecent, hstory, hfound⟩ := hcomputed
  have hextract : Extract ("Recent Story:".toList ++ t) [] "Recent Story:".toList t [] := by
    refine ⟨rfl, ?_, fun _ _ _ _ _ => Nat.zero_le _, .inl rfl, fun p m r hsplit hm => ?_⟩
    · exact @IsHeader.intro "Recent".toList " ".toList "Story".toList [] hrecent
        (List.all_eq_true.mp (by decide)) hstory (List.forall_mem_nil _)
    · obtain ⟨s, rfl⟩ := hm.exists_cons
      rw [List.append_assoc] at hsplit
      exact length_le_of_not_mem hsplit (by decide)
  obtain ⟨parts, hparts, -, hsurvives, -, hsame⟩ := note_survives_iff t
  have hjoins := hsurvives.mp hfound
  exact ⟨parts, hparts, hjoins, hextract, (hsame _ _ _ _ hextract).1.mpr hjoins⟩

end Trigger.Story
