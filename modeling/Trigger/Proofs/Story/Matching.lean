import Trigger.Pattern.Reader
import Trigger.Proofs.Pattern.Runs
import Trigger.Story

/-!
# How the patterns of the story match

The header of the story, the markers that end it and the notes of the author are described without
patterns, and the patterns match where these stand. The pattern of the story captures what follows
the white space behind the header up to the first place that ends the story: a marker, the end of
the text or a line feed in front of it.
-/

namespace Trigger.Story

open Text Pattern

/-! ## Headers, markers and notes -/

/-- White space or nothing. -/
def Blank (s : List Char) : Prop := ∀ c ∈ s, isSpace c = true

/-- A header of the story, with any letter case and any white space. -/
inductive IsHeader : List Char → Prop
  | intro {first gap second gap' : List Char} (hfirst : sameLetters "Recent".toList first = true)
      (hgap : Blank gap) (hsecond : sameLetters "Story".toList second = true)
      (hgap' : Blank gap') : IsHeader (first ++ (gap ++ (second ++ (gap' ++ [':']))))

/-- A marker that ends the story, with any letter case. -/
def IsMarker (m : List Char) : Prop :=
  sameLetters "%@GEN@%".toList m = true ∨ sameLetters "%@COM@%".toList m = true

/-- What an author's note starts with, up to the white space in it. -/
inductive IsOpening : List Char → Prop
  | intro {author : List Char} {apostrophe s : Char}
      (hauthor : sameLetters "[Author".toList author = true)
      (hapostrophe : apostrophe = '\'' ∨ apostrophe = '’') (hs : sameLetter 's' s = true) :
      IsOpening (author ++ [apostrophe, s])

/-- An author's note, which ends with its first closing bracket. -/
inductive IsNote : List Char → Prop
  | intro {opening gap word content : List Char} (hopening : IsOpening opening) (hgap : Blank gap)
      (hword : sameLetters "note:".toList word = true) (hcontent : ']' ∉ content) :
      IsNote (opening ++ (gap ++ (word ++ (content ++ [']']))))

/-- The pattern of an author's note is read from its text. -/
theorem read_noteSource : read noteSource { ignoreCase := true } = .ok notePattern := by
  have hread : (read noteSource { ignoreCase := true }).toOption = some notePattern := by
    decide +kernel
  revert hread
  cases read noteSource { ignoreCase := true } <;> simp [Except.toOption]

/-- The pattern of the story is read from its text. -/
theorem read_storySource : read storySource { ignoreCase := true } = .ok storyPattern := by
  have hread : (read storySource { ignoreCase := true }).toOption = some storyPattern := by
    decide +kernel
  revert hread
  cases read storySource { ignoreCase := true } <;> simp [Except.toOption]

variable {text s t w word : List Char} {pos : Nat} {c d : Char} {after : PatternTree}
variable {rest : MatchRest} {captures : Captures} {r : Nat × Captures}

/-! ## Letters -/

/-- The characters of the patterns that have no letter case. -/
def marks : List Char := "[]'’:%".toList

/-- A mark counts as no other character. -/
theorem sameLetter_mark_iff (hd : d ∈ marks) : sameLetter d c = true ↔ c = d := by
  have hall : (marks.all fun d => isUncased (d.toNat, d.toNat)) = true := by decide +kernel
  rw [sameLetter_comm]
  exact sameLetter_iff_eq (List.all_eq_true.mp hall d hd) (Nat.le_refl _) (Nat.le_refl _)

/-- Texts one behind the other have the letters of two others exactly if each has those of one. -/
theorem sameLetters_append_iff : sameLetters (s ++ t) w = true ↔
    ∃ u v, w = u ++ v ∧ sameLetters s u = true ∧ sameLetters t v = true := by
  induction s generalizing w with
  | nil =>
    constructor
    · exact fun h => ⟨[], w, rfl, rfl, h⟩
    · rintro ⟨_ | ⟨_, _⟩, v, rfl, hu, hv⟩
      · exact hv
      · cases hu
  | cons c s ih =>
    cases w with
    | nil =>
      refine ⟨fun h => (nomatch h), ?_⟩
      rintro ⟨_ | ⟨_, _⟩, v, hw, hu, -⟩
      · cases hu
      · cases hw
    | cons d w =>
      rw [List.cons_append, sameLetters, Bool.and_eq_true, ih]
      constructor
      · rintro ⟨hcd, u, v, rfl, hu, hv⟩
        exact ⟨d :: u, v, rfl, by rw [sameLetters, hcd, hu]; rfl, hv⟩
      · rintro ⟨_ | ⟨d', u⟩, v, hw, hu, hv⟩
        · cases hu
        · obtain ⟨rfl, rfl⟩ := List.cons.inj hw
          rw [sameLetters, Bool.and_eq_true] at hu
          exact ⟨hu.1, u, v, rfl, hu.2, hv⟩

/-- Each character of a text is the same letter as one in the same place. -/
theorem exists_of_sameLetters (h : sameLetters s t = true) (hd : d ∈ t) :
    ∃ c ∈ s, sameLetter c d = true := by
  induction s generalizing t with
  | nil => cases t <;> simp_all [sameLetters]
  | cons c s ih =>
    cases t with
    | nil => cases hd
    | cons e t =>
      rw [sameLetters, Bool.and_eq_true] at h
      rcases List.mem_cons.mp hd with rfl | hd
      · exact ⟨c, List.mem_cons_self, h.1⟩
      · obtain ⟨c', hc', hsame⟩ := ih h.2 hd
        exact ⟨c', List.mem_cons_of_mem c hc', hsame⟩

/-- Where letters are looked for, white space is refused. -/
theorem lettersThen_of_isSpace (hd : isSpace d = false) (hc : text[pos]? = some c)
    (hspace : isSpace c = true) :
    matchTree text.toArray (lettersThen after (d :: word)) rest pos captures = none := by
  cases hmatch : matchTree text.toArray (lettersThen after (d :: word)) rest pos captures with
  | none => rfl
  | some r =>
    obtain ⟨_ | ⟨c', w⟩, hletters, hstands, -⟩ := lettersThen_eq_some_iff.mp hmatch
    · cases hletters
    · rw [Stands.cons_iff, hc, Option.some.injEq] at hstands
      obtain ⟨rfl, -⟩ := hstands
      rw [sameLetters, Bool.and_eq_true] at hletters
      rw [isSpace_of_sameLetter hletters.1 hspace] at hd
      cases hd

/-- The set of white space has the white space. -/
theorem has_spaceSet (c : Char) : spaceSet.has c = isSpace c := by
  simp [spaceSet, CharSet.has, CharSet.hasItem, CharClass.has]

/-- White space and then letters. -/
theorem blanksThen_lettersThen_eq_some_iff (hd : isSpace d = false) :
    matchTree text.toArray (blanksThen (lettersThen after (d :: word))) rest pos captures = some r ↔
      ∃ gap, Stands text pos gap ∧ Blank gap ∧ ∃ w, sameLetters (d :: word) w = true ∧
        Stands text (pos + gap.length) w ∧
          matchTree text.toArray after rest (pos + gap.length + w.length) captures = some r := by
  have hrefused (q : Nat) (c : Char) (hc : c ∈ text[q]?) (hspace : spaceSet.has c = true) :
      matchTree text.toArray (lettersThen after (d :: word)) rest q captures = none :=
    lettersThen_of_isSpace hd hc (has_spaceSet c ▸ hspace)
  rw [blanksThen, matchTree_seq, greedy_eq_some_iff hrefused]
  simp only [has_spaceSet, lettersThen_eq_some_iff]
  exact Iff.rfl

/-! ## The header -/

/-- A header is matched where it stands. -/
theorem headerThen_eq_some_iff :
    matchTree text.toArray (headerThen after) rest pos captures = some r ↔
      ∃ h, IsHeader h ∧ Stands text pos h ∧
        matchTree text.toArray after rest (pos + h.length) captures = some r := by
  have hcolon (w : List Char) : sameLetters [':'] w = true ↔ w = [':'] := by
    obtain _ | ⟨d, _ | ⟨e, w⟩⟩ := w
    · simp [sameLetters]
    · have hsame : sameLetter ':' d = true ↔ d = ':' := sameLetter_mark_iff (by decide)
      simpa [sameLetters] using hsame
    · simp [sameLetters]
  simp only [headerThen]
  rw [lettersThen_eq_some_iff]
  simp only [show "Story".toList = 'S' :: "tory".toList from rfl,
    blanksThen_lettersThen_eq_some_iff (d := 'S') (by decide),
    blanksThen_lettersThen_eq_some_iff (d := ':') (by decide), hcolon]
  constructor
  · rintro ⟨first, hfirst, hat, gap, hat', hgap, second, hsecond, hat'', gap', hat''', hgap', _,
      rfl, hend, h⟩
    refine ⟨_, .intro hfirst hgap hsecond hgap', ?_, ?_⟩
    · simp only [Stands.append_iff]
      exact ⟨hat, hat', hat'', hat''', hend⟩
    · simpa only [List.length_append, ← Nat.add_assoc] using h
  · rintro ⟨_, ⟨hfirst, hgap, hsecond, hgap'⟩, hstands, h⟩
    simp only [Stands.append_iff] at hstands
    obtain ⟨hat, hat', hat'', hat''', hend⟩ := hstands
    refine ⟨_, hfirst, hat, _, hat', hgap, _, hsecond, hat'', _, hat''', hgap', _, rfl, hend, ?_⟩
    simpa only [List.length_append, ← Nat.add_assoc] using h

/-! ## The end of the story -/

/-- The story ends at a position: a marker stands there, or the text ends there or behind one line
feed. -/
def EndsAt (text : List Char) (pos : Nat) : Prop :=
  (∃ m, IsMarker m ∧ Stands text pos m) ∨ pos = text.length ∨
    (text[pos]? = some '\n' ∧ pos + 1 = text.length)

/-- A marker is matched where it stands. -/
theorem markerTree_eq_some_iff {kind : String} :
    matchTree text.toArray (markerTree kind) rest pos captures = some r ↔
      ∃ m, sameLetters ("%@".toList ++ kind.toList ++ ['@'] ++ ['%']) m = true ∧
        Stands text pos m ∧ rest (pos + m.length) captures = some r := by
  simp only [markerTree, lettersThen_eq_some_iff, one_eq_some_iff, CharSet.has_single_folded]
  constructor
  · rintro ⟨w, hletters, hat, c, hc, hlast, h⟩
    refine ⟨w ++ [c], sameLetters_append_iff.mpr ⟨w, [c], rfl, hletters, ?_⟩, ?_, ?_⟩
    · rw [sameLetters, hlast]
      rfl
    · exact Stands.append_iff.mpr ⟨hat, Stands.cons_iff.mpr ⟨hc, .nil _ _⟩⟩
    · rwa [List.length_append, ← Nat.add_assoc]
  · rintro ⟨m, hletters, hat, h⟩
    obtain ⟨w, last, rfl, hw, hlast⟩ := sameLetters_append_iff.mp hletters
    obtain _ | ⟨c, _ | ⟨d, last⟩⟩ := last
    · cases hlast
    · rw [sameLetters, Bool.and_eq_true] at hlast
      obtain ⟨hat, hlastAt⟩ := Stands.append_iff.mp hat
      obtain ⟨hc, -⟩ := Stands.cons_iff.mp hlastAt
      rw [List.length_append, ← Nat.add_assoc] at h
      exact ⟨w, hw, hat, c, hc, hlast.1, h⟩
    · simp [sameLetters] at hlast

/-- Of two alternatives, the second one is matched only where the first one is not. -/
theorem alt_eq_some_iff {a b : PatternTree} :
    matchTree text.toArray (.alt a b) rest pos captures = some r ↔
      matchTree text.toArray a rest pos captures = some r ∨
        (matchTree text.toArray a rest pos captures = none ∧
          matchTree text.toArray b rest pos captures = some r) := by
  rw [matchTree]
  cases matchTree text.toArray a rest pos captures <;> simp

/-- The end of the text, or the place in front of a line feed that ends it. -/
theorem holds_lineEnd_iff : Anchor.holds text.toArray pos (.lineEnd false) = true ↔
    pos = text.length ∨ (text[pos]? = some '\n' ∧ pos + 1 = text.length) := by
  simp [Anchor.holds]

/-- Where the end of the story is matched, the story ends. -/
theorem endsAt_of_storyEnd (h : matchTree text.toArray storyEnd rest pos captures = some r) :
    EndsAt text pos := by
  rw [storyEnd, alt_eq_some_iff, alt_eq_some_iff, markerTree_eq_some_iff,
    markerTree_eq_some_iff] at h
  rcases h with ⟨m, hm, hat, -⟩ | ⟨-, ⟨m, hm, hat, -⟩ | ⟨-, h⟩⟩
  · exact .inl ⟨m, .inl hm, hat⟩
  · exact .inl ⟨m, .inr hm, hat⟩
  · rw [matchTree] at h
    split at h
    case isTrue hholds => exact .inr (holds_lineEnd_iff.mp hholds)
    case isFalse => cases h

/-- Where the story ends, its end is matched without a capture. -/
theorem storyEnd_of_endsAt (h : EndsAt text pos) (captures : Captures) :
    ∃ p, matchTree text.toArray storyEnd (fun p c => some (p, c)) pos captures =
      some (p, captures) := by
  have hmarker {kind : String} {r : Nat × Captures}
      (hr : matchTree text.toArray (markerTree kind) (fun p c => some (p, c)) pos captures = some r) :
      r.2 = captures := by
    obtain ⟨m, -, -, h⟩ := markerTree_eq_some_iff.mp hr
    exact (congrArg Prod.snd (Option.some.inj h)).symm
  simp only [storyEnd, matchTree]
  cases hgen : matchTree text.toArray (markerTree "GEN") (fun p c => some (p, c)) pos captures with
  | some r => exact ⟨r.1, congrArg some (Prod.ext rfl (hmarker hgen))⟩
  | none =>
    cases hcom : matchTree text.toArray (markerTree "COM") (fun p c => some (p, c)) pos captures with
    | some r => exact ⟨r.1, congrArg some (Prod.ext rfl (hmarker hcom))⟩
    | none =>
      have hholds : Anchor.holds text.toArray pos (.lineEnd false) = true := by
        rw [holds_lineEnd_iff]
        refine h.resolve_left ?_
        rintro ⟨m, hm | hm, hat⟩
        · have hfound := hgen.symm.trans (markerTree_eq_some_iff.mpr ⟨m, hm, hat, rfl⟩)
          cases hfound
        · have hfound := hcom.symm.trans (markerTree_eq_some_iff.mpr ⟨m, hm, hat, rfl⟩)
          cases hfound
      exact ⟨pos, if_pos hholds⟩

/-- Looking ahead to the end of the story refuses every other position. -/
theorem ahead_storyEnd_of_not_endsAt (h : ¬EndsAt text pos) :
    matchTree text.toArray (.ahead false storyEnd) rest pos captures = none := by
  rw [matchTree]
  cases hend : matchTree text.toArray storyEnd (fun p c => some (p, c)) pos captures with
  | none => rfl
  | some r => exact absurd (endsAt_of_storyEnd hend) h

/-- Looking ahead to the end of the story goes on where it ends. -/
theorem ahead_storyEnd_of_endsAt (h : EndsAt text pos) :
    matchTree text.toArray (.ahead false storyEnd) rest pos captures = rest pos captures := by
  obtain ⟨p, hp⟩ := storyEnd_of_endsAt h captures
  rw [matchTree, hp]
  rfl

/-! ## The story -/

/-- Where the pattern of the story matches, a header stands. -/
theorem exists_header_of_matchAt? {m : Found}
    (h : storyPattern.matchAt? text.toArray false pos = some m) :
    ∃ header, IsHeader header ∧ Stands text pos header := by
  obtain ⟨r, hr, -⟩ := Option.map_eq_some_iff.mp h
  obtain ⟨header, hheader, hstands, -⟩ := headerThen_eq_some_iff.mp hr
  exact ⟨header, hheader, hstands⟩

/-- Behind a header and the white space behind it, the pattern of the story captures what stands in
front of the first place that ends the story. -/
theorem matchAt?_storyPattern {header gap story : List Char} (hheader : IsHeader header)
    (hat : Stands text pos header) (hgapAt : Stands text (pos + header.length) gap)
    (hgap : Blank gap) (hstart : ∀ c ∈ text[pos + header.length + gap.length]?, isSpace c = false)
    (hstory : Stands text (pos + header.length + gap.length) story)
    (hbefore : ∀ i < story.length, ¬EndsAt text (pos + header.length + gap.length + i))
    (hend : EndsAt text (pos + header.length + gap.length + story.length)) :
    storyPattern.matchAt? text.toArray false pos =
      some ⟨pos, pos + header.length + gap.length + story.length,
        [(1, pos + header.length + gap.length,
          pos + header.length + gap.length + story.length)]⟩ := by
  have hany (c : Char) : anySet.has c = true := by
    cases h : isSpace c <;> simp [anySet, CharSet.has, CharSet.hasItem, CharClass.has, h]
  refine Option.map_eq_some_iff.mpr ⟨(_, [(1, _, _)]), ?_, rfl⟩
  refine headerThen_eq_some_iff.mpr ⟨header, hheader, hat, ?_⟩
  rw [blanksThen, matchTree_seq]
  refine greedy_eq_some hgapAt (fun c hc => (has_spaceSet c).trans (hgap c hc))
    (fun c hc => (has_spaceSet c).trans (hstart c hc)) ?_
  rw [matchTree_seq, matchTree]
  refine reluctant_eq_some hstory (fun c _ => hany c)
    (fun i hi => ahead_storyEnd_of_not_endsAt (hbefore i hi)) ?_
  rw [ahead_storyEnd_of_endsAt hend]
  rfl

/-! ## Notes -/

/-- A character is an apostrophe if it is one of the two. -/
theorem has_apostrophes (c : Char) : apostrophes.has c = true ↔ c = '\'' ∨ c = '’' := by
  have hstraight : sameLetter '\'' c = true ↔ c = '\'' := sameLetter_mark_iff (by decide)
  have hcurly : sameLetter '’' c = true ↔ c = '’' := sameLetter_mark_iff (by decide)
  have hhas : apostrophes.has c =
      ((CharSet.single .folded '\'').has c || (CharSet.single .folded '’').has c) := by
    simp [apostrophes, CharSet.single, CharSet.has, CharSet.hasItem]
  rw [hhas, CharSet.has_single_folded, CharSet.has_single_folded, Bool.or_eq_true, hstraight, hcurly]

/-- A closing bracket is matched by itself only. -/
theorem has_closing (c : Char) : (CharSet.single .folded ']').has c = true ↔ c = ']' := by
  rw [CharSet.has_single_folded]
  exact sameLetter_mark_iff (by decide)

/-- Within a note there are all characters but the closing bracket. -/
theorem has_notClosing (c : Char) : notClosing.has c = true ↔ c ≠ ']' := by
  have hhas : notClosing.has c = !(CharSet.single .folded ']').has c := by
    simp [notClosing, CharSet.single, CharSet.has, CharSet.hasItem]
  rw [hhas, Bool.not_eq_true', ← Bool.not_eq_true, has_closing]

/-- The end of a note is matched up to the first closing bracket. -/
theorem noteEnd_eq_some_iff :
    matchTree text.toArray (.seq (.run notClosing 0 none .greedy) (.one (.single .folded ']'))) rest
        pos captures = some r ↔
      ∃ content, ']' ∉ content ∧ Stands text pos (content ++ [']']) ∧
        rest (pos + (content ++ [']']).length) captures = some r := by
  have hone (q : Nat) (captures : Captures) (r : Nat × Captures) :
      matchTree text.toArray (.one (.single .folded ']')) rest q captures = some r ↔
        text[q]? = some ']' ∧ rest (q + 1) captures = some r := by
    simp only [one_eq_some_iff, has_closing]
    constructor
    · rintro ⟨_, hc, rfl, h⟩
      exact ⟨hc, h⟩
    · rintro ⟨hc, h⟩
      exact ⟨_, hc, rfl, h⟩
  have hrefused (q : Nat) (c : Char) (hc : c ∈ text[q]?) (hhas : notClosing.has c = true) :
      matchTree text.toArray (.one (.single .folded ']')) rest q captures = none := by
    cases h : matchTree text.toArray (.one (.single .folded ']')) rest q captures with
    | none => rfl
    | some r =>
      obtain ⟨hclosing, -⟩ := (hone _ _ _).mp h
      exact absurd (Option.some.inj (hc.symm.trans hclosing)) ((has_notClosing c).mp hhas)
  have hcontent (content : List Char) :
      (∀ c ∈ content, notClosing.has c = true) ↔ ']' ∉ content := by
    simp only [has_notClosing]
    exact ⟨fun h hmem => h _ hmem rfl, fun h c hc heq => h (heq ▸ hc)⟩
  rw [matchTree_seq, greedy_eq_some_iff hrefused]
  simp only [hone, hcontent, Stands.append_iff, Stands.cons_iff, Stands.nil, and_true,
    List.length_append, List.length_singleton, ← Nat.add_assoc]
  refine exists_congr fun content => ⟨?_, ?_⟩
  · rintro ⟨hat, h, hclosing, hr⟩
    exact ⟨h, ⟨hat, hclosing⟩, hr⟩
  · rintro ⟨h, ⟨hat, hclosing⟩, hr⟩
    exact ⟨hat, h, hclosing, hr⟩

/-- The opening of a note is matched where it stands. -/
theorem opening_eq_some_iff :
    matchTree text.toArray (lettersThen (.seq (.one apostrophes) (lettersThen after ['s']))
        "[Author".toList) rest pos captures = some r ↔
      ∃ opening, IsOpening opening ∧ Stands text pos opening ∧
        matchTree text.toArray after rest (pos + opening.length) captures = some r := by
  have hseq (q : Nat) : matchTree text.toArray (.seq (.one apostrophes) (lettersThen after ['s']))
      rest q captures = some r ↔ ∃ c, text[q]? = some c ∧ (c = '\'' ∨ c = '’') ∧
        ∃ w, sameLetters ['s'] w = true ∧ Stands text (q + 1) w ∧
          matchTree text.toArray after rest (q + 1 + w.length) captures = some r := by
    rw [matchTree_seq, one_eq_some_iff]
    simp only [has_apostrophes, lettersThen_eq_some_iff]
  simp only [lettersThen_eq_some_iff, hseq]
  constructor
  · rintro ⟨author, hauthor, hat, c, hc, hapostrophe, w, hw, hwAt, h⟩
    obtain _ | ⟨s, _ | ⟨d, w⟩⟩ := w
    · cases hw
    · rw [sameLetters, Bool.and_eq_true] at hw
      refine ⟨_, .intro hauthor hapostrophe hw.1, ?_, ?_⟩
      · exact Stands.append_iff.mpr ⟨hat, Stands.cons_iff.mpr ⟨hc, hwAt⟩⟩
      · simpa only [List.length_append, List.length_cons, List.length_nil, Nat.zero_add,
        ← Nat.add_assoc] using h
    · simp [sameLetters] at hw
  · rintro ⟨_, ⟨hauthor, hapostrophe, hs⟩, hat, h⟩
    obtain ⟨hat, hrest⟩ := Stands.append_iff.mp hat
    obtain ⟨hc, hwAt⟩ := Stands.cons_iff.mp hrest
    refine ⟨_, hauthor, hat, _, hc, hapostrophe, _, ?_, hwAt, ?_⟩
    · rw [sameLetters, hs]
      rfl
    · simpa only [List.length_append, List.length_cons, List.length_nil, Nat.zero_add,
        ← Nat.add_assoc] using h

/-- The pattern of an author's note matches where one stands. -/
theorem matchAt?_notePattern_eq_some_iff {m : Found} :
    notePattern.matchAt? text.toArray false pos = some m ↔
      ∃ n, IsNote n ∧ Stands text pos n ∧ m = ⟨pos, pos + n.length, []⟩ := by
  rw [matchAt?, Option.map_eq_some_iff]
  simp only [notePattern, opening_eq_some_iff,
    show "note:".toList = 'n' :: "ote:".toList from rfl,
    blanksThen_lettersThen_eq_some_iff (d := 'n') (by decide), noteEnd_eq_some_iff]
  constructor
  · rintro ⟨⟨stop, captures⟩, ⟨opening, hopening, hat, gap, hat', hgap, word, hword, hat'', content,
      hcontent, hend, h⟩, rfl⟩
    refine ⟨_, .intro hopening hgap hword hcontent, ?_, ?_⟩
    · simp only [Stands.append_iff] at hend ⊢
      exact ⟨hat, hat', hat'', hend⟩
    · obtain ⟨rfl, rfl⟩ := Prod.mk.inj (Option.some.inj h)
      simp only [List.length_append, ← Nat.add_assoc]
  · rintro ⟨_, ⟨hopening, hgap, hword, hcontent⟩, hat, rfl⟩
    rw [Stands.append_iff, Stands.append_iff, Stands.append_iff] at hat
    obtain ⟨hat, hat', hat'', hend⟩ := hat
    refine ⟨_, ⟨_, hopening, hat, _, hat', hgap, _, hword, hat'', _, hcontent, hend, rfl⟩, ?_⟩
    simp only [List.length_append, ← Nat.add_assoc]

end Trigger.Story
