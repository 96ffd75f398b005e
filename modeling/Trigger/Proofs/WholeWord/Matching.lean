import Trigger.Pattern.WholeWord

/-!
# Where whole words are found

The pattern of a whole word matches at a position exactly where the word stands as a whole word, and
a search for it finds the first such position from a given one on, whatever stands in front of that
position.
-/

namespace Trigger

open Trigger.Text

/-- A letter is in the set of a character exactly when the two are the same letter. -/
theorem CharSet.has_single_folded (c d : Char) :
    (CharSet.single .folded c).has d = sameLetter c d := by
  have hsame : LetterCase.folded.same c.toNat d = sameLetter c d := by
    by_cases h : c.toNat = d.toNat
    · simp [LetterCase.same, sameLetter, caseKey, h]
    · simp [LetterCase.same, sameLetter, caseKey, h]
  simp [CharSet.single, CharSet.has, CharSet.hasItem, hsame]

/-- The set of word characters has the word characters. -/
theorem Pattern.has_wordSet (c : Char) : wordSet.has c = isWord c := by
  simp [wordSet, CharSet.has, CharSet.hasItem, CharClass.has]

namespace Pattern

variable {text term : List Char} {pos : Nat}

/-- A term whose text is not empty has characters. -/
theorem term_ne_nil {s : String} (h : s ≠ "") : s.toList ≠ [] := by simpa using h

/-- Texts with the same letters have the same length. -/
theorem length_eq_of_sameLetters {s t : List Char} (h : sameLetters s t = true) :
    s.length = t.length := by
  induction s generalizing t with
  | nil => cases t <;> simp_all [sameLetters]
  | cons c s ih =>
    cases t with
    | nil => simp [sameLetters] at h
    | cons d t =>
      rw [sameLetters, Bool.and_eq_true] at h
      simp [ih h.2]

/-- What stands in a text as a whole word, as conditions that can be tested. -/
theorem standsAt_iff :
    StandsAt text term pos ↔
      (pos + term.length ≤ text.length ∧
        sameLetters term ((text.drop pos).take term.length) = true) ∧
      ¬(1 ≤ pos ∧ text[pos - 1]?.any isWord = true) ∧
      ¬text[pos + term.length]?.any isWord = true := by
  constructor
  · intro h
    refine ⟨⟨h.inText, h.letters⟩, fun ⟨hpos, hword⟩ => ?_, fun hword => ?_⟩
    · obtain ⟨c, hc, hword⟩ := Option.any_eq_true _ _ |>.mp hword
      exact absurd hword (by simp [h.notBehind c hpos hc])
    · obtain ⟨c, hc, hword⟩ := Option.any_eq_true _ _ |>.mp hword
      exact absurd hword (by simp [h.notAhead c hc])
  · rintro ⟨⟨hinText, hletters⟩, hbehind, hahead⟩
    refine ⟨hinText, hletters, fun c hpos hc => ?_, fun c hc => ?_⟩
    · have hone : 1 ≤ pos := hpos
      simpa [hc, hone] using hbehind
    · simpa [hc] using hahead

instance : DecidablePred (StandsAt text term) := fun _ => decidable_of_iff _ standsAt_iff.symm

/-- Letters that stand in a text end in it. -/
theorem le_length_of_sameLetters (hterm : term ≠ [])
    (h : sameLetters term ((text.drop pos).take term.length) = true) :
    pos + term.length ≤ text.length := by
  have hlength := length_eq_of_sameLetters h
  rw [List.length_take, List.length_drop] at hlength
  have hpositive := List.length_pos_iff.mpr hterm
  omega

/-- Letters are matched one after the other, and then what comes after them. -/
theorem matchTree_lettersThen (text : List Char) (after : PatternTree) (term : List Char)
    (rest : MatchRest) (pos : Nat) (captures : Captures) :
    matchTree text.toArray (lettersThen after term) rest pos captures =
      if sameLetters term ((text.drop pos).take term.length) then
        matchTree text.toArray after rest (pos + term.length) captures
      else none := by
  induction term generalizing pos with
  | nil => simp [lettersThen, sameLetters]
  | cons c term ih =>
    simp only [lettersThen, matchTree, List.getElem?_toArray]
    cases hd : text[pos]? with
    | none =>
      have hdrop : text.drop pos = [] := List.drop_eq_nil_of_le (by simpa using hd)
      simp [hdrop, sameLetters]
    | some d =>
      obtain ⟨hpos, rfl⟩ := List.getElem?_eq_some_iff.mp hd
      rw [List.drop_eq_getElem_cons hpos]
      simp only [CharSet.has_single_folded, ih, List.length_cons, List.take_succ_cons, sameLetters]
      by_cases hc : sameLetter c text[pos] = true
      · simp [hc, Nat.add_comm term.length 1, Nat.add_assoc]
      · simp [hc]

/-- A word character behind a position is refused. -/
theorem matchTree_notBehindWord (rest : MatchRest) (pos : Nat) (captures : Captures) :
    matchTree text.toArray (.behind true 1 (.one wordSet)) rest pos captures =
      if 1 ≤ pos ∧ text[pos - 1]?.any isWord then none else rest pos captures := by
  by_cases hpos : 1 ≤ pos
  · cases hc : text[pos - 1]? with
    | none => simp [matchTree, hpos, hc]
    | some c => by_cases hword : isWord c <;> simp [matchTree, hpos, hc, has_wordSet, hword]
  · simp [matchTree, hpos]

/-- A word character at a position is refused. -/
theorem matchTree_notAheadWord (rest : MatchRest) (pos : Nat) (captures : Captures) :
    matchTree text.toArray (.ahead true (.one wordSet)) rest pos captures =
      if text[pos]?.any isWord then none else rest pos captures := by
  cases hc : text[pos]? with
  | none => simp [matchTree, hc]
  | some c => by_cases hword : isWord c <;> simp [matchTree, hc, has_wordSet, hword]

/-- The pattern of a whole word matches where the word stands, and nowhere else. -/
theorem matchAt?_wholeWord (hterm : term ≠ []) (pos : Nat) :
    (wholeWord term).matchAt? text.toArray false pos =
      if StandsAt text term pos then some ⟨pos, pos + term.length, []⟩ else none := by
  rw [matchAt?, wholeWord, matchTree_seq, matchTree_notBehindWord, matchTree_lettersThen,
    matchTree_notAheadWord]
  simp only [standsAt_iff]
  by_cases hbehind : 1 ≤ pos ∧ text[pos - 1]?.any isWord
  · simp [hbehind]
  by_cases hletters : sameLetters term ((text.drop pos).take term.length)
  · by_cases hahead : text[pos + term.length]?.any isWord <;>
      simp [hbehind, hletters, hahead, le_length_of_sameLetters hterm hletters]
  · simp [hbehind, hletters]

/-! ## Searching -/

section

variable {p : Pattern} {chars : Array Char} {count from' : Nat} {m : Found}

/-- A match starts at the position that was asked for. -/
theorem start_of_matchAt? {nonempty : Bool} (h : p.matchAt? chars nonempty pos = some m) :
    m.start = pos := by
  obtain ⟨_, -, rfl⟩ := Option.map_eq_some_iff.mp h
  rfl

/-- What is found among positions is a match at the first of them that has one. -/
theorem searchAmong_eq_some (h : p.searchAmong chars false count pos = some m) :
    pos ≤ m.start ∧ p.matchAt? chars false m.start = some m ∧
      ∀ q, pos ≤ q → q < m.start → p.matchAt? chars false q = none := by
  induction count generalizing pos with
  | zero => simp [searchAmong] at h
  | succ count ih =>
    rw [searchAmong] at h
    cases hmatch : p.matchAt? chars false pos with
    | some found =>
      simp only [hmatch, Option.some.injEq] at h
      subst h
      obtain rfl := start_of_matchAt? hmatch
      exact ⟨Nat.le_refl _, hmatch, fun q hle hlt => absurd hlt (Nat.not_lt.mpr hle)⟩
    | none =>
      simp only [hmatch] at h
      obtain ⟨hle, hfound, hbefore⟩ := ih h
      refine ⟨Nat.le_of_succ_le hle, hfound, fun q hq hlt => ?_⟩
      rcases Nat.eq_or_lt_of_le hq with rfl | hq
      · exact hmatch
      · exact hbefore q hq hlt

/-- Where nothing is found among positions, none of them has a match. -/
theorem searchAmong_eq_none (h : p.searchAmong chars false count pos = none) {q : Nat}
    (hle : pos ≤ q) (hlt : q < pos + count) : p.matchAt? chars false q = none := by
  induction count generalizing pos with
  | zero => omega
  | succ count ih =>
    rw [searchAmong] at h
    cases hmatch : p.matchAt? chars false pos with
    | some found => simp [hmatch] at h
    | none =>
      simp only [hmatch] at h
      rcases Nat.eq_or_lt_of_le hle with rfl | hle
      · exact hmatch
      · exact ih h hle (by omega)

/-- A match of a whole word is an occurrence of it. -/
theorem standsAt_of_matchAt? (hterm : term ≠ [])
    (h : (wholeWord term).matchAt? text.toArray false pos = some m) :
    StandsAt text term pos ∧ m.stop = pos + term.length := by
  rw [matchAt?_wholeWord hterm] at h
  by_cases hstands : StandsAt text term pos
  · simp only [hstands, if_true, Option.some.injEq] at h
    exact ⟨hstands, h ▸ rfl⟩
  · simp [hstands] at h

/-- No match of a whole word is no occurrence of it. -/
theorem not_standsAt_of_matchAt? (hterm : term ≠ [])
    (h : (wholeWord term).matchAt? text.toArray false pos = none) : ¬StandsAt text term pos := by
  rw [matchAt?_wholeWord hterm] at h
  simpa using h

/-- A search for a whole word finds its first occurrence from a position on. -/
theorem searchFrom?_wholeWord (hterm : term ≠ [])
    (h : (wholeWord term).searchFrom? text.toArray from' = some m) :
    from' ≤ m.start ∧ StandsAt text term m.start ∧ m.stop = m.start + term.length ∧
      ∀ q, from' ≤ q → StandsAt text term q → m.start ≤ q := by
  obtain ⟨hle, hmatch, hbefore⟩ := searchAmong_eq_some h
  obtain ⟨hstands, hstop⟩ := standsAt_of_matchAt? hterm hmatch
  have hpositive := List.length_pos_iff.mpr hterm
  have hinText := hstands.inText
  -- a position behind the end counts as the end, and nothing stands there
  have hfrom : from' ≤ m.start := by
    rw [List.size_toArray] at hle
    omega
  refine ⟨hfrom, hstands, hstop, fun q hq hstandsq => Nat.le_of_not_lt fun hlt => ?_⟩
  refine not_standsAt_of_matchAt? hterm (hbefore q ?_ hlt) hstandsq
  rw [List.size_toArray]
  omega

/-- Where a search for a whole word finds nothing, the word does not stand from there on. -/
theorem searchFrom?_wholeWord_eq_none (hterm : term ≠ [])
    (h : (wholeWord term).searchFrom? text.toArray from' = none) {q : Nat} (hq : from' ≤ q) :
    ¬StandsAt text term q := by
  intro hstands
  have hinText := hstands.inText
  refine not_standsAt_of_matchAt? hterm (searchAmong_eq_none h ?_ ?_) hstands <;>
    rw [List.size_toArray] <;> omega

end

end Pattern

end Trigger
