import Trigger.Proofs.Decimal.Complement
import Trigger.Proofs.EditDistance.BestMatch
import Trigger.Proofs.Text.WordRuns

/-!
# Words at the extreme thresholds

A similarity is at least zero, and it is one only for equal texts: no edits are needed only where
nothing is changed, and there are never more of them than the longer text has characters. For texts
that are not too long the quotient of the two is a number that tells this. Hence a text has a word
that is similar at a threshold of one exactly where it has a token of about the same length with the
same lower case, and at a threshold of zero any token of about the same length will do.
-/

namespace Trigger

namespace Text

/-- A character has a lower case of two characters at most. -/
theorem length_lowerAt_le (before : List Char) (c : Char) (after : List Char) :
    (lowerAt before c after).length ≤ 2 := by
  unfold lowerAt
  split <;> (try split) <;> simp

/-- Text of which each character becomes two at most is not more than twice as long in lower case. -/
theorem length_lowerAfter_le (before s : List Char) :
    (lowerAfter before s).length ≤ 2 * s.length := by
  induction s generalizing before with
  | nil => exact Nat.le_refl 0
  | cons c s ih =>
    have hfirst := length_lowerAt_le before c s
    have hrest := ih (c :: before)
    rw [lowerAfter, List.length_append, List.length_cons]
    omega

end Text

namespace Similarity

variable {a b : List Char}

/-- Texts that are aligned at no cost are equal. -/
theorem Aligned.eq_of_zero (h : Aligned a b 0) : a = b := by
  induction a generalizing b with
  | nil =>
    cases h
    rfl
  | cons c a ih =>
    cases h with
    | keep _ h => rw [ih h]

/-- No edits are needed exactly between equal texts. -/
theorem distance_eq_zero_iff : distance a b = 0 ↔ a = b := by
  constructor
  · intro h
    have haligned := (least_distance a b).aligned
    rw [h] at haligned
    exact haligned.eq_of_zero
  · rintro rfl
    exact if_pos rfl

/-- A similarity is at least zero, and it reaches one exactly for equal texts. -/
theorem similarity_bounds (hlength : max a.length b.length < 2 ^ 54 - 1) :
    0.0 ≤ similarity a b ∧ (1.0 ≤ similarity a b ↔ a = b) := by
  unfold similarity
  dsimp only
  split
  case isTrue hnone =>
    obtain rfl : a = [] := List.length_eq_zero_iff.mp (by omega)
    obtain rfl : b = [] := List.length_eq_zero_iff.mp (by omega)
    exact ⟨by decide, iff_of_true (by decide) rfl⟩
  case isFalse hsome =>
    rw [← distance_eq_zero_iff (a := a) (b := b)]
    exact Decimal.one_sub_div_bounds (Nat.pos_of_ne_zero hsome)
      ((least_distance a b).le (aligned_max a b)) hlength

end Similarity

namespace Builtin

open Similarity

variable {text word run : List Char}

/-- A text has a token that is at most two characters longer or shorter than a word. -/
structure HasCandidate (text word run : List Char) : Prop where
  hasWordRun : HasWordRun text run
  least : max 1 (word.length - 2) ≤ run.length
  greatest : run.length ≤ word.length + 2

/-- The candidates for a word are the tokens that are of about the same length. -/
theorem mem_candidates_iff : run ∈ candidates text word ↔ HasCandidate text word run := by
  rw [candidates, List.mem_filter, mem_tokens_iff, Bool.and_eq_true, decide_eq_true_eq,
    decide_eq_true_eq]
  exact ⟨fun ⟨hrun, hleast, hgreatest⟩ => ⟨hrun, hleast, hgreatest⟩,
    fun h => ⟨h.hasWordRun, h.least, h.greatest⟩⟩

/-- A token is no longer than the text that it stands in. -/
theorem HasCandidate.length_le (h : HasCandidate text word run) : run.length ≤ text.length := by
  obtain ⟨before, after, rfl, -⟩ := h.hasWordRun
  simp only [List.length_append]
  omega

/-- How close a candidate for a word is, where neither the text nor the word is too long. -/
theorem HasCandidate.isClose (h : HasCandidate text word run) (htext : text.length < 2 ^ 53)
    (hword : word.length < 2 ^ 53) :
    isClose run word 0.0 = true ∧
      (isClose run word 1.0 = true ↔ Text.lower run = Text.lower word) := by
  have hrun := Text.length_lowerAfter_le [] run
  have hword' := Text.length_lowerAfter_le [] word
  have hlength := h.length_le
  have hbounds := similarity_bounds (a := Text.lower run) (b := Text.lower word)
    (by unfold Text.lower; omega)
  rw [Similarity.isClose, Similarity.isClose, decide_eq_true_eq, decide_eq_true_eq]
  exact hbounds

/-- At a threshold of one, a text has a word similar to a given one exactly where a token of about
the same length has the same lower case; at a threshold of zero, exactly where there is a token of
about the same length. -/
theorem fuzzy_extremes (settings : BuiltinSettings) (text word : Value)
    (htext : text.textOrEmpty.toList.length < 2 ^ 53)
    (hword : word.textOrEmpty.toList.length < 2 ^ 53) :
    (∃ found : Bool, call settings .fuzzy [text, word, .float 1.0] = pure (.bool found) ∧
      (found = true ↔
        ∃ run, HasCandidate text.textOrEmpty.toList word.textOrEmpty.toList run ∧
          Text.lower run = Text.lower word.textOrEmpty.toList)) ∧
    ∃ found : Bool, call settings .fuzzy [text, word, .float 0.0] = pure (.bool found) ∧
      (found = true ↔
        ∃ run, HasCandidate text.textOrEmpty.toList word.textOrEmpty.toList run) := by
  have hcall (x : Float) : call settings .fuzzy [text, word, .float x] =
      pure (.bool (hasSimilar text.textOrEmpty.toList word.textOrEmpty.toList x)) := by
    rw [call_fuzzy]
    rfl
  have hsimilar (x : Float) : hasSimilar text.textOrEmpty.toList word.textOrEmpty.toList x = true ↔
      ∃ run, HasCandidate text.textOrEmpty.toList word.textOrEmpty.toList run ∧
        isClose run word.textOrEmpty.toList x = true := by
    rw [hasSimilar, List.any_eq_true]
    simp only [mem_candidates_iff]
  refine ⟨⟨_, hcall 1.0, (hsimilar 1.0).trans (exists_congr fun run => ?_)⟩,
    ⟨_, hcall 0.0, (hsimilar 0.0).trans (exists_congr fun run => ?_)⟩⟩
  · exact and_congr_right fun h => (h.isClose htext hword).2
  · exact and_iff_left_of_imp fun h => (h.isClose htext hword).1

/-- A word with one other letter is as similar as it must be at a threshold of zero, but not at one. -/
theorem fuzzy_extremes_for_other_letter :
    "Hallo".toList.length < 2 ^ 53 ∧ "HELLO".toList.length < 2 ^ 53 ∧
      call {} .fuzzy [.str "Hallo", .str "HELLO", .float 1.0] = pure (.bool false) ∧
      call {} .fuzzy [.str "Hallo", .str "HELLO", .float 0.0] = pure (.bool true) := by
  have htext : "Hallo".toList.length < 2 ^ 53 := by decide
  have hword : "HELLO".toList.length < 2 ^ 53 := by decide
  have hwords : candidates "Hallo".toList "HELLO".toList = ["Hallo".toList] := by decide +kernel
  obtain ⟨⟨found, hfuzzy, hfound⟩, found', hfuzzy', hfound'⟩ :=
    fuzzy_extremes {} (.str "Hallo") (.str "HELLO") htext hword
  obtain rfl : found = false := by
    rw [← Bool.not_eq_true, hfound]
    rintro ⟨run, hrun, hlower⟩
    obtain rfl := List.mem_singleton.mp (hwords ▸ mem_candidates_iff.mpr hrun)
    exact absurd hlower (by decide +kernel)
  obtain rfl : found' = true :=
    hfound'.mpr ⟨"Hallo".toList, mem_candidates_iff.mp (hwords ▸ List.mem_singleton_self _)⟩
  exact ⟨htext, hword, hfuzzy, hfuzzy'⟩

end Builtin

end Trigger
