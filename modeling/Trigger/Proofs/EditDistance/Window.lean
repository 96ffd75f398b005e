import Trigger.Proofs.EditDistance.Extremes

/-!
# The window of lengths

An edit makes a text at most one character longer or shorter, so texts that are a few edits apart
are of nearly the same length. Hence only tokens that are at most two characters longer or shorter
than a word can be within two edits of it, and the window of lengths loses none of them. Where it
would reach below one it is cut off, which loses nothing either: no token is empty. Edits are counted
in lower case, so lower case must not change the lengths that the window compares.
-/

namespace Trigger

namespace Similarity

/-- Texts differ in length by no more than there are edits between them. -/
theorem length_le_add_distance (a b : List Char) :
    a.length ≤ b.length + distance a b ∧ b.length ≤ a.length + distance a b := by
  have haligned := (least_distance a b).aligned
  exact ⟨haligned.length_le_add', haligned.length_le_add⟩

end Similarity

namespace Builtin

open Similarity

variable {text word run : List Char}

/-- Whether a token is at most two edits away from a word without regard to case, where lower case
keeps the length of the token. -/
def isWithinTwoEdits (word run : List Char) : Bool :=
  (Text.lower run).length = run.length && distance (Text.lower run) (Text.lower word) ≤ 2

/-- A token that is at most two edits away from a word is of about the same length. -/
theorem hasCandidate_of_isWithinTwoEdits (hword : (Text.lower word).length = word.length)
    (hrun : HasWordRun text run) (hclose : isWithinTwoEdits word run = true) :
    HasCandidate text word run := by
  rw [isWithinTwoEdits, Bool.and_eq_true, decide_eq_true_eq, decide_eq_true_eq] at hclose
  obtain ⟨hlength, hdistance⟩ := hclose
  have hlengths := length_le_add_distance (Text.lower run) (Text.lower word)
  rw [hlength, hword] at hlengths
  have hpos : 0 < run.length := by
    obtain ⟨before, after, -, h⟩ := hrun
    exact List.length_pos_iff.mpr h.ne_nil
  exact ⟨hrun, by omega, by omega⟩

/-- The window of lengths loses no close token: every token that is at most two edits away from a
word is among the candidates for it, and all of these come in the order of the text and as often as
they stand in it. -/
theorem candidates_keep_close_tokens (text word : List Char)
    (hword : (Text.lower word).length = word.length) :
    (∀ run, HasWordRun text run → (Text.lower run).length = run.length →
      distance (Text.lower run) (Text.lower word) ≤ 2 → run ∈ candidates text word) ∧
    (candidates text word).filter (isWithinTwoEdits word) =
      (tokens text).filter (isWithinTwoEdits word) := by
  constructor
  · intro run hrun hlength hdistance
    have hclose : isWithinTwoEdits word run = true := by
      rw [isWithinTwoEdits, decide_eq_true hlength, decide_eq_true hdistance, Bool.and_self]
    exact mem_candidates_iff.mpr (hasCandidate_of_isWithinTwoEdits hword hrun hclose)
  · rw [candidates, List.filter_filter]
    refine List.filter_congr fun run hrun => ?_
    cases hclose : isWithinTwoEdits word run with
    | false => rfl
    | true =>
      have h := hasCandidate_of_isWithinTwoEdits hword (mem_tokens_iff.mp hrun) hclose
      rw [Bool.true_and, decide_eq_true h.least, decide_eq_true h.greatest, Bool.and_self]

/-- A word of two letters has a window that is cut off at one: a token of one letter that is two
edits away from it is kept, and so is one of four letters. -/
theorem candidates_keep_close_tokens_of_short_word :
    (Text.lower "OX".toList).length = "OX".toList.length ∧
      "a".toList ∈ candidates "a boxy, doormat".toList "OX".toList ∧
      (candidates "a boxy, doormat".toList "OX".toList).filter (isWithinTwoEdits "OX".toList) =
        ["a".toList, "boxy".toList] := by
  have hword : (Text.lower "OX".toList).length = "OX".toList.length := by decide +kernel
  have htokens : tokens "a boxy, doormat".toList =
      ["a".toList, "boxy".toList, "doormat".toList] := by decide +kernel
  obtain ⟨hkept, hfilter⟩ := candidates_keep_close_tokens "a boxy, doormat".toList _ hword
  refine ⟨hword, hkept "a".toList ?_ (by decide +kernel) (by decide +kernel), ?_⟩
  · exact mem_tokens_iff.mp (htokens ▸ List.mem_cons_self)
  · rw [hfilter, htokens]
    decide +kernel

end Builtin

end Trigger
