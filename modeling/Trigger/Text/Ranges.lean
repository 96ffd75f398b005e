/-!
# Ranges of code points

A property of characters is kept as the list of the closed ranges of code points that have it,
in ascending order, and is looked up from the left.
-/

namespace Trigger.Text

/-- Whether a number lies in one of the closed ranges, which are in ascending order. -/
def inRanges : List (Nat × Nat) → Nat → Bool
  | [], _ => false
  | (first, last) :: rest, n => if n < first then false else n ≤ last || inRanges rest n

/-- Closed ranges that are in ascending order and apart from each other. -/
def Ascending : List (Nat × Nat) → Bool
  | [] => true
  | [r] => r.1 ≤ r.2
  | r :: s :: rest => r.1 ≤ r.2 && r.2 < s.1 && Ascending (s :: rest)

/-- What is found lies between the ends of one of the ranges. -/
theorem inRanges_of_mem {ranges : List (Nat × Nat)} {n : Nat} (h : inRanges ranges n = true) :
    ∃ r ∈ ranges, r.1 ≤ n ∧ n ≤ r.2 := by
  induction ranges with
  | nil => simp [inRanges] at h
  | cons r rest ih =>
    obtain ⟨first, last⟩ := r
    by_cases hlt : n < first
    · simp [inRanges, hlt] at h
    · simp only [inRanges, if_neg hlt, Bool.or_eq_true, decide_eq_true_eq] at h
      rcases h with h | h
      · exact ⟨(first, last), by simp, by omega, h⟩
      · obtain ⟨s, hs, h1, h2⟩ := ih h
        exact ⟨s, by simp [hs], h1, h2⟩

end Trigger.Text
