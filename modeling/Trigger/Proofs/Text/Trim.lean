import Mathlib.Data.List.TakeWhile
import Trigger.Text.Space

/-!
# White space around texts

What is trimmed off a text is white space, and white space around it makes no difference.
-/

namespace Trigger.Text

variable {s t w : List Char}

/-- What is trimmed off a text is white space. -/
theorem exists_trim (s : List Char) :
    ∃ w t, (∀ c ∈ w, isSpace c = true) ∧ (∀ c ∈ t, isSpace c = true) ∧ s = w ++ trim s ++ t := by
  refine ⟨s.takeWhile isSpace, ((trimStart s).reverse.takeWhile isSpace).reverse, ?_, ?_, ?_⟩
  · exact fun c hc => List.mem_takeWhile_imp hc
  · exact fun c hc => List.mem_takeWhile_imp (List.mem_reverse.mp hc)
  · rw [trim, trimEnd, List.append_assoc, ← List.reverse_append, List.takeWhile_append_dropWhile,
      List.reverse_reverse, trimStart, List.takeWhile_append_dropWhile]

/-- White space around a text is trimmed off. -/
theorem trim_blanks (hw : ∀ c ∈ w, isSpace c = true) (ht : ∀ c ∈ t, isSpace c = true) :
    trim (w ++ s ++ t) = trim s := by
  have hend {u : List Char} : trimEnd (u ++ t) = trimEnd u := by
    rw [trimEnd, List.reverse_append, List.dropWhile_append_of_pos fun c hc =>
      ht c (List.mem_reverse.mp hc), trimEnd]
  rw [trim, trimStart, List.append_assoc, List.dropWhile_append_of_pos hw, List.dropWhile_append,
    trim, trimStart]
  split
  case isTrue hempty =>
    have hrest : t.dropWhile isSpace = [] := by
      simpa using @List.dropWhile_append_of_pos _ isSpace t [] ht
    rw [hrest, List.isEmpty_iff.mp hempty]
  case isFalse => exact hend

/-- A text that does not end with white space is only trimmed at its start. -/
theorem trimEnd_append {d : Char} (hd : isSpace d = false) (s : List Char) :
    trimEnd (s ++ [d]) = s ++ [d] := by
  rw [trimEnd, List.reverse_append, List.reverse_singleton, List.singleton_append,
    List.dropWhile_cons_of_neg (by simp [hd]), List.reverse_cons, List.reverse_reverse]

/-- A text that does not start with white space is only trimmed at its end. -/
theorem trimStart_cons {c : Char} (hc : isSpace c = false) (s : List Char) :
    trimStart (c :: s) = c :: s :=
  List.dropWhile_cons_of_neg (by simp [hc])

end Trigger.Text
