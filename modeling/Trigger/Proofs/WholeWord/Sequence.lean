import Trigger.Function.Builtin
import Trigger.Proofs.Running
import Trigger.Proofs.WholeWord.Matching
import Mathlib.Data.List.Forall2

/-!
# Words one after the other

Looking for each word at its first place behind the start of the word before loses nothing: where
the words stand one after the other at all, they also do with the first word moved to its first
place. So the search for a sequence succeeds exactly where there are increasing places for its
words.
-/

namespace Trigger

open Trigger.Pattern

/-- The places of terms in a text, one after the other and from a position on. -/
structure Places (text : List Char) (from' : Nat) (terms : List (List Char)) (places : List Nat) :
    Prop where
  stand : List.Forall₂ (StandsAt text) terms places
  increase : places.Pairwise (· < ·)
  from_le : ∀ p ∈ places, from' ≤ p

namespace Places

variable {text term : List Char} {from' p : Nat} {terms : List (List Char)} {places : List Nat}

/-- No terms have no places. -/
theorem nil : Places text from' [] [] := ⟨.nil, .nil, fun _ h => absurd h List.not_mem_nil⟩

/-- The place of the first term, and those of the others behind its start. -/
theorem cons_iff :
    Places text from' (term :: terms) (p :: places) ↔
      (from' ≤ p ∧ StandsAt text term p) ∧ Places text (p + 1) terms places := by
  constructor
  · rintro ⟨hstand, hincrease, hfrom⟩
    rw [List.forall₂_cons] at hstand
    rw [List.pairwise_cons] at hincrease
    exact ⟨⟨hfrom p List.mem_cons_self, hstand.1⟩, hstand.2, hincrease.2, hincrease.1⟩
  · rintro ⟨⟨hfrom, hterm⟩, hstand, hincrease, hbehind⟩
    refine ⟨.cons hterm hstand, .cons hbehind hincrease, fun q hq => ?_⟩
    rcases List.mem_cons.mp hq with rfl | hq
    · exact hfrom
    · exact Nat.le_of_lt (Nat.lt_of_le_of_lt hfrom (hbehind q hq))

/-- The first term has a place. -/
theorem exists_cons (h : Places text from' (term :: terms) places) :
    ∃ q rest, places = q :: rest := by
  cases h.stand with
  | cons => exact ⟨_, _, rfl⟩

/-- Places from a position on are places from an earlier one on. -/
theorem mono {earlier : Nat} (hle : earlier ≤ from') (h : Places text from' terms places) :
    Places text earlier terms places :=
  ⟨h.stand, h.increase, fun p hp => Nat.le_trans hle (h.from_le p hp)⟩

/-- Where terms have places, they have places with the first term at its first place. -/
theorem exists_cons_first (hfrom : from' ≤ p) (hstands : StandsAt text term p)
    (hfirst : ∀ q, from' ≤ q → StandsAt text term q → p ≤ q) :
    (∃ places, Places text from' (term :: terms) places) ↔
      ∃ places, Places text (p + 1) terms places := by
  constructor
  · rintro ⟨places, h⟩
    obtain ⟨q, rest, rfl⟩ := h.exists_cons
    obtain ⟨⟨hq, hstandsq⟩, hrest⟩ := cons_iff.mp h
    exact ⟨rest, hrest.mono (Nat.succ_le_succ (hfirst q hq hstandsq))⟩
  · rintro ⟨rest, hrest⟩
    exact ⟨p :: rest, cons_iff.mpr ⟨⟨hfrom, hstands⟩, hrest⟩⟩

end Places

/-! ## The search -/

namespace Builtin

/-- The search for words from a position on succeeds exactly where they have places. -/
theorem follows_run (text : List Char) {words : List Value}
    (hwords : ∀ w ∈ words, w.toText ≠ "") (from' : Nat) (s : Effects) :
    ∃ found t, (follows text.toArray from' words).run s = (.ok found, t) ∧
      (found = true ↔ ∃ places, Places text from' (words.map (·.toText.toList)) places) := by
  induction words generalizing from' s with
  | nil => exact ⟨true, s, rfl, fun _ => ⟨[], .nil⟩, fun _ => rfl⟩
  | cons word rest ih =>
    rw [List.forall_mem_cons] at hwords
    have hterm := term_ne_nil hwords.1
    rw [follows, Eval.run_bind_of_ok (Eval.wholeWord_run _ s), List.map_cons]
    cases hsearch : (Pattern.wholeWord word.toText.toList).searchFrom? text.toArray from' with
    | none =>
      refine ⟨false, _, rfl, fun h => absurd h Bool.false_ne_true, ?_⟩
      rintro ⟨places, h⟩
      obtain ⟨q, others, rfl⟩ := h.exists_cons
      obtain ⟨⟨hq, hstands⟩, -⟩ := Places.cons_iff.mp h
      exact absurd hstands (searchFrom?_wholeWord_eq_none hterm hsearch hq)
    | some m =>
      obtain ⟨hfrom, hstands, -, hfirst⟩ := searchFrom?_wholeWord hterm hsearch
      rw [Places.exists_cons_first hfrom hstands hfirst]
      exact ih hwords.2 (m.start + 1) _

/-- The search for a sequence of words succeeds exactly where there are increasing places at which
the words stand as whole words, and those are the places at which their patterns match. -/
theorem sequence_iff_places (settings : BuiltinSettings) (text : Value) {words : List Value}
    (hwords : ∀ w ∈ words, w.toText ≠ "") (s : Effects) :
    (∃ found t, (call settings .sequence (text :: words)).run s = (.ok (.bool found), t) ∧
      (found = true ↔ ∃ places : List Nat, places.Pairwise (· < ·) ∧
        List.Forall₂ (fun w p => StandsAt text.textOrEmpty.toList w.toText.toList p)
          words places)) ∧
    ∀ w ∈ words, ∀ p,
      ((Pattern.wholeWord w.toText.toList).matchAt? text.textOrEmpty.toList.toArray false
        p).isSome ↔ StandsAt text.textOrEmpty.toList w.toText.toList p := by
  constructor
  · obtain ⟨found, t, hrun, hfound⟩ := follows_run text.textOrEmpty.toList hwords 0 s
    refine ⟨found, t, ?_, hfound.trans (exists_congr fun places => ?_)⟩
    · have hcall : call settings .sequence (text :: words) =
          (do return .bool (← follows text.textOrEmpty.toList.toArray 0 words)) := rfl
      rw [hcall, Eval.run_bind_of_ok hrun]
      rfl
    · constructor
      · rintro ⟨hstand, hincrease, -⟩
        exact ⟨hincrease, List.forall₂_map_left_iff.mp hstand⟩
      · rintro ⟨hincrease, hstand⟩
        exact ⟨List.forall₂_map_left_iff.mpr hstand, hincrease, fun p _ => Nat.zero_le p⟩
  · intro w hw p
    rw [matchAt?_wholeWord (term_ne_nil (hwords w hw))]
    split <;> simp_all

/-- Words whose places touch, overlap and repeat each other are found in order. -/
theorem sequence_of_overlapping_words :
    ∃ t, (call {} .sequence [.str "a b a b a", .str "A b", .str "a", .str "b a"]).run {} =
      (.ok (.bool true), t) := by
  obtain ⟨⟨found, t, hrun, hfound⟩, -⟩ :=
    @sequence_iff_places {} (.str "a b a b a") [.str "A b", .str "a", .str "b a"] (by decide) {}
  have hstand : List.Forall₂ (fun w p => StandsAt "a b a b a".toList (Value.toText w).toList p)
      [.str "A b", .str "a", .str "b a"] [0, 4, 6] := by
    refine .cons ?_ (.cons ?_ (.cons ?_ .nil)) <;> decide
  obtain rfl : found = true := hfound.mpr ⟨[0, 4, 6], by decide, hstand⟩
  exact ⟨t, hrun⟩

end Builtin

end Trigger
