import Trigger.Function.Builtin
import Trigger.Proofs.Running
import Trigger.Proofs.WholeWord.Matching

/-!
# Words near each other

Successive matches of a whole word are those of a scan from left to right, which goes on behind the
end of each place it takes. A place is skipped where it overlaps the one taken before it, as the
second of the places of "a a" in "a a a" does. Two words are found near each other by the places
taken, so a near pair is missed exactly where each near pair has a place that was skipped, and none
is missed where the places of either word do not overlap.
-/

namespace Trigger

open Trigger.Pattern

/-- The places a scan from left to right takes from a position on: the first place of the term from
there on, and then those behind its end. -/
inductive Scan (text term : List Char) : Nat → List Nat → Prop
  | done {from' : Nat} (hnone : ∀ q, from' ≤ q → ¬StandsAt text term q) : Scan text term from' []
  | next {from' p : Nat} {rest : List Nat} (hfrom : from' ≤ p) (hstands : StandsAt text term p)
      (hfirst : ∀ q, from' ≤ q → StandsAt text term q → p ≤ q)
      (hrest : Scan text term (p + term.length) rest) : Scan text term from' (p :: rest)

/-- No two places of a term in a text overlap. -/
def ApartIn (text term : List Char) : Prop :=
  ∀ p q, StandsAt text term p → StandsAt text term q → p < q → p + term.length ≤ q

/-- Two words start somewhere within a distance of each other. -/
def StandNear (text word other : List Char) (d : Int) : Prop :=
  ∃ a b, StandsAt text word a ∧ StandsAt text other b ∧ (Builtin.gap a b : Int) ≤ d

namespace Scan

variable {text term : List Char} {from' q : Nat} {taken others : List Nat}

/-- What a scan takes is determined by where it starts. -/
theorem unique (h : Scan text term from' taken) (h' : Scan text term from' others) :
    taken = others := by
  induction h generalizing others with
  | done hnone =>
    cases h' with
    | done => rfl
    | next hfrom hstands => exact absurd hstands (hnone _ hfrom)
  | next hfrom hstands hfirst _ ih =>
    cases h' with
    | done hnone => exact absurd hstands (hnone _ hfrom)
    | next hfrom' hstands' hfirst' hrest' =>
      obtain rfl := Nat.le_antisymm (hfirst _ hfrom' hstands') (hfirst' _ hfrom hstands)
      rw [ih hrest']

/-- The term stands at the places taken. -/
theorem standsAt (h : Scan text term from' taken) : ∀ p ∈ taken, StandsAt text term p := by
  induction h with
  | done => exact fun _ hp => absurd hp List.not_mem_nil
  | next _ hstands _ _ ih => exact List.forall_mem_cons.mpr ⟨hstands, ih⟩

/-- Each place starts in one that is taken. -/
theorem exists_covering (h : Scan text term from' taken) (hfrom : from' ≤ q)
    (hstands : StandsAt text term q) : ∃ p ∈ taken, p ≤ q ∧ q < p + term.length := by
  induction h with
  | done hnone => exact absurd hstands (hnone q hfrom)
  | @next from' p rest _ _ hfirst _ ih =>
    by_cases hbehind : p + term.length ≤ q
    · obtain ⟨p', hp', hcovers⟩ := ih hbehind
      exact ⟨p', List.mem_cons_of_mem _ hp', hcovers⟩
    · exact ⟨p, List.mem_cons_self, hfirst q hfrom hstands, Nat.lt_of_not_le hbehind⟩

/-- Where no places overlap, all of them are taken. -/
theorem mem_of_apart (h : Scan text term from' taken) (hapart : ApartIn text term)
    (hfrom : from' ≤ q) (hstands : StandsAt text term q) : q ∈ taken := by
  obtain ⟨p, hp, hle, hcovers⟩ := h.exists_covering hfrom hstands
  rcases Nat.eq_or_lt_of_le hle with rfl | hlt
  · exact hp
  · have hend := hapart p q (h.standsAt p hp) hstands hlt
    omega

section

variable {word other : List Char} {firsts seconds : List Nat} {d : Int}

/-- Places taken near each other are places near each other. -/
theorem standNear_of_taken (hfirsts : Scan text word from' firsts)
    (hseconds : Scan text other from' seconds)
    (h : ∃ a ∈ firsts, ∃ b ∈ seconds, (Builtin.gap a b : Int) ≤ d) : StandNear text word other d := by
  obtain ⟨a, ha, b, hb, hgap⟩ := h
  exact ⟨a, b, hfirsts.standsAt a ha, hseconds.standsAt b hb, hgap⟩

/-- Where no places overlap, places near each other are taken. -/
theorem taken_of_standNear (hfirsts : Scan text word 0 firsts) (hseconds : Scan text other 0 seconds)
    (hword : ApartIn text word) (hother : ApartIn text other) (h : StandNear text word other d) :
    ∃ a ∈ firsts, ∃ b ∈ seconds, (Builtin.gap a b : Int) ≤ d := by
  obtain ⟨a, b, ha, hb, hgap⟩ := h
  exact ⟨a, hfirsts.mem_of_apart hword (Nat.zero_le a) ha, b,
    hseconds.mem_of_apart hother (Nat.zero_le b) hb, hgap⟩

end

end Scan

namespace Pattern

variable {text term : List Char}

/-- Successive matches of a whole word from a position on are those of a scan. -/
theorem scan_findFrom (hterm : term ≠ []) {fuel from' : Nat} (hfuel : text.length < fuel + from') :
    Scan text term from'
      (((wholeWord term).findFrom text.toArray fuel from' false).map (·.start)) := by
  induction fuel generalizing from' with
  | zero =>
    refine .done fun q hq hstands => ?_
    have hinText := hstands.inText
    omega
  | succ fuel ih =>
    rw [findFrom]
    cases hsearch : (wholeWord term).searchFrom? text.toArray from' with
    | none => exact .done fun q hq => searchFrom?_wholeWord_eq_none hterm hsearch hq
    | some m =>
      obtain ⟨hfrom, hstands, hstop, hfirst⟩ := searchFrom?_wholeWord hterm hsearch
      have hpositive := List.length_pos_iff.mpr hterm
      -- a match that is not empty lets the next one be anything
      have hmore : (m.stop == m.start) = false := by
        rw [hstop]
        exact beq_false_of_ne (by omega)
      have hrest := @ih m.stop (by omega)
      rw [hstop] at hrest hmore
      simp only [List.map_cons, hstop, hmore]
      exact .next hfrom hstands hfirst hrest

end Pattern

namespace Builtin

/-- The positions at which the successive matches of a whole word start are those of a scan of the
text. -/
theorem scan_starts (text : List Char) {term : List Char} (hterm : term ≠ []) :
    Scan text term 0 (starts (Pattern.wholeWord term) text) := by
  refine scan_findFrom hterm ?_
  rw [List.size_toArray]
  omega

/-- Words are near each other by the positions at which their successive matches start. -/
theorem areNear_run (text : List Char) (word other : Value) (d : Int) (s : Effects) :
    ∃ found t, (areNear text word other (.within d)).run s = (.ok found, t) ∧
      (found = true ↔
        ∃ a ∈ starts (Pattern.wholeWord word.toText.toList) text,
          ∃ b ∈ starts (Pattern.wholeWord other.toText.toList) text, (gap a b : Int) ≤ d) := by
  rw [areNear, Eval.run_bind_of_ok (Eval.wholeWord_run _ s)]
  dsimp only
  split
  · next hempty =>
    rw [List.isEmpty_iff] at hempty
    exact ⟨false, _, rfl, by simp [hempty]⟩
  · rw [Eval.run_bind_of_ok (Eval.wholeWord_run _ _)]
    exact ⟨_, _, rfl, by simp [withinReach]⟩

/-- Words within a distance of each other are found by the places that a scan takes of each: the
answer is wrong exactly where they are near each other but not by the places taken, and it is right
where the places of neither word overlap. -/
theorem near_iff_scan (settings : BuiltinSettings) (text word other : Value) (d : Int)
    (hword : word.toText ≠ "") (hother : other.toText ≠ "") (s : Effects) :
    ∃ found t firsts seconds,
      (call { settings with nearReach := .within d } .near [text, word, other]).run s =
        (.ok (.bool found), t) ∧
      Scan text.textOrEmpty.toList word.toText.toList 0 firsts ∧
      Scan text.textOrEmpty.toList other.toText.toList 0 seconds ∧
      (found = true ↔ ∃ a ∈ firsts, ∃ b ∈ seconds, (gap a b : Int) ≤ d) ∧
      (¬(found = true ↔
          StandNear text.textOrEmpty.toList word.toText.toList other.toText.toList d) ↔
        StandNear text.textOrEmpty.toList word.toText.toList other.toText.toList d ∧
          ∀ a ∈ firsts, ∀ b ∈ seconds, d < gap a b) ∧
      (ApartIn text.textOrEmpty.toList word.toText.toList →
        ApartIn text.textOrEmpty.toList other.toText.toList →
        (found = true ↔
          StandNear text.textOrEmpty.toList word.toText.toList other.toText.toList d)) := by
  have hfirsts := scan_starts text.textOrEmpty.toList (term_ne_nil hword)
  have hseconds := scan_starts text.textOrEmpty.toList (term_ne_nil hother)
  obtain ⟨found, t, hrun, hfound⟩ := areNear_run text.textOrEmpty.toList word other d s
  have hsound := fun h => hfirsts.standNear_of_taken hseconds (hfound.mp h)
  refine ⟨found, t, _, _, ?_, hfirsts, hseconds, hfound, ?_, fun hapart hapart' =>
    ⟨hsound, fun h => hfound.mpr (hfirsts.taken_of_standNear hseconds hapart hapart' h)⟩⟩
  · have hcall : call { settings with nearReach := .within d } .near [text, word, other] =
        (do return .bool (← areNear text.textOrEmpty.toList word other (.within d))) := rfl
    rw [hcall, Eval.run_bind_of_ok hrun]
    rfl
  · have hmissed : ¬found = true ↔
        ∀ a ∈ starts (Pattern.wholeWord word.toText.toList) text.textOrEmpty.toList,
          ∀ b ∈ starts (Pattern.wholeWord other.toText.toList) text.textOrEmpty.toList,
            d < gap a b := by
      rw [hfound]
      simp only [not_exists, not_and, Int.not_le]
    rw [← hmissed]
    grind

/-- Words whose starts are as far apart as the limit allows are found. -/
theorem near_at_limit :
    ∃ t, (call { nearReach := .within 2 } .near [.str "a b a", .str "A", .str "b"]).run {} =
      (.ok (.bool true), t) := by
  obtain ⟨found, t, firsts, seconds, hrun, hfirsts, hseconds, hfound, -, -⟩ :=
    near_iff_scan {} (.str "a b a") (.str "A") (.str "b") 2 (by decide) (by decide) {}
  obtain ⟨a, ha, hle, -⟩ := hfirsts.exists_covering (q := 0) (Nat.le_refl 0) (by decide)
  obtain ⟨b, hb, hle', hlt⟩ := hseconds.exists_covering (q := 2) (Nat.zero_le 2) (by decide)
  obtain rfl : a = 0 := Nat.le_zero.mp hle
  obtain rfl : b = 2 := Nat.le_antisymm hle' (Nat.le_of_lt_succ hlt)
  obtain rfl : found = true := hfound.mpr ⟨0, ha, 2, hb, by decide⟩
  exact ⟨t, hrun⟩

/-- The second place of "a a" overlaps the first and is skipped, and with it the only near pair. -/
theorem near_skips_overlapping_place :
    StandNear "a a a b".toList "a a".toList "b".toList 4 ∧
      ∃ t, (call { nearReach := .within 4 } .near [.str "a a a b", .str "a a", .str "b"]).run {} =
        (.ok (.bool false), t) := by
  refine ⟨⟨2, 6, by decide, by decide, by decide⟩, ?_⟩
  obtain ⟨found, t, hrun, hfound⟩ :=
    areNear_run "a a a b".toList (.str "a a") (.str "b") 4 {}
  have hfirsts : starts (Pattern.wholeWord "a a".toList) "a a a b".toList = [0] := by decide
  have hseconds : starts (Pattern.wholeWord "b".toList) "a a a b".toList = [6] := by decide
  obtain rfl : found = false := by
    rw [← Bool.not_eq_true, hfound]
    rintro ⟨a, ha, b, hb, hgap⟩
    obtain rfl := List.mem_singleton.mp (hfirsts ▸ ha)
    obtain rfl := List.mem_singleton.mp (hseconds ▸ hb)
    exact absurd hgap (by decide)
  exact ⟨t, Eval.run_bind_of_ok hrun⟩

end Builtin

end Trigger
