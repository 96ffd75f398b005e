import Trigger.Proofs.WholeWord.Near
import Trigger.Proofs.WholeWord.Sequence

/-!
# The functions on whole words agree

Counting a word, looking for two words near each other and looking for words one after the other
scan a text in three ways. As to whether a word stands in the text at all, they agree: a scan takes
a place exactly where there is one, and two places in a text are never further apart than the text
is long. A compiled pattern is no word, though: it is counted by its own matches, while the other
functions take the text that it is shown as.
-/

namespace Trigger

open Trigger.Pattern

/-- A term stands somewhere in a text as a whole word. -/
def OccursIn (text term : List Char) : Prop :=
  ∃ p, StandsAt text term p

section

variable {text term word other : List Char}

/-- A scan of a text takes a place exactly where the term stands somewhere. -/
theorem Scan.ne_nil_iff {taken : List Nat} (h : Scan text term 0 taken) :
    taken ≠ [] ↔ OccursIn text term := by
  constructor
  · intro hne
    obtain ⟨p, hp⟩ := List.exists_mem_of_ne_nil taken hne
    exact ⟨p, h.standsAt p hp⟩
  · rintro ⟨q, hstands⟩ rfl
    obtain ⟨p, hp, -⟩ := h.exists_covering (Nat.zero_le q) hstands
    exact absurd hp List.not_mem_nil

/-- Two places in a text are no further apart than the text is long. -/
theorem gap_le_length {a b : Nat} (ha : StandsAt text word a) (hb : StandsAt text other b) :
    Builtin.gap a b ≤ text.length := by
  have hinText := ha.inText
  have hinText' := hb.inText
  rw [Builtin.gap]
  omega

/-- Words that are near each other both stand in the text. -/
theorem StandNear.occursIn {d : Int} (h : StandNear text word other d) :
    OccursIn text word ∧ OccursIn text other := by
  obtain ⟨a, b, ha, hb, -⟩ := h
  exact ⟨⟨a, ha⟩, b, hb⟩

/-- Terms that have places all stand in the text. -/
theorem Places.occursIn {from' : Nat} {terms : List (List Char)} {places : List Nat}
    (h : Places text from' terms places) : ∀ t ∈ terms, OccursIn text t := by
  induction terms generalizing from' places with
  | nil => exact fun _ ht => absurd ht List.not_mem_nil
  | cons t terms ih =>
    obtain ⟨p, rest, rfl⟩ := h.exists_cons
    obtain ⟨⟨-, hstands⟩, hrest⟩ := Places.cons_iff.mp h
    exact List.forall_mem_cons.mpr ⟨⟨p, hstands⟩, ih hrest⟩

/-- A single term has places exactly where it stands in the text. -/
theorem exists_places_singleton_iff : (∃ places, Places text 0 [term] places) ↔ OccursIn text term := by
  constructor
  · rintro ⟨places, h⟩
    exact h.occursIn term List.mem_cons_self
  · rintro ⟨p, hstands⟩
    exact ⟨[p], Places.cons_iff.mpr ⟨⟨Nat.zero_le p, hstands⟩, .nil⟩⟩

end

namespace Builtin

open Eval (Gives)

/-- An answer that says whether a condition holds, whatever effects it starts from, is given. -/
theorem exists_gives_of_run {x : Eval Bool} {P : Prop}
    (h : ∀ s, ∃ found t, x.run s = (.ok found, t) ∧ (found = true ↔ P)) :
    ∃ found, x.Gives found ∧ (found = true ↔ P) := by
  obtain ⟨found, -, -, hfound⟩ := h {}
  refine ⟨found, fun s => ?_, hfound⟩
  obtain ⟨again, t, hrun, hagain⟩ := h s
  obtain rfl : again = found := Bool.eq_iff_iff.mpr (hagain.trans hfound.symm)
  exact ⟨t, hrun⟩

/-- A term that is no pattern is counted by the places that a scan takes. -/
theorem occurrences_gives (text : List Char) {term : Value} (hterm : ∀ p, term ≠ .pattern p) :
    (occurrences text term).Gives (starts (Pattern.wholeWord term.toText.toList) text).length := by
  rw [starts, List.length_map]
  cases term with
  | pattern p => exact absurd rfl (hterm p)
  | _ => exact (Eval.wholeWord_gives _).bind (.pure _)

variable (settings : BuiltinSettings) (text : Value) {word other term : Value} {words : List Value}

/-- A term that is no pattern is counted at least once exactly where it stands in the text. -/
theorem count_gives (hterm : ∀ p, term ≠ .pattern p) (hne : term.toText ≠ "") :
    ∃ n : Nat, Gives (call settings .count [text, term]) (.int n) ∧
      (1 ≤ n ↔ OccursIn text.textOrEmpty.toList term.toText.toList) := by
  refine ⟨_, (occurrences_gives text.textOrEmpty.toList hterm).bind (.pure _), ?_⟩
  rw [← (scan_starts text.textOrEmpty.toList (term_ne_nil hne)).ne_nil_iff]
  exact List.length_pos_iff

/-- Words are found near each other within the length of the text exactly where both stand in it. -/
theorem near_gives {d : Int} (hd : (text.textOrEmpty.toList.length : Int) ≤ d)
    (hword : word.toText ≠ "") (hother : other.toText ≠ "") :
    ∃ found, Gives (call { settings with nearReach := .within d } .near [text, word, other])
        (.bool found) ∧
      (found = true ↔ OccursIn text.textOrEmpty.toList word.toText.toList ∧
        OccursIn text.textOrEmpty.toList other.toText.toList) := by
  have hfirsts := scan_starts text.textOrEmpty.toList (term_ne_nil hword)
  have hseconds := scan_starts text.textOrEmpty.toList (term_ne_nil hother)
  obtain ⟨found, hgives, hfound⟩ :=
    exists_gives_of_run (areNear_run text.textOrEmpty.toList word other d)
  refine ⟨found, hgives.bind (.pure _), hfound.trans ⟨fun h => ?_, fun ⟨hw, ho⟩ => ?_⟩⟩
  · exact (hfirsts.standNear_of_taken hseconds h).occursIn
  · obtain ⟨a, ha⟩ := List.exists_mem_of_ne_nil _ (hfirsts.ne_nil_iff.mpr hw)
    obtain ⟨b, hb⟩ := List.exists_mem_of_ne_nil _ (hseconds.ne_nil_iff.mpr ho)
    have hgap := gap_le_length (hfirsts.standsAt a ha) (hseconds.standsAt b hb)
    exact ⟨a, ha, b, hb, by omega⟩

/-- Words are found one after the other exactly where they have places. -/
theorem sequence_gives (hwords : ∀ w ∈ words, w.toText ≠ "") :
    ∃ found, Gives (call settings .sequence (text :: words)) (.bool found) ∧
      (found = true ↔
        ∃ places, Places text.textOrEmpty.toList 0 (words.map (·.toText.toList)) places) := by
  obtain ⟨found, hgives, hfound⟩ :=
    exists_gives_of_run (follows_run text.textOrEmpty.toList hwords 0)
  exact ⟨found, hgives.bind (.pure _), hfound⟩

/-- The functions on whole words agree as to which words stand in a text. Where the distance that is
set is no less than the length of the text, two words are near each other exactly where each of them
is counted at least once; one word is a sequence exactly where it is counted at least once; and where
words are found one after the other, each of them is counted at least once and any two are near each
other. What is counted is no pattern. -/
theorem whole_words_agree (settings : BuiltinSettings) (text : Value) (d : Int)
    (hd : (text.textOrEmpty.toList.length : Int) ≤ d) :
    (∀ word other : Value, word.toText ≠ "" → other.toText ≠ "" →
      (∀ p, word ≠ .pattern p) → (∀ p, other ≠ .pattern p) →
      ∃ (found : Bool) (n m : Nat),
        Gives (call { settings with nearReach := .within d } .near [text, word, other])
          (.bool found) ∧
        Gives (call settings .count [text, word]) (.int n) ∧
        Gives (call settings .count [text, other]) (.int m) ∧
        (found = true ↔ 1 ≤ n ∧ 1 ≤ m)) ∧
    (∀ word : Value, word.toText ≠ "" → (∀ p, word ≠ .pattern p) →
      ∃ (found : Bool) (n : Nat),
        Gives (call settings .sequence [text, word]) (.bool found) ∧
        Gives (call settings .count [text, word]) (.int n) ∧
        (found = true ↔ 1 ≤ n)) ∧
    ∀ words : List Value, (∀ w ∈ words, w.toText ≠ "") →
      ∃ found : Bool, Gives (call settings .sequence (text :: words)) (.bool found) ∧
        (found = true →
          (∀ w ∈ words, (∀ p, w ≠ .pattern p) →
            ∃ n : Nat, Gives (call settings .count [text, w]) (.int n) ∧ 1 ≤ n) ∧
          words.Pairwise fun w w' =>
            Gives (call { settings with nearReach := .within d } .near [text, w, w'])
              (.bool true)) := by
  refine ⟨fun word other hword hother hplain hplain' => ?_, fun word hword hplain => ?_,
    fun words hwords => ?_⟩
  · obtain ⟨found, hnear, hfound⟩ := near_gives settings text hd hword hother
    obtain ⟨n, hcount, hn⟩ := count_gives settings text hplain hword
    obtain ⟨m, hcount', hm⟩ := count_gives settings text hplain' hother
    exact ⟨found, n, m, hnear, hcount, hcount', by rw [hfound, hn, hm]⟩
  · obtain ⟨found, hsequence, hfound⟩ :=
      sequence_gives settings text (List.forall_mem_singleton.mpr hword)
    obtain ⟨n, hcount, hn⟩ := count_gives settings text hplain hword
    exact ⟨found, n, hsequence, hcount, by rw [hfound, hn]; exact exists_places_singleton_iff⟩
  · obtain ⟨found, hsequence, hfound⟩ := sequence_gives settings text hwords
    refine ⟨found, hsequence, fun h => ?_⟩
    obtain ⟨places, hplaces⟩ := hfound.mp h
    have hoccurs : ∀ w ∈ words, OccursIn text.textOrEmpty.toList w.toText.toList :=
      fun w hw => hplaces.occursIn _ (List.mem_map_of_mem hw)
    constructor
    · intro w hw hplain
      obtain ⟨n, hcount, hn⟩ := count_gives settings text hplain (hwords w hw)
      exact ⟨n, hcount, hn.mpr (hoccurs w hw)⟩
    · refine List.pairwise_of_forall_mem_list fun w hw w' hw' => ?_
      obtain ⟨near, hnear, hiff⟩ := near_gives settings text hd (hwords w hw) (hwords w' hw')
      obtain rfl : near = true := hiff.mpr ⟨hoccurs w hw, hoccurs w' hw'⟩
      exact hnear

/-- A word that stands in a text twice and one that stands there once are found by each of the
functions. -/
theorem whole_words_agree_on_repeated_word :
    Gives (call {} .count [.str "a b a", .str "A"]) (.int 2) ∧
    Gives (call { nearReach := .within 5 } .near [.str "a b a", .str "A", .str "b"])
      (.bool true) ∧
    Gives (call {} .sequence [.str "a b a", .str "A"]) (.bool true) ∧
    ∃ found : Bool, Gives (call {} .sequence [.str "a b a", .str "A", .str "b"]) (.bool found) ∧
      (found = true →
        Gives (call { nearReach := .within 5 } .near [.str "a b a", .str "A", .str "b"])
          (.bool true)) := by
  obtain ⟨hnear, hone, hmany⟩ := whole_words_agree {} (.str "a b a") 5 (by decide)
  have hcount : Gives (call {} .count [.str "a b a", .str "A"]) (.int 2) :=
    (@occurrences_gives "a b a".toList (.str "A") nofun).bind (.pure _)
  have hcount' : Gives (call {} .count [.str "a b a", .str "b"]) (.int 1) :=
    (@occurrences_gives "a b a".toList (.str "b") nofun).bind (.pure _)
  refine ⟨hcount, ?_, ?_, ?_⟩
  · obtain ⟨found, n, m, hfound, hn, hm, hiff⟩ :=
      hnear (.str "A") (.str "b") (by decide) (by decide) nofun nofun
    have hcounted : 1 ≤ n ∧ 1 ≤ m := by
      cases hn.unique hcount
      cases hm.unique hcount'
      decide
    obtain rfl : found = true := hiff.mpr hcounted
    exact hfound
  · obtain ⟨found, n, hfound, hn, hiff⟩ := hone (.str "A") (by decide) nofun
    have hcounted : 1 ≤ n := by
      cases hn.unique hcount
      decide
    obtain rfl : found = true := hiff.mpr hcounted
    exact hfound
  · obtain ⟨found, hfound, hall⟩ := hmany [.str "A", .str "b"] (by decide)
    exact ⟨found, hfound, fun h => List.rel_of_pairwise_cons (hall h).2 List.mem_cons_self⟩

/-- A compiled pattern is counted where it matches, but the text that it is shown as does not stand
there. -/
theorem pattern_counted_but_not_followed :
    ∃ p, Pattern.read "a" {} = .ok p ∧ (Value.pattern p).toText ≠ "" ∧
      Gives (call {} .count [.str "a", .pattern p]) (.int 1) ∧
      Gives (call {} .sequence [.str "a", .pattern p]) (.bool false) := by
  let p : Pattern := ⟨"a", {}, 0, .one (.single .exact 'a')⟩
  have htext : (Value.pattern p).toText ≠ "" := by decide
  obtain ⟨found, hgives, hfound⟩ :=
    sequence_gives {} (.str "a") (List.forall_mem_singleton.mpr htext)
  refine ⟨p, rfl, htext, fun s => ⟨s, rfl⟩, ?_⟩
  obtain rfl : found = false := by
    rw [← Bool.not_eq_true, hfound]
    rintro ⟨places, hplaces⟩
    obtain ⟨q, hstands⟩ := hplaces.occursIn _ List.mem_cons_self
    have hinText := hstands.inText
    have hlong : "a".toList.length < (Value.pattern p).toText.toList.length := by decide
    exact absurd (Nat.le_trans (Nat.le_add_left _ q) hinText) (Nat.not_le.mpr hlong)
  exact hgives

end Builtin

end Trigger
