import Mathlib.Data.List.SplitBy
import Trigger.Function.Builtin

/-!
# Runs of word characters

A text is split where word characters and others meet, and the pieces with word characters are kept.
These are the runs of word characters that cannot be made longer on either side.
-/

namespace Trigger

open Trigger.Text

/-- A run of word characters in a text that no word character touches on either side. -/
structure IsWordRun (before run after : List Char) : Prop where
  ne_nil : run ≠ []
  isWord : ∀ c ∈ run, isWord c = true
  behind : ∀ c ∈ before.getLast?, Text.isWord c = false
  ahead : ∀ c ∈ after.head?, Text.isWord c = false

/-- A text has a run of word characters that cannot be made longer. -/
def HasWordRun (text run : List Char) : Prop :=
  ∃ before after, text = before ++ run ++ after ∧ IsWordRun before run after

namespace Builtin

variable {text run : List Char}

/-- Whether two characters are on the same side of a border between words and what is no word. -/
def sameKind (c d : Char) : Bool := Text.isWord c == Text.isWord d

/-- It does not matter which of two characters comes first. -/
theorem sameKind_comm (c d : Char) : sameKind c d = sameKind d c := by
  rw [sameKind, sameKind, Bool.beq_comm]

/-- A character across the border from a word character is none. -/
theorem sameKind_eq_false_iff {c d : Char} (hd : Text.isWord d = true) :
    sameKind c d = false ↔ Text.isWord c = false := by
  rw [sameKind, hd, beq_true]

/-- Characters of which neighbours are of the same kind are all of one kind. -/
theorem sameKind_of_isChain (h : run.IsChain fun c d => sameKind c d = true) :
    ∀ c ∈ run, ∀ d ∈ run, sameKind c d = true := by
  have htrans : Trans (fun c d => sameKind c d = true) (fun c d => sameKind c d = true)
      (fun c d => sameKind c d = true) := ⟨by grind [sameKind]⟩
  have hsymm : Std.Symm (fun c d => sameKind c d = true) := ⟨by grind [sameKind]⟩
  exact fun c hc d hd => h.pairwise.forall_of_forall (fun c _ => by simp [sameKind]) hc hd

/-- A piece with a word character is a run of word characters that cannot be made longer. -/
theorem hasWordRun_of_mem_splitBy (hrun : run ∈ text.splitBy sameKind)
    (hany : run.any Text.isWord = true) : HasWordRun text run := by
  obtain ⟨pieces, others, hsplit⟩ := List.append_of_mem hrun
  have hne := List.ne_nil_of_mem_splitBy hrun
  have hword : ∀ c ∈ run, Text.isWord c = true := by
    obtain ⟨d, hd, hword⟩ := List.any_eq_true.mp hany
    intro c hc
    have hsame := sameKind_of_isChain (List.isChain_of_mem_splitBy hrun) c hc d hd
    rwa [sameKind, hword, beq_true] at hsame
  have htext := List.flatten_splitBy sameKind text
  have hborders := List.isChain_getLast_head_splitBy sameKind text
  rw [hsplit, List.isChain_append, List.isChain_cons] at hborders
  obtain ⟨-, ⟨hahead, -⟩, hbehind⟩ := hborders
  have hwhole : text = pieces.flatten ++ run ++ others.flatten := by
    rw [← htext, hsplit]
    simp
  refine ⟨pieces.flatten, others.flatten, hwhole, hne, hword, ?_, ?_⟩
  · rcases List.eq_nil_or_concat pieces with rfl | ⟨before, last, rfl⟩
    · exact nofun
    obtain ⟨hlast, _, hborder⟩ := hbehind last (by simp) run rfl
    intro c hc
    rw [List.concat_eq_append, List.flatten_concat, List.getLast?_append_of_ne_nil _ hlast,
      List.getLast?_eq_some_getLast hlast] at hc
    obtain rfl := Option.some.inj hc
    exact (sameKind_eq_false_iff (hword _ (List.head_mem hne))).mp hborder
  · rcases others with _ | ⟨next, others⟩
    · exact nofun
    obtain ⟨_, hnext, hborder⟩ := hahead next rfl
    intro c hc
    rw [List.flatten_cons, List.head?_append_of_ne_nil _ hnext, List.head?_eq_some_head hnext] at hc
    obtain rfl := Option.some.inj hc
    rw [sameKind_comm] at hborder
    exact (sameKind_eq_false_iff (hword _ (List.getLast_mem hne))).mp hborder

/-- A text is split on both sides of a run of word characters that cannot be made longer. -/
theorem splitBy_of_isWordRun {before after : List Char} (h : IsWordRun before run after) :
    (before ++ run ++ after).splitBy sameKind =
      before.splitBy sameKind ++ [run] ++ after.splitBy sameKind := by
  have hone : run.splitBy sameKind = [run] := by
    refine List.splitBy_of_isChain h.ne_nil (List.pairwise_of_forall_mem_list ?_).isChain
    intro c hc d hd
    rw [sameKind, h.isWord c hc, h.isWord d hd, beq_self_eq_true]
  have hbehind : ∀ c ∈ before.getLast?, ∀ d ∈ run.head?, sameKind c d = false := fun c hc d hd =>
    (sameKind_eq_false_iff (h.isWord d (List.mem_of_mem_head? hd))).mpr (h.behind c hc)
  have hahead : ∀ c ∈ (before ++ run).getLast?, ∀ d ∈ after.head?, sameKind c d = false := by
    intro c hc d hd
    rw [List.getLast?_append_of_ne_nil _ h.ne_nil] at hc
    rw [sameKind_comm]
    exact (sameKind_eq_false_iff (h.isWord c (List.mem_of_mem_getLast? hc))).mpr (h.ahead d hd)
  rw [List.splitBy_append hahead, List.splitBy_append hbehind, hone]

/-- The tokens of a text are its runs of word characters that cannot be made longer. -/
theorem mem_tokens_iff : run ∈ tokens text ↔ HasWordRun text run := by
  change run ∈ (text.splitBy sameKind).filter _ ↔ _
  rw [List.mem_filter]
  constructor
  · exact fun ⟨hrun, hany⟩ => hasWordRun_of_mem_splitBy hrun hany
  · rintro ⟨before, after, rfl, h⟩
    have hhead := List.head_mem h.ne_nil
    rw [splitBy_of_isWordRun h]
    exact ⟨by simp, List.any_eq_true.mpr ⟨_, hhead, h.isWord _ hhead⟩⟩

end Builtin

end Trigger
