import Trigger.Proofs.Methods.Search

/-!
# Strings in pieces

A string that is split and joined again with the same separator is the string itself. An undefined
separator leaves the string in one piece, with nothing to be joined, and an empty one leaves its
characters, which are joined with nothing. Of other separators only the text matters. It is not
contained in any piece, even where occurrences of it overlap in the string.
-/

namespace Trigger

variable {d : Value}

/-! ## Pieces -/

/-- The characters of a text without anything between them are the text. -/
theorem Text.join_characters (s : List Char) : join [] (s.map fun c => [c]) = s := by
  induction s with
  | nil => rfl
  | cons c rest ih =>
    cases rest with
    | nil => rfl
    | cons => rw [List.map_cons, join_cons (by simp), ih, List.append_nil, List.singleton_append]

/-- The texts of strings are their characters. -/
theorem Value.itemTexts_map_str (texts : List String) :
    itemTexts (texts.map .str) = texts.map String.toList := by
  induction texts with
  | nil => rfl
  | cons text rest ih =>
    rw [List.map_cons, itemTexts, ih]
    rfl

namespace StringMethod

/-- The pieces between the occurrences of a value that is neither undefined nor a pattern depend on
its text. -/
theorem pieces_eq (hundefined : d ≠ .undefined) (hpattern : ∀ p, d ≠ .pattern p) (s : String) :
    pieces s d =
      if d.toText.toList.isEmpty then s.toList.map Value.ofChar
      else (Text.cut d.toText.toList s.toList).map fun piece => .str (String.ofList piece) := by
  cases d with
  | undefined => exact absurd rfl hundefined
  | pattern p => exact absurd rfl (hpattern p)
  | _ => rfl

/-- The pieces of a string that is not cut by a pattern are strings that make up the string again,
with the text of the separator between each two of them, which none of them contains. -/
theorem exists_pieces (hpattern : ∀ p, d ≠ .pattern p) (s : String) :
    ∃ texts : List String, pieces s d = texts.map .str ∧
      Text.join d.toText.toList (texts.map String.toList) = s.toList ∧
      (d.toText ≠ "" → d ≠ .undefined →
        ∀ text ∈ texts, ¬d.toText.toList <:+: text.toList) := by
  by_cases hundefined : d = .undefined
  · subst hundefined
    exact ⟨[s], rfl, rfl, fun _ h => absurd rfl h⟩
  by_cases hempty : d.toText = ""
  · refine ⟨s.toList.map String.singleton, ?_, ?_, fun h => absurd hempty h⟩
    · rw [pieces_eq hundefined hpattern, hempty, List.map_map]
      rfl
    · rw [hempty, String.toList_empty, List.map_map]
      simpa [Function.comp_def] using Text.join_characters s.toList
  · have hseparator : d.toText.toList ≠ [] := fun h => hempty (String.toList_eq_nil_iff.mp h)
    have hcharacters : String.toList ∘ String.ofList = id := funext fun _ => String.toList_ofList
    refine ⟨(Text.cut d.toText.toList s.toList).map String.ofList, ?_, ?_, fun _ _ => ?_⟩
    · rw [pieces_eq hundefined hpattern, if_neg (by simpa using hempty), List.map_map]
      rfl
    · rw [List.map_map, hcharacters, List.map_id, Text.cut, Text.join_cutFrom hseparator]
      simp
    · refine List.forall_mem_map.mpr fun piece hpiece => ?_
      rw [String.toList_ofList]
      exact Text.not_isInfix_of_mem_cutFrom hseparator (fun _ => rfl) Text.isClear_nil piece hpiece

end StringMethod

/-! ## Joining what was split -/

namespace Value

/-- A string that is split at a separator and joined with it is the same string again, and no piece
contains the text of a separator that is neither undefined nor empty. -/
theorem join_split (apply : Value → List Value → Eval Value) (frame : Frame) (s : String)
    (d : Value) (hpattern : ∀ p, d ≠ .pattern p) :
    let split : Expr := .methodCall (str s) "split" [d]
    evaluate apply frame (.call (.member split "join") [.literal d]) = pure (.str s) ∧
    ∃ texts : List String,
      evaluate apply frame split = pure (.ofList (texts.map .str)) ∧
      evaluate apply frame (.methodCall (ofList (texts.map .str)) "join" [d]) = pure (.str s) ∧
      (d.toText ≠ "" → d ≠ .undefined → ∀ text ∈ texts, ¬d.toText.toList <:+: text.toList) := by
  intro split
  obtain ⟨texts, hpieces, htexts, hcontain⟩ := StringMethod.exists_pieces hpattern s
  have hsplit : evaluate apply frame split = pure (.ofList (texts.map .str)) := by
    rw [evaluate_methodCall]
    change pure (ofList (StringMethod.pieces s d)) = _
    rw [hpieces]
  have hjoin : (ofList (texts.map .str)).invoke apply frame "join" [d] = pure (.str s) := by
    change pure (str (ListMethod.joined d.toText (texts.map .str))) = _
    rw [ListMethod.joined, itemTexts_map_str, htexts, String.ofList_toList]
  refine ⟨?_, texts, hsplit, ?_, hcontain⟩
  · exact (evaluate_method hsplit (evaluateAll_literals [d]) "join").trans hjoin
  · rw [evaluate_methodCall, hjoin]

/-- A string in which the text of the separator, which is a number, overlaps itself. -/
theorem join_split_overlapping :
    let host : Host := .standard fun _ _ => .ok .null
    let frame : Frame := { around := { text := "", scopes := [], subject := .undefined, host } }
    let apply := callFunction host
    let split : Expr := .methodCall (str "1111x111") "split" [int 11]
    (∀ p, int 11 ≠ pattern p) ∧ (int 11).toText ≠ "" ∧ int 11 ≠ .undefined ∧
    evaluate apply frame (.call (.member split "join") [.literal (.int 11)]) =
      pure (.str "1111x111") ∧
    ∃ texts : List String,
      evaluate apply frame split = pure (ofList (texts.map .str)) ∧
      ∀ text ∈ texts, ¬(int 11).toText.toList <:+: text.toList := by
  intro host frame apply split
  have hpattern (p : Pattern) : int 11 ≠ pattern p := by simp
  have htext : (int 11).toText ≠ "" := by decide
  obtain ⟨hboth, texts, hsplit, -, hcontain⟩ := join_split apply frame "1111x111" (int 11) hpattern
  exact ⟨hpattern, htext, by simp, hboth, texts, hsplit, hcontain htext (by simp)⟩

end Value

end Trigger
