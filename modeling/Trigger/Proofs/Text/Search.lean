import Trigger.Text.Search
import Mathlib.Order.Bounds.Basic

/-!
# What is found in a text and cut out of it

A text is found at the least position where it stands, and nowhere exactly if it is no part. The
pieces of a text between the occurrences of a separator make up the text again, with the separator
between each two of them. None of them contains the separator, since an occurrence that starts in a
piece would have been found there, even where it goes on behind the piece.
-/

namespace Trigger.Text

variable {c : Char} {needle separator piece s : List Char} {n : ℕ}

/-! ## Search -/

/-- A text stands in another one with so many characters in front of it. -/
def StandsAt (needle s : List Char) (n : ℕ) : Prop :=
  ∃ front back, front.length = n ∧ front ++ needle ++ back = s

/-- What stands somewhere is a part. -/
theorem exists_standsAt_iff : (∃ n, StandsAt needle s n) ↔ needle <:+: s :=
  ⟨fun ⟨_, front, back, _, h⟩ => ⟨front, back, h⟩, fun ⟨front, back, h⟩ => ⟨_, front, back, rfl, h⟩⟩

/-- What stands at the start is what the text starts with. -/
theorem standsAt_zero : StandsAt needle s 0 ↔ needle <+: s := by
  constructor
  · rintro ⟨front, back, hfront, h⟩
    obtain rfl := List.length_eq_zero_iff.mp hfront
    exact ⟨back, h⟩
  · rintro ⟨back, h⟩
    exact ⟨[], back, rfl, h⟩

/-- What stands behind the first character stands in the rest. -/
theorem standsAt_succ : StandsAt needle (c :: s) (n + 1) ↔ StandsAt needle s n := by
  constructor
  · rintro ⟨front, back, hfront, h⟩
    obtain ⟨d, front, rfl⟩ := List.exists_cons_of_length_eq_add_one hfront
    exact ⟨front, back, Nat.succ.inj hfront, (List.cons.inj h).2⟩
  · rintro ⟨front, back, rfl, rfl⟩
    exact ⟨c :: front, back, rfl, rfl⟩

/-- What stands behind a text stands in what comes behind it. -/
theorem standsAt_append : StandsAt needle (piece ++ s) piece.length ↔ StandsAt needle s 0 := by
  induction piece with
  | nil => exact Iff.rfl
  | cons c piece ih => exact standsAt_succ.trans ih

/-- A text is found where it is a part, and only there. -/
theorem contains_iff_isInfix : contains needle s = true ↔ needle <:+: s := by
  unfold contains
  induction s with
  | nil => simp [find?]
  | cons c s ih =>
    rw [find?, List.infix_cons_iff, ← ih, ← List.isPrefixOf_iff_prefix]
    by_cases hstarts : needle.isPrefixOf (c :: s) = true <;> simp [hstarts]

/-- A text is found at the least position where it stands. -/
theorem isLeast_of_find? (h : find? needle s = some n) : IsLeast {n | StandsAt needle s n} n := by
  induction s generalizing n with
  | nil =>
    cases needle with
    | nil => cases h; exact ⟨standsAt_zero.mpr List.nil_prefix, fun m _ => Nat.zero_le m⟩
    | cons => cases h
  | cons c s ih =>
    rw [find?] at h
    split at h
    case isTrue hstarts =>
      cases h
      exact ⟨standsAt_zero.mpr (List.isPrefixOf_iff_prefix.mp hstarts), fun m _ => Nat.zero_le m⟩
    case isFalse hstarts =>
      obtain ⟨m, hm, rfl⟩ := Option.map_eq_some_iff.mp h
      obtain ⟨hstands, hleast⟩ := ih hm
      refine ⟨standsAt_succ.mpr hstands, fun k hk => ?_⟩
      cases k with
      | zero => exact absurd (List.isPrefixOf_iff_prefix.mpr (standsAt_zero.mp hk)) hstarts
      | succ k => exact Nat.succ_le_succ (hleast (standsAt_succ.mp hk))

/-! ## Pieces -/

/-- There is at least one piece. -/
theorem cutFrom_ne_nil (separator piece : List Char) (skip : ℕ) (s : List Char) :
    cutFrom separator piece skip s ≠ [] := by
  induction s generalizing skip piece with
  | nil => cases skip <;> simp [cutFrom]
  | cons c s ih =>
    cases skip with
    | zero =>
      rw [cutFrom]
      split
      · exact List.cons_ne_nil _ _
      · exact ih _ _
    | succ skip => exact ih _ _

/-- A first piece is put together with the others. -/
theorem join_cons {pieces : List (List Char)} (h : pieces ≠ []) :
    join separator (piece :: pieces) = piece ++ separator ++ join separator pieces := by
  cases pieces with
  | nil => exact absurd rfl h
  | cons => rfl

/-- The pieces put together are the characters that were passed and those that are not to be passed
over. -/
theorem join_cutFrom (hseparator : separator ≠ []) (piece : List Char) (skip : ℕ) (s : List Char) :
    join separator (cutFrom separator piece skip s) = piece.reverse ++ s.drop skip := by
  induction s generalizing skip piece with
  | nil => cases skip <;> simp [cutFrom, join]
  | cons c s ih =>
    cases skip with
    | succ skip => exact ih _ _
    | zero =>
      rw [cutFrom]
      split
      case isTrue hstarts =>
        obtain ⟨back, hback⟩ := List.isPrefixOf_iff_prefix.mp hstarts
        obtain ⟨d, rest, rfl⟩ := List.exists_cons_of_ne_nil hseparator
        obtain ⟨rfl, rfl⟩ := List.cons.inj hback
        rw [join_cons (cutFrom_ne_nil _ _ _ _), ih]
        simp
      case isFalse => simp [ih]

/-- The separator does not stand at any place in a piece, if need be together with what comes
behind. -/
def IsClear (separator piece s : List Char) : Prop :=
  ∀ n < piece.length, ¬StandsAt separator (piece ++ s) n

/-- An empty piece is clear. -/
theorem isClear_nil : IsClear separator [] s := fun n hn => absurd hn (Nat.not_lt_zero n)

/-- A clear piece does not contain the separator. -/
theorem IsClear.not_isInfix (h : IsClear separator piece s) (hseparator : separator ≠ []) :
    ¬separator <:+: piece := by
  rintro ⟨front, back, rfl⟩
  have hlength : 0 < separator.length := List.length_pos_iff.mpr hseparator
  refine h front.length ?_ ⟨front, back ++ s, rfl, by simp⟩
  simp only [List.length_append]
  omega

/-- A character at which the separator does not stand leaves a piece clear. -/
theorem IsClear.snoc (h : IsClear separator piece (c :: s)) (hstarts : ¬separator <+: c :: s) :
    IsClear separator (piece ++ [c]) s := by
  intro n hn hstands
  rw [List.append_assoc, List.singleton_append] at hstands
  rw [List.length_append, List.length_singleton, Nat.lt_succ_iff] at hn
  rcases Nat.lt_or_eq_of_le hn with hlt | rfl
  · exact h n hlt hstands
  · exact hstarts (standsAt_zero.mp (standsAt_append.mp hstands))

/-- No piece contains the separator. -/
theorem not_isInfix_of_mem_cutFrom (hseparator : separator ≠ []) {skip : ℕ}
    (hskip : skip ≠ 0 → piece = []) (hclear : IsClear separator piece.reverse s) :
    ∀ q ∈ cutFrom separator piece skip s, ¬separator <:+: q := by
  induction s generalizing skip piece with
  | nil =>
    have hcut : cutFrom separator piece skip [] = [piece.reverse] := by cases skip <;> rfl
    rw [hcut]
    exact List.forall_mem_singleton.mpr (hclear.not_isInfix hseparator)
  | cons c s ih =>
    have hrest (skip : ℕ) : ∀ q ∈ cutFrom separator [] skip s, ¬separator <:+: q :=
      ih (fun _ => rfl) isClear_nil
    cases skip with
    | succ skip =>
      obtain rfl := hskip (Nat.succ_ne_zero skip)
      exact hrest skip
    | zero =>
      rw [cutFrom]
      split
      case isTrue =>
        exact List.forall_mem_cons.mpr ⟨hclear.not_isInfix hseparator, hrest _⟩
      case isFalse hstarts =>
        refine ih (fun h => absurd rfl h) ?_
        rw [List.reverse_cons]
        exact hclear.snoc fun h => hstarts (List.isPrefixOf_iff_prefix.mpr h)

/-! ## Separators of one character -/

/-- A text in which the separator does not stand is a single piece. -/
theorem cutFrom_of_not_mem (h : c ∉ s) : cutFrom [c] piece 0 s = [piece.reverse ++ s] := by
  induction s generalizing piece with
  | nil => simp [cutFrom]
  | cons d s ih =>
    rw [List.mem_cons, not_or] at h
    have hd : List.isPrefixOf [c] (d :: s) = false := by simp [List.isPrefixOf, h.1]
    rw [cutFrom, hd, if_neg Bool.false_ne_true, ih h.2, List.reverse_cons, List.append_assoc,
      List.singleton_append]

/-- Two texts with a separator between them are cut each on its own. -/
theorem cutFrom_singleton_append (c : Char) (piece front back : List Char) :
    cutFrom [c] piece 0 (front ++ c :: back) =
      cutFrom [c] piece 0 front ++ cutFrom [c] [] 0 back := by
  induction front generalizing piece with
  | nil =>
    rw [List.nil_append, cutFrom, cutFrom, if_pos (by simp [List.isPrefixOf])]
    rfl
  | cons d front ih =>
    have hprefix (rest : List Char) : List.isPrefixOf [c] (d :: rest) = (c == d) := by
      simp [List.isPrefixOf]
    rw [List.cons_append, cutFrom, cutFrom, hprefix, hprefix]
    split
    · rw [List.length_singleton, Nat.sub_self, ih, List.cons_append]
    · exact ih _

end Trigger.Text
