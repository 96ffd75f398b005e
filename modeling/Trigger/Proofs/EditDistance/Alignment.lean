/-!
# Edits and alignments

A script turns one text into another by inserting, deleting and replacing single characters, at any
positions and in any order. An alignment goes through both texts once, from the left to the right,
and costs the number of characters that it does not keep. One edit is an alignment of cost one, and
alignments can be put together at the sum of their costs. Hence for every script there is an
alignment that costs no more than the script is long, and every alignment gives such a script.
-/

namespace Trigger.Similarity

/-- A change of one character of a text at a position. -/
inductive Edit where
  | insert (i : Nat) (c : Char)
  | delete (i : Nat)
  | replace (i : Nat) (c : Char)
deriving DecidableEq, Repr

/-- The text after an edit, if the text has its position. -/
def Edit.run? : Edit → List Char → Option (List Char)
  | .insert i c, s => if i ≤ s.length then some (s.insertIdx i c) else none
  | .delete i, s => if i < s.length then some (s.eraseIdx i) else none
  | .replace i c, s => if i < s.length then some (s.set i c) else none

/-- The text after edits, one after the other. -/
def runAll? : List Edit → List Char → Option (List Char)
  | [], s => some s
  | e :: script, s => (e.run? s).bind (runAll? script)

/-- Two texts with an alignment that costs no more than a number. -/
inductive Aligned : List Char → List Char → Nat → Prop
  | nil (n : Nat) : Aligned [] [] n
  | keep {a b : List Char} {n : Nat} (c : Char) (h : Aligned a b n) : Aligned (c :: a) (c :: b) n
  | replace {a b : List Char} {n : Nat} (c d : Char) (h : Aligned a b n) :
      Aligned (c :: a) (d :: b) (n + 1)
  | insert {a b : List Char} {n : Nat} (d : Char) (h : Aligned a b n) : Aligned a (d :: b) (n + 1)
  | delete {a b : List Char} {n : Nat} (c : Char) (h : Aligned a b n) : Aligned (c :: a) b (n + 1)

variable {a b s t : List Char} {m n : Nat}

/-! ## Alignments -/

namespace Aligned

/-- A text is aligned with itself at no cost. -/
theorem refl (n : Nat) : (a : List Char) → Aligned a a n
  | [] => .nil n
  | c :: a => .keep c (refl n a)

/-- All characters of a text are inserted. -/
theorem nil_left : (b : List Char) → Aligned [] b b.length
  | [] => .nil 0
  | d :: b => .insert d (nil_left b)

/-- All characters of a text are deleted. -/
theorem nil_right : (a : List Char) → Aligned a [] a.length
  | [] => .nil 0
  | c :: a => .delete c (nil_right a)

/-- What is aligned at a cost is so at any greater one. -/
theorem add_right (h : Aligned a b n) (k : Nat) : Aligned a b (k + n) := by
  induction h with
  | nil n => exact .nil (k + n)
  | keep c _ ih => exact .keep c ih
  | replace c d _ ih => exact .replace c d ih
  | insert d _ ih => exact .insert d ih
  | delete c _ ih => exact .delete c ih

/-- What is aligned at a cost is so at any greater one. -/
theorem mono (h : Aligned a b m) (hmn : m ≤ n) : Aligned a b n :=
  Nat.sub_add_cancel hmn ▸ h.add_right (n - m)

/-- Of two costs, the lower one is enough. -/
theorem min (h : Aligned a b m) (h' : Aligned a b n) : Aligned a b (min m n) := by
  rcases Nat.le_total m n with hmn | hmn
  · rwa [Nat.min_eq_left hmn]
  · rwa [Nat.min_eq_right hmn]

/-- One alignment behind another. -/
theorem append {a' b' : List Char} (h : Aligned a b m) (h' : Aligned a' b' n) :
    Aligned (a ++ a') (b ++ b') (n + m) := by
  induction h with
  | nil m => exact h'.mono (Nat.le_add_right n m)
  | keep c _ ih => exact .keep c ih
  | replace c d _ ih => exact .replace c d ih
  | insert d _ ih => exact .insert d ih
  | delete c _ ih => exact .delete c ih

/-- An alignment read from the right to the left. -/
theorem reverse (h : Aligned a b n) : Aligned a.reverse b.reverse n := by
  induction h with
  | nil n => exact .nil n
  | keep c _ ih => simpa using ih.append (.keep c (.nil 0))
  | replace c d _ ih => simpa [Nat.add_comm] using ih.append (.replace c d (.nil 0))
  | insert d _ ih => simpa [Nat.add_comm] using ih.append (.insert d (.nil 0))
  | delete c _ ih => simpa [Nat.add_comm] using ih.append (.delete c (.nil 0))

/-- Reading both texts from the right to the left makes no difference. -/
theorem reverse_iff : Aligned a.reverse b.reverse n ↔ Aligned a b n :=
  ⟨fun h => by simpa using h.reverse, reverse⟩

/-- Every character that the second text has more was inserted. -/
theorem length_le_add (h : Aligned a b n) : b.length ≤ a.length + n := by
  induction h with
  | nil n => exact Nat.zero_le _
  | _ => simp only [List.length_cons]; omega

/-- Every character that the first text has more was deleted. -/
theorem length_le_add' (h : Aligned a b n) : a.length ≤ b.length + n := by
  induction h with
  | nil n => exact Nat.zero_le _
  | _ => simp only [List.length_cons]; omega

/-- An alignment of a text that is not empty inserts some characters and then keeps, replaces or
deletes the first one. -/
theorem cons_induction {x : Char} {P : List Char → Nat → Prop} (h : Aligned (x :: s) b n)
    (insert : ∀ {b n} d, P b n → P (d :: b) (n + 1))
    (keep : ∀ {b n}, Aligned s b n → P (x :: b) n)
    (replace : ∀ {b n} d, Aligned s b n → P (d :: b) (n + 1))
    (delete : ∀ {b n}, Aligned s b n → P b (n + 1)) : P b n := by
  generalize hxs : x :: s = xs at h
  induction h with
  | nil n => cases hxs
  | keep c h => cases hxs; exact keep h
  | replace c d h => cases hxs; exact replace d h
  | insert d _ ih => exact insert d (ih hxs)
  | delete c h => cases hxs; exact delete h

/-- Alignments are put together at the sum of their costs. A character that the first one inserts
may be deleted by the second one, and a replaced one replaced again. -/
theorem trans (h : Aligned a s m) (h' : Aligned s b n) : Aligned a b (m + n) := by
  induction h generalizing b n with
  | nil m => exact h'.add_right m
  | delete c _ ih => exact (delete c (ih h')).mono (by omega)
  | @keep _ _ m c _ ih =>
    exact h'.cons_induction (P := fun b n => Aligned _ b (m + n)) (fun d h => insert d h)
      (fun h => keep c (ih h)) (fun d h => replace c d (ih h)) (fun h => delete c (ih h))
  | @replace _ _ m c _ _ ih =>
    exact h'.cons_induction (P := fun b n => Aligned _ b (m + 1 + n)) (fun d h => insert d h)
      (fun h => (replace c _ (ih h)).mono (by omega))
      (fun d h => (replace c d (ih h)).mono (by omega))
      (fun h => (delete c (ih h)).mono (by omega))
  | @insert _ _ m _ _ ih =>
    exact h'.cons_induction (P := fun b n => Aligned _ b (m + 1 + n)) (fun d h => insert d h)
      (fun h => (insert _ (ih h)).mono (by omega))
      (fun d h => (insert d (ih h)).mono (by omega))
      (fun h => (ih h).mono (by omega))

end Aligned

/-! ## Scripts -/

namespace Edit

/-- The same edit of a text with one more character in front. -/
def shift : Edit → Edit
  | .insert i c => .insert (i + 1) c
  | .delete i => .delete (i + 1)
  | .replace i c => .replace (i + 1) c

/-- A shifted edit keeps the first character. -/
theorem run?_shift (e : Edit) (c : Char) (s : List Char) :
    e.shift.run? (c :: s) = (e.run? s).map (c :: ·) := by
  cases e with
  | insert i d => by_cases h : i ≤ s.length <;> simp [shift, run?, h]
  | delete i => by_cases h : i < s.length <;> simp [shift, run?, h]
  | replace i d => by_cases h : i < s.length <;> simp [shift, run?, h]

/-- The empty text has no position for a shifted edit. -/
theorem run?_shift_nil (e : Edit) : e.shift.run? [] = none := by
  cases e <;> simp [shift, run?]

/-- An edit stands at the first position or is a shifted one. -/
theorem front_cases {P : Edit → Prop} (insert : ∀ c, P (.insert 0 c)) (delete : P (.delete 0))
    (replace : ∀ c, P (.replace 0 c)) (shift : ∀ e : Edit, P e.shift) (e : Edit) : P e := by
  cases e with
  | insert i c =>
    cases i with
    | zero => exact insert c
    | succ i => exact shift (.insert i c)
  | delete i =>
    cases i with
    | zero => exact delete
    | succ i => exact shift (.delete i)
  | replace i c =>
    cases i with
    | zero => exact replace c
    | succ i => exact shift (.replace i c)

/-- A text is aligned with what an edit makes of it at a cost of one. -/
theorem aligned {e : Edit} (h : e.run? s = some t) : Aligned s t 1 := by
  induction s generalizing e t with
  | nil =>
    cases e using front_cases with
    | insert c =>
      cases h
      exact .insert c (.nil 0)
    | delete => cases h
    | replace c => cases h
    | shift e =>
      rw [run?_shift_nil] at h
      cases h
  | cons c s ih =>
    cases e using front_cases with
    | insert d =>
      cases h
      exact .insert d (.refl 0 (c :: s))
    | delete =>
      cases h
      exact .delete c (.refl 0 s)
    | replace d =>
      cases h
      exact .replace c d (.refl 0 s)
    | shift e =>
      rw [run?_shift, Option.map_eq_some_iff] at h
      obtain ⟨t, ht, rfl⟩ := h
      exact .keep c (ih ht)

end Edit

/-- Shifted edits keep the first character. -/
theorem runAll?_shift (script : List Edit) (c : Char) (s : List Char) :
    runAll? (script.map .shift) (c :: s) = (runAll? script s).map (c :: ·) := by
  induction script generalizing s with
  | nil => rfl
  | cons e script ih =>
    rw [List.map_cons, runAll?, runAll?, Edit.run?_shift]
    cases e.run? s with
    | none => rfl
    | some t => exact ih t

/-- A text and what a script of at most so many edits makes of it. -/
def Edited (a b : List Char) (n : Nat) : Prop :=
  ∃ script, runAll? script a = some b ∧ script.length ≤ n

namespace Edited

/-- A first character can be kept. -/
theorem keep (h : Edited a b n) (c : Char) : Edited (c :: a) (c :: b) n := by
  obtain ⟨script, hscript, hlength⟩ := h
  refine ⟨script.map .shift, ?_, by rwa [List.length_map]⟩
  rw [runAll?_shift, hscript, Option.map_some]

/-- One more edit comes first. -/
theorem step {e : Edit} (he : e.run? a = some s) (h : Edited s b n) : Edited a b (n + 1) := by
  obtain ⟨script, hscript, hlength⟩ := h
  refine ⟨e :: script, ?_, Nat.succ_le_succ hlength⟩
  rw [runAll?, he, Option.bind_some, hscript]

end Edited

/-- Texts are aligned at a cost if and only if a script of at most so many edits turns one into the
other. -/
theorem edited_iff_aligned : Edited a b n ↔ Aligned a b n := by
  constructor
  · rintro ⟨script, hscript, hlength⟩
    refine Aligned.mono ?_ hlength
    clear hlength
    induction script generalizing a with
    | nil =>
      cases hscript
      exact .refl 0 _
    | cons e script ih =>
      obtain ⟨s, hs, hrest⟩ := Option.bind_eq_some_iff.mp hscript
      exact ((Edit.aligned hs).trans (ih hrest)).mono (Nat.le_of_eq (Nat.add_comm 1 _))
  · intro h
    induction h with
    | nil n => exact ⟨[], rfl, Nat.zero_le n⟩
    | keep c _ ih => exact ih.keep c
    | replace c d _ ih => exact (ih.keep d).step (e := .replace 0 d) rfl
    | insert d _ ih => exact (ih.keep d).step (e := .insert 0 d) rfl
    | delete c _ ih => exact ih.step (e := .delete 0) rfl

end Trigger.Similarity
