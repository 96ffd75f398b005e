import Trigger.Proofs.EditDistance.Alignment
import Trigger.Similarity

/-!
# The table of distances

The row of a start of the first text holds the least costs of its alignments with the starts of the
second text. A row is right up to the place that was filled last, whatever stood in it before; each
place follows from three right ones, and each row from the one above it. Starts are written from
the right to the left, so that their last characters come first.
-/

namespace Trigger.Similarity

variable {a b p q : List Char} {c d : Char} {x y z n : Nat}

/-- The least cost of the alignments of two texts. -/
structure Least (a b : List Char) (n : Nat) : Prop where
  aligned : Aligned a b n
  le : ∀ {m}, Aligned a b m → n ≤ m

namespace Least

/-- Nothing is changed in a text to get it. -/
theorem refl (a : List Char) : Least a a 0 := ⟨.refl 0 a, fun _ => Nat.zero_le _⟩

/-- All characters have to be inserted into the empty text. -/
theorem nil_left (b : List Char) : Least [] b b.length :=
  ⟨.nil_left b, fun h => by simpa using h.length_le_add⟩

/-- All characters have to be deleted to get the empty text. -/
theorem nil_right (a : List Char) : Least a [] a.length :=
  ⟨.nil_right a, fun h => by simpa using h.length_le_add'⟩

/-- The texts can be read from the right to the left. -/
theorem of_reverse (h : Least a.reverse b.reverse n) : Least a b n :=
  ⟨Aligned.reverse_iff.mp h.aligned, fun hm => h.le hm.reverse⟩

/-- Two texts that are not empty: an alignment deletes the first character of one of them, inserts
that of the other one, or has both in one column. -/
theorem cons_cons (hdelete : Least p (d :: q) x) (hinsert : Least (c :: p) q y)
    (hboth : Least p q z) :
    Least (c :: p) (d :: q) (min (min (x + 1) (y + 1)) (z + if c = d then 0 else 1)) := by
  have hchange : Aligned (c :: p) (d :: q) (z + if c = d then 0 else 1) := by
    split
    · next hcd => exact hcd ▸ hboth.aligned.keep c
    · exact hboth.aligned.replace c d
  have hone : (if c = d then 0 else 1) ≤ 1 := by split <;> omega
  constructor
  · exact ((hdelete.aligned.delete c).min (hinsert.aligned.insert d)).min hchange
  · intro m h
    cases h with
    | keep _ h =>
      have hle := hboth.le h
      rw [if_pos rfl]
      omega
    | replace _ _ h =>
      have hle := hboth.le h
      omega
    | insert _ h =>
      have hle := hinsert.le h
      omega
    | delete _ h =>
      have hle := hdelete.le h
      omega

end Least

/-! ## Rows -/

/-- A row belongs to a text, written from the right to the left, up to the place `k`. -/
def Filled (p b : List Char) (k : Nat) (row : Row b.length) : Prop :=
  ∀ j (hj : j < b.length + 1), j ≤ k → Least p (b.take j).reverse row[j]

/-- The next place of a row follows from the one in front of it and two of the row above. -/
theorem Filled.set {above row : Row b.length} {j : Nat} (habove : Filled p b b.length above)
    (hrow : Filled (c :: p) b j row) (hj : j < b.length) :
    Filled (c :: p) b (j + 1) (row.set (j + 1)
      (min (min (above[j + 1] + 1) (row[j] + 1)) (above[j] + if c = b[j] then 0 else 1))) := by
  intro k hk hkj
  by_cases hlast : j + 1 = k
  · subst hlast
    have htake : (b.take (j + 1)).reverse = b[j] :: (b.take j).reverse := by
      rw [List.take_succ_eq_append_getElem hj, List.reverse_append]
      rfl
    rw [Vector.getElem_set_self, htake]
    refine .cons_cons ?_ (hrow j _ (Nat.le_refl j)) (habove j _ (Nat.le_of_lt hj))
    exact htake ▸ habove (j + 1) hk hj
  · rw [Vector.getElem_set_ne _ _ hlast]
    exact hrow k hk (by omega)

/-- A row that belongs to a text in its first place does so everywhere when it is filled. -/
theorem filled_fill {above row : Row b.length} {rest : List Char} {j : Nat}
    (h : j + rest.length = b.length) (hrest : b.drop j = rest)
    (habove : Filled p b b.length above) (hrow : Filled (c :: p) b j row) :
    Filled (c :: p) b b.length (fill c above rest j h row) := by
  induction rest generalizing j row with
  | nil =>
    have hj : j = b.length := h
    exact hj ▸ hrow
  | cons d rest ih =>
    have hj : j < b.length := by
      simp only [List.length_cons] at h
      omega
    rw [List.drop_eq_getElem_cons hj, List.cons.injEq] at hrest
    obtain ⟨rfl, hrest⟩ := hrest
    exact ih _ hrest (habove.set hrow hj)

namespace Rows

/-- The row that was filled last belongs to a text, written from the right to the left. -/
def Behind (p b : List Char) (rows : Rows b.length) : Prop := Filled p b b.length rows.last

/-- The first row belongs to the empty text. -/
theorem behind_start (b : List Char) : Behind [] b (start b.length) := by
  intro j hj _
  have hlength : (b.take j).reverse.length = j := by
    rw [List.length_reverse, List.length_take]
    omega
  have hplace : (start b.length).last[j] = j := Vector.getElem_range hj
  rw [hplace]
  simpa [hlength] using Least.nil_left (b.take j).reverse

/-- With one more character, the next row belongs to the text, whatever stood in the spare row. -/
theorem Behind.next {rows : Rows b.length} (h : Behind p b rows) (c : Char) :
    Behind (c :: p) b (rows.next b (p.length + 1) c) := by
  refine filled_fill _ rfl h fun j hj hzero => ?_
  obtain rfl : j = 0 := Nat.le_zero.mp hzero
  rw [Vector.getElem_set_self]
  exact Least.nil_right (c :: p)

/-- Behind all characters of a text, the row belongs to the text. -/
theorem Behind.through {rows : Rows b.length} (h : Behind p b rows) (a : List Char) :
    Behind (a.reverse ++ p) b (rows.through b a (p.length + 1)) := by
  induction a generalizing p rows with
  | nil => exact h
  | cons c a ih =>
    rw [List.reverse_cons, List.append_assoc, List.singleton_append, Rows.through]
    exact ih (h.next c)

end Rows

/-! ## The distance -/

/-- The distance of two texts is the least cost of their alignments. -/
theorem least_distance (a b : List Char) : Least a b (distance a b) := by
  unfold distance
  split
  · next heq => exact heq ▸ .refl a
  split
  · next hempty => exact List.isEmpty_iff.mp hempty ▸ .nil_left b
  split
  · next hempty => exact List.isEmpty_iff.mp hempty ▸ .nil_right a
  · have hrow := (Rows.behind_start b).through a b.length (Nat.lt_succ_self _) (Nat.le_refl _)
    rw [List.append_nil, List.take_length] at hrow
    exact hrow.of_reverse

/-- The distance of two texts is the least length of a script that turns the one into the other:
some script is that long, and none is shorter. -/
theorem distance_least_script (a b : List Char) :
    (∃ script, runAll? script a = some b ∧ script.length = distance a b) ∧
      ∀ script, runAll? script a = some b → distance a b ≤ script.length := by
  have hleast := least_distance a b
  have hle (script) (h : runAll? script a = some b) : distance a b ≤ script.length :=
    hleast.le (edited_iff_aligned.mp ⟨script, h, Nat.le_refl _⟩)
  obtain ⟨script, hscript, hlength⟩ := edited_iff_aligned.mpr hleast.aligned
  exact ⟨⟨script, hscript, Nat.le_antisymm hlength (hle script hscript)⟩, hle⟩

example : distance "kitten".toList "sitting".toList = 3 := by decide +kernel

end Trigger.Similarity
