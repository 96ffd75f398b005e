import Trigger.Text.Case

/-!
# Similarity of texts

The edit distance of two texts is the least number of characters to insert, delete or replace that
turns one into the other. Their similarity is one minus the distance divided by the greater length,
so that equal texts have similarity one and texts without a common character have zero.

Distances are computed in a table with a row for each start of the first text and a place in it for
each start of the second one. Only two rows are kept: the one that was filled last, and the one that
is filled next, in which old numbers are written over from the left to the right.
-/

namespace Trigger.Similarity

/-- A row of distances to the starts of a text of `n` characters, from the empty one on. -/
abbrev Row (n : Nat) := Vector Nat (n + 1)

/-- Fills a row behind its place `j`, for the characters of the second text that are left. The row
above it belongs to the first text without its last character `c`. -/
def fill {n : Nat} (c : Char) (above : Row n) :
    (b : List Char) → (j : Nat) → j + b.length = n → Row n → Row n
  | [], _, _, row => row
  | d :: b, j, h, row =>
    have hj : j < n := by simp only [List.length_cons] at h; omega
    let deleted := above[j + 1] + 1
    let inserted := row[j] + 1
    let replaced := above[j] + if c = d then 0 else 1
    fill c above b (j + 1) (by simp only [List.length_cons] at h; omega)
      (row.set (j + 1) (min (min deleted inserted) replaced))

/-- The two rows that are kept. -/
structure Rows (n : Nat) where
  /-- The row that was filled last. -/
  last : Row n
  /-- The row that is filled next, whatever numbers stand in it. -/
  spare : Row n

namespace Rows

/-- The rows for the empty start of the first text. -/
def start (n : Nat) : Rows n := ⟨.range (n + 1), .replicate (n + 1) 0⟩

/-- The rows behind the `i`-th character of the first text: the spare row is filled, and the two
change places. -/
def next (b : List Char) (i : Nat) (c : Char) (rows : Rows b.length) : Rows b.length :=
  ⟨fill c rows.last b 0 (Nat.zero_add _) (rows.spare.set 0 i), rows.last⟩

/-- The rows behind the characters of the first text from the `i`-th on. -/
def through (b : List Char) : (a : List Char) → (i : Nat) → Rows b.length → Rows b.length
  | [], _, rows => rows
  | c :: a, i, rows => through b a (i + 1) (rows.next b i c)

end Rows

/-- The edit distance of two texts. Of equal texts, and where one of them is empty, it is known
without a table. -/
def distance (a b : List Char) : Nat :=
  if a = b then 0
  else if a.isEmpty then b.length
  else if b.isEmpty then a.length
  else ((Rows.start b.length).through b a 1).last[b.length]

/-- The similarity of two texts. -/
def similarity (a b : List Char) : Float :=
  let m := max a.length b.length
  if m = 0 then 1.0 else 1.0 - Float.ofNat (distance a b) / Float.ofNat m

/-- Whether two texts, without regard to case, are at least as similar as a threshold. -/
def isClose (s t : List Char) (threshold : Float) : Bool :=
  threshold ≤ similarity (Text.lower s) (Text.lower t)

/-- The candidate most similar to a target without regard to case, if one reaches a threshold, and
its similarity. The first one of equals is taken. -/
def best {α : Type} (textOf : α → List Char) (target : List Char) (threshold : Float)
    (candidates : List α) : Option (α × Float) :=
  candidates.foldl (fun found candidate =>
    let score := similarity (Text.lower (textOf candidate)) (Text.lower target)
    let record := (found.map (·.2)).getD (-1.0)
    if threshold ≤ score && record < score then some (candidate, score) else found) none

end Trigger.Similarity
