import Mathlib.Data.List.Nodup
import Mathlib.Data.List.Perm.Subperm

/-!
# Entries with distinct keys

In a row of entries the first one with a key is the one that is looked up. Where keys are distinct,
there is no other.
-/

namespace Trigger

variable {κ α : Type} {entries others : List (κ × α)}

section

variable [DecidableEq κ] {key : κ} {a : α}

/-- Where keys are distinct, each has its own entry. -/
theorem lookup_of_mem (hnodup : (entries.map Prod.fst).Nodup) (hmem : (key, a) ∈ entries) :
    entries.lookup key = some a := by
  obtain ⟨before, after, rfl⟩ := List.append_of_mem hmem
  refine List.lookup_eq_some_iff.mpr ⟨before, after, rfl, fun entry hentry => ?_⟩
  rw [List.map_append, List.map_cons, List.nodup_append] at hnodup
  have hne := hnodup.2.2 entry.1 (List.mem_map_of_mem hentry) key List.mem_cons_self
  simpa using hne.symm

/-- An entry with another key is passed over. -/
theorem lookup_cons_of_ne {other : κ} (h : key ≠ other) :
    ((other, a) :: entries).lookup key = entries.lookup key := by
  rw [List.lookup_cons, beq_eq_false_iff_ne.mpr h]

/-- What is looked up is an entry. -/
theorem mem_of_lookup (h : entries.lookup key = some a) : (key, a) ∈ entries := by
  obtain ⟨before, after, rfl, -⟩ := List.lookup_eq_some_iff.mp h
  exact List.mem_append_right _ List.mem_cons_self

end

/-- Of two rows that are equally long and have distinct keys, the keys of one are those of the other
if they are among them. -/
theorem keys_subset_of_subset (hnodup : (entries.map Prod.fst).Nodup)
    (hlength : entries.length = others.length)
    (h : entries.map Prod.fst ⊆ others.map Prod.fst) :
    others.map Prod.fst ⊆ entries.map Prod.fst := by
  have hperm := (List.subperm_of_subset hnodup h).perm_of_length_le (by simp [hlength])
  exact hperm.symm.subset

end Trigger
