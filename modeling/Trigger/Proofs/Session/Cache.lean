import Trigger.Cache

/-!
# Sound caches

A cache is sound if everything in it is what would be made for its key now. Looking something up,
making it, dropping the oldest entry and emptying the cache all keep a cache sound, and what a
sound cache gives for a key is what would be made for it without a cache.
-/

namespace Trigger.Cache

variable {κ α β ε : Type} (look : α → β) (meaning : κ → Except ε β)

/-- Every entry looks like what is meant by its key. -/
def Sound (c : Cache κ α) : Prop := ∀ entry ∈ c.entries, meaning entry.1 = .ok (look entry.2)

variable {look meaning}

/-- A cache without entries is sound. -/
theorem sound_of_entries_eq_nil {c : Cache κ α} (h : c.entries = []) : c.Sound look meaning := by
  intro entry hentry
  rw [h] at hentry
  exact absurd hentry List.not_mem_nil

/-- Soundness is about the entries alone. -/
theorem Sound.of_entries_subset {c c' : Cache κ α} (h : c.Sound look meaning)
    (hsubset : ∀ entry ∈ c'.entries, entry ∈ c.entries) : c'.Sound look meaning :=
  fun entry hentry => h entry (hsubset entry hentry)

/-- The entries that stay for a new one are entries. -/
theorem mem_of_mem_room {c : Cache κ α} {entry : κ × α} (h : entry ∈ c.room) :
    entry ∈ c.entries := by
  unfold room at h
  split at h
  · exact List.mem_of_mem_drop h
  · exact h

variable [BEq κ] {c : Cache κ α} {key : κ} {make : κ → Except ε α}

/-- A sound cache stays sound when something is looked up, and made where it is missing if that does
not fail. -/
theorem Sound.getOrMake_snd (h : c.Sound look meaning)
    (hmake : ∀ a, make key = .ok a → meaning key = .ok (look a)) :
    (c.getOrMake key make).2.Sound look meaning := by
  unfold getOrMake
  cases hget : c.get? key with
  | some a => exact h.of_entries_subset fun _ hentry => hentry
  | none =>
    dsimp only
    cases hmade : make key with
    | error e => exact h.of_entries_subset fun _ hentry => hentry
    | ok a =>
      intro entry hentry
      obtain hold | hnew := List.mem_append.mp hentry
      · exact h entry (mem_of_mem_room hold)
      · obtain rfl := List.mem_singleton.mp hnew
        exact hmake a hmade

variable [LawfulBEq κ]

/-- What is kept for a key in a sound cache looks like what is meant by the key. -/
theorem Sound.get? (h : c.Sound look meaning) {a : α}
    (hget : c.get? key = some a) : meaning key = .ok (look a) := by
  obtain ⟨before, after, hentries, -⟩ := List.lookup_eq_some_iff.mp hget
  refine h (key, a) ?_
  rw [hentries]
  exact List.mem_append_right _ List.mem_cons_self

/-- What a sound cache gives for a key looks like what is meant by it. -/
theorem Sound.getOrMake_fst (h : c.Sound look meaning)
    (hmake : (make key).map look = meaning key) :
    (c.getOrMake key make).1.map look = meaning key := by
  unfold getOrMake
  cases hget : c.get? key with
  | some a => exact (h.get? hget).symm
  | none =>
    rw [← hmake]
    dsimp only
    cases make key <;> rfl

end Trigger.Cache
