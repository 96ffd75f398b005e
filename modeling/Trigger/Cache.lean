/-!
# A cache with a bound

What has been made for a key is kept for the next time the key is asked for. Where there is a
bound, a new entry takes the place of the oldest one. What could not be made is not kept, so that
it is tried again. The cache counts how often something was found and not found, made and not made.
-/

namespace Trigger

/-- How often something was found and not found, made and not made. -/
structure CacheCounts where
  hits : Nat := 0
  misses : Nat := 0
  compiles : Nat := 0
  failures : Nat := 0
deriving DecidableEq, Repr

/-- Entries by key, oldest first, with a bound on their number; zero stands for no bound. -/
structure Cache (κ α : Type) where
  bound : Nat := 0
  entries : List (κ × α) := []
  counts : CacheCounts := {}

namespace Cache

variable {κ α ε : Type} [BEq κ]

/-- The number of entries. -/
def size (c : Cache κ α) : Nat := c.entries.length

/-- What is kept for a key. -/
def get? (c : Cache κ α) (key : κ) : Option α := c.entries.lookup key

/-- Whether something is kept for a key. -/
def contains (c : Cache κ α) (key : κ) : Bool := (c.get? key).isSome

/-- The entries that stay when a new one is added. -/
def room (c : Cache κ α) : List (κ × α) :=
  if 0 < c.bound && c.bound ≤ c.size then c.entries.drop 1 else c.entries

/-- What is kept for a key, or else what is made for it now. -/
def getOrMake (c : Cache κ α) (key : κ) (make : κ → Except ε α) : Except ε α × Cache κ α :=
  match c.get? key with
  | some a => (.ok a, { c with counts := { c.counts with hits := c.counts.hits + 1 } })
  | none =>
    let misses := c.counts.misses + 1
    match make key with
    | .ok a =>
      (.ok a, { c with
        entries := c.room ++ [(key, a)]
        counts := { c.counts with misses, compiles := c.counts.compiles + 1 } })
    | .error e =>
      (.error e, { c with counts := { c.counts with misses, failures := c.counts.failures + 1 } })

/-- The number of entries, and the cache without them. -/
def clear (c : Cache κ α) : Nat × Cache κ α := (c.size, { c with entries := [] })

end Cache

end Trigger
