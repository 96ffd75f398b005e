import Trigger.Pattern.Reader
import Trigger.Pattern.WholeWord

/-!
# The cache of patterns

Patterns that have been read are kept for the next use, the latest used first and at most 256 of
them. An entry is found again by the pattern text and by the modes as they were asked for, so the
same pattern asked for without modes and with an empty list of them has two entries. A text that is
refused is counted as a miss and not kept.

A kept pattern is always the one that its key stands for, so nothing but speed depends on what is
kept.
-/

namespace Trigger

/-- What a cached pattern is found by: its text, and the letters of its modes if they were given. -/
structure PatternKey where
  source : String
  modes : Option String
deriving DecidableEq, Repr

/-- The pattern that a key stands for. -/
def PatternKey.read (key : PatternKey) : Except PatternError Pattern :=
  Pattern.read key.source (.ofLetters (key.modes.getD ""))

/-- Patterns that have been read, latest used first, and how often one was found or not. -/
structure PatternCache where
  entries : List (PatternKey × Pattern) := []
  hits : Nat := 0
  misses : Nat := 0
  /-- What is kept is what would be read. -/
  sound : ∀ entry ∈ entries, entry.1.read = .ok entry.2 := by
    exact fun _ h => absurd h List.not_mem_nil

namespace PatternCache

/-- The greatest number of patterns that are kept. -/
def limit : Nat := 256

/-- What is found for a key is what the key stands for. -/
theorem read_of_lookup (cache : PatternCache) {key : PatternKey} {p : Pattern}
    (h : cache.entries.lookup key = some p) : key.read = .ok p := by
  obtain ⟨before, after, hentries, -⟩ := List.lookup_eq_some_iff.mp h
  exact cache.sound (key, p) (by rw [hentries]; simp)

/-- The cache with a pattern in front that was there already. -/
def promote (cache : PatternCache) (key : PatternKey) (p : Pattern) (h : key.read = .ok p) :
    PatternCache where
  entries := (key, p) :: cache.entries.filter (·.1 != key)
  hits := cache.hits + 1
  misses := cache.misses
  sound := by
    rw [List.forall_mem_cons]
    exact ⟨h, fun entry hentry => cache.sound entry (List.mem_filter.mp hentry).1⟩

/-- The cache with a new pattern in front. -/
def add (cache : PatternCache) (key : PatternKey) (p : Pattern) (h : key.read = .ok p) :
    PatternCache where
  entries := ((key, p) :: cache.entries).take limit
  hits := cache.hits
  misses := cache.misses + 1
  sound := by
    have hall : ∀ entry ∈ (key, p) :: cache.entries, entry.1.read = .ok entry.2 := by
      rw [List.forall_mem_cons]
      exact ⟨h, cache.sound⟩
    exact fun entry hentry => hall entry (List.mem_of_mem_take hentry)

/-- The pattern that a key stands for: the one that is kept, which becomes the latest used, or a
new one, which is added. -/
def readKey (cache : PatternCache) (key : PatternKey) :
    Except PatternError Pattern × PatternCache :=
  match hfound : cache.entries.lookup key with
  | some p => (.ok p, cache.promote key p (cache.read_of_lookup hfound))
  | none =>
    match hread : key.read with
    | .ok p => (.ok p, cache.add key p hread)
    | .error e => (.error e, { cache with misses := cache.misses + 1 })

/-- What is read does not depend on what is kept. -/
theorem readKey_fst (cache : PatternCache) (key : PatternKey) :
    (cache.readKey key).1 = key.read := by
  unfold readKey
  split
  · rename_i p hfound
    exact (cache.read_of_lookup hfound).symm
  · split
    · rename_i p hread
      exact hread.symm
    · rename_i e hread
      exact hread.symm

/-- The pattern that a text stands for in the modes named by letters. -/
def read (cache : PatternCache) (source : String) (modes : Option String) :
    Except PatternError Pattern × PatternCache :=
  cache.readKey ⟨source, modes⟩

/-- The pattern of a term as a whole word. Its text has an entry like any other pattern. -/
def wholeWord (cache : PatternCache) (term : List Char) : Pattern × PatternCache :=
  let p := Pattern.wholeWord term
  (p, (cache.read p.source (some "i")).2)

end PatternCache

end Trigger
