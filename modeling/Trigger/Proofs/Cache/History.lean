import Mathlib.Data.List.Induction
import Trigger.Engine
import Trigger.Proofs.Lookup.Entries

/-!
# What a cache holds after a run

A run of a cache is a sequence of calls, and each call leaves an event: something was found, was
made, could not be made, was only looked at, or the cache was emptied. The events of a run determine
the state of the cache: its entries are the latest of what was made since it was last emptied, as
many as the bound allows, and its counts are the numbers of events of each sort.
-/

namespace Trigger

/-- What is done with a cache. -/
inductive CacheCall (κ α ε : Type) where
  | getOrMake (key : κ) (make : κ → Except ε α)
  | get (key : κ)
  | contains (key : κ)
  | size
  | clear

/-- What a call did. -/
inductive CacheEvent (κ α ε : Type) where
  | found (key : κ)
  | made (key : κ) (a : α)
  | failed (key : κ) (error : ε)
  /-- Nothing happened but a look at the cache. -/
  | looked
  | cleared

variable {κ α β ε : Type}

/-- Whether something is asked for that is made where it is missing. -/
def CacheCall.isGetOrMake : CacheCall κ α ε → Bool
  | .getOrMake _ _ => true
  | _ => false

namespace CacheEvent

/-- Whether something was found. -/
def isFound : CacheEvent κ α ε → Bool
  | .found _ => true
  | _ => false

/-- Whether something was made. -/
def isMade : CacheEvent κ α ε → Bool
  | .made _ _ => true
  | _ => false

/-- Whether something could not be made. -/
def isFailed : CacheEvent κ α ε → Bool
  | .failed _ _ => true
  | _ => false

/-- What was made, with its key. -/
def made? : CacheEvent κ α ε → Option (κ × α)
  | .made key a => some (key, a)
  | _ => none

/-- What was made since the cache was last emptied, an event later. -/
def advance (made : List (κ × α)) : CacheEvent κ α ε → List (κ × α)
  | .made key a => made ++ [(key, a)]
  | .cleared => []
  | _ => made

/-- What was made since the cache was last emptied, in order. -/
def madeSinceClear (log : List (CacheEvent κ α ε)) : List (κ × α) := log.foldl advance []

/-- What was made for a key the last time that something was. -/
def latest [BEq κ] (log : List (CacheEvent κ α ε)) (key : κ) : Option α :=
  (log.filterMap made?).reverse.lookup key

variable {log : List (CacheEvent κ α ε)} {event : CacheEvent κ α ε}

/-- An event more. -/
@[simp]
theorem madeSinceClear_concat :
    madeSinceClear (log ++ [event]) = advance (madeSinceClear log) event := by
  simp [madeSinceClear]

/-- What was made since the cache was last emptied is the end of all that was made. -/
theorem madeSinceClear_suffix (log : List (CacheEvent κ α ε)) :
    madeSinceClear log <:+ log.filterMap made? := by
  induction log using List.reverseRecOn with
  | nil => exact List.suffix_refl _
  | append_singleton log event ih =>
    obtain ⟨before, hbefore⟩ := ih
    rw [madeSinceClear_concat, List.filterMap_append, ← hbefore]
    cases event with
    | made key a => exact ⟨before, by simp [advance, made?]⟩
    | cleared => exact List.nil_suffix
    | found _ => exact ⟨before, by simp [advance, made?]⟩
    | failed _ _ => exact ⟨before, by simp [advance, made?]⟩
    | looked => exact ⟨before, by simp [advance, made?]⟩

end CacheEvent

namespace Cache

section

variable [BEq κ]

/-- The cache after a call. -/
def perform (c : Cache κ α) : CacheCall κ α ε → Cache κ α
  | .getOrMake key make => (c.getOrMake key make).2
  | .get _ => c
  | .contains _ => c
  | .size => c
  | .clear => c.clear.2

/-- What a call does. -/
def event (c : Cache κ α) : CacheCall κ α ε → CacheEvent κ α ε
  | .getOrMake key make =>
    if c.contains key then .found key
    else
      match make key with
      | .ok a => .made key a
      | .error e => .failed key e
  | .get _ => .looked
  | .contains _ => .looked
  | .size => .looked
  | .clear => .cleared

/-- The events of calls one after the other, in order, and the cache after them. -/
def run (c : Cache κ α) : List (CacheCall κ α ε) → List (CacheEvent κ α ε) × Cache κ α
  | [] => ([], c)
  | call :: calls =>
    let (log, last) := run (c.perform call) calls
    (c.event call :: log, last)

end

/-- The latest of a list, as many as a bound allows; zero stands for no bound. -/
def within (bound : Nat) (made : List β) : List β :=
  if bound = 0 then made else made.drop (made.length - min bound made.length)

/-- A map does not change which are the latest. -/
theorem map_within {γ : Type} (f : β → γ) (bound : Nat) (made : List β) :
    (within bound made).map f = within bound (made.map f) := by
  unfold within
  split <;> simp

/-- The latest are the end of a list. -/
theorem within_suffix (bound : Nat) (made : List β) : within bound made <:+ made := by
  unfold within
  split
  · exact List.suffix_refl made
  · exact List.drop_suffix _ _

/-- The entries that stay for a new one are entries, in their order. -/
theorem room_sublist (c : Cache κ α) : c.room.Sublist c.entries := by
  unfold room
  split
  · exact List.drop_sublist 1 c.entries
  · exact List.Sublist.refl c.entries

/-- Where the entries are the latest of a list, they still are with one more of both. -/
theorem room_concat {c : Cache κ α} {made : List (κ × α)}
    (hentries : c.entries = within c.bound made)
    (entry : κ × α) : c.room ++ [entry] = within c.bound (made ++ [entry]) := by
  unfold room size
  rw [hentries]
  unfold within
  by_cases hbound : c.bound = 0
  · simp [hbound]
  · simp only [hbound, if_false, List.length_drop, List.length_append, List.length_singleton]
    rw [List.drop_append_of_le_length (by omega)]
    congr 1
    split
    next hfull =>
      simp only [Bool.and_eq_true, decide_eq_true_eq] at hfull
      rw [List.drop_drop]
      congr 1
      omega
    next hfull =>
      simp only [Bool.and_eq_true, decide_eq_true_eq] at hfull
      congr 1
      omega

/-- A key for which nothing is kept has no entry. -/
theorem not_mem_keys_of_get? [DecidableEq κ] {c : Cache κ α} {key : κ} (hget : c.get? key = none) :
    key ∉ c.entries.map Prod.fst := by
  intro hkey
  obtain ⟨entry, hentry, rfl⟩ := List.mem_map.mp hkey
  simpa using List.lookup_eq_none_iff.mp hget entry hentry

/-- A cache is what the events say that led to it. -/
structure History (bound : Nat) (log : List (CacheEvent κ α ε)) (c : Cache κ α) : Prop where
  bound_eq : c.bound = bound
  entries_eq : c.entries = within bound (CacheEvent.madeSinceClear log)
  nodup : (c.entries.map Prod.fst).Nodup
  hits_eq : c.counts.hits = log.countP CacheEvent.isFound
  misses_eq : c.counts.misses = c.counts.compiles + c.counts.failures
  compiles_eq : c.counts.compiles = log.countP CacheEvent.isMade
  failures_eq : c.counts.failures = log.countP CacheEvent.isFailed

namespace History

variable {bound : Nat} {log : List (CacheEvent κ α ε)} {c : Cache κ α}

/-- A new cache has no history. -/
theorem new (bound : Nat) : History bound ([] : List (CacheEvent κ α ε)) { bound := bound } where
  bound_eq := rfl
  entries_eq := by simp [within, CacheEvent.madeSinceClear]
  nodup := List.nodup_nil
  hits_eq := rfl
  misses_eq := rfl
  compiles_eq := rfl
  failures_eq := rfl

/-- Something is found. -/
theorem found (h : History bound log c) (key : κ) :
    History bound (log ++ [.found key])
      { c with counts := { c.counts with hits := c.counts.hits + 1 } } where
  bound_eq := h.bound_eq
  entries_eq := by simpa [CacheEvent.advance] using h.entries_eq
  nodup := h.nodup
  hits_eq := by simp [CacheEvent.isFound, h.hits_eq]
  misses_eq := h.misses_eq
  compiles_eq := by simpa [CacheEvent.isMade] using h.compiles_eq
  failures_eq := by simpa [CacheEvent.isFailed] using h.failures_eq

/-- Something is missing and cannot be made. -/
theorem failed (h : History bound log c) (key : κ) (e : ε) :
    History bound (log ++ [.failed key e])
      { c with counts := { c.counts with
          misses := c.counts.misses + 1, failures := c.counts.failures + 1 } } where
  bound_eq := h.bound_eq
  entries_eq := by simpa [CacheEvent.advance] using h.entries_eq
  nodup := h.nodup
  hits_eq := by simpa [CacheEvent.isFound] using h.hits_eq
  misses_eq := congrArg (· + 1) h.misses_eq
  compiles_eq := by simpa [CacheEvent.isMade] using h.compiles_eq
  failures_eq := by simp [CacheEvent.isFailed, h.failures_eq]

/-- Something is missing and made, and takes the place of the oldest entry in a full cache. -/
theorem made (h : History bound log c) {key : κ} (hkey : key ∉ c.entries.map Prod.fst) (a : α) :
    History bound (log ++ [.made key a])
      { c with
        entries := c.room ++ [(key, a)]
        counts := { c.counts with
          misses := c.counts.misses + 1, compiles := c.counts.compiles + 1 } } where
  bound_eq := h.bound_eq
  entries_eq := by
    obtain ⟨rfl, hentries, -⟩ := h
    rw [CacheEvent.madeSinceClear_concat]
    exact room_concat hentries (key, a)
  nodup := by
    have hroom := c.room_sublist.map Prod.fst
    rw [List.map_append, List.map_singleton, List.nodup_append]
    refine ⟨h.nodup.sublist hroom, List.nodup_singleton key, fun old hold new hnew => ?_⟩
    rw [List.mem_singleton.mp hnew]
    rintro rfl
    exact hkey (hroom.subset hold)
  hits_eq := by simpa [CacheEvent.isFound] using h.hits_eq
  misses_eq := by
    have hmisses := h.misses_eq
    dsimp only
    omega
  compiles_eq := by simp [CacheEvent.isMade, h.compiles_eq]
  failures_eq := by simpa [CacheEvent.isFailed] using h.failures_eq

/-- The cache is looked at. -/
theorem looked (h : History bound log c) : History bound (log ++ [.looked]) c where
  bound_eq := h.bound_eq
  entries_eq := by simpa [CacheEvent.advance] using h.entries_eq
  nodup := h.nodup
  hits_eq := by simpa [CacheEvent.isFound] using h.hits_eq
  misses_eq := h.misses_eq
  compiles_eq := by simpa [CacheEvent.isMade] using h.compiles_eq
  failures_eq := by simpa [CacheEvent.isFailed] using h.failures_eq

/-- The cache is emptied. -/
theorem cleared (h : History bound log c) : History bound (log ++ [.cleared]) c.clear.2 where
  bound_eq := h.bound_eq
  entries_eq := by simp [CacheEvent.advance, clear, within]
  nodup := List.nodup_nil
  hits_eq := by simpa [CacheEvent.isFound, clear] using h.hits_eq
  misses_eq := h.misses_eq
  compiles_eq := by simpa [CacheEvent.isMade, clear] using h.compiles_eq
  failures_eq := by simpa [CacheEvent.isFailed, clear] using h.failures_eq

variable [DecidableEq κ]

/-- Asking for something, and making it where it is missing, goes on with a history. -/
theorem getOrMake (h : History bound log c) (key : κ) (make : κ → Except ε α) :
    History bound (log ++ [c.event (.getOrMake key make)]) (c.getOrMake key make).2 := by
  cases hget : c.get? key with
  | some a => simpa [Cache.event, Cache.getOrMake, Cache.contains, hget] using h.found key
  | none =>
    have hkey := not_mem_keys_of_get? hget
    cases hmake : make key with
    | ok a =>
      simpa [Cache.event, Cache.getOrMake, Cache.contains, hget, hmake] using h.made hkey a
    | error e =>
      simpa [Cache.event, Cache.getOrMake, Cache.contains, hget, hmake] using h.failed key e

/-- Each call goes on with a history by its event. -/
theorem perform (h : History bound log c) (call : CacheCall κ α ε) :
    History bound (log ++ [c.event call]) (c.perform call) := by
  cases call with
  | getOrMake key make => exact h.getOrMake key make
  | get _ => exact h.looked
  | contains _ => exact h.looked
  | size => exact h.looked
  | clear => exact h.cleared

/-- Calls one after the other go on with a history by their events. -/
theorem run (h : History bound log c) (calls : List (CacheCall κ α ε)) :
    History bound (log ++ (c.run calls).1) (c.run calls).2 := by
  induction calls generalizing log c with
  | nil => simpa [Cache.run] using h
  | cons call calls ih => simpa [Cache.run] using ih (h.perform call)

/-- What is kept for a key is what was made for it the last time. -/
theorem get?_eq_latest (h : History bound log c) {key : κ} (hkey : key ∈ c.entries.map Prod.fst) :
    ∃ a, c.get? key = some a ∧ CacheEvent.latest log key = some a := by
  obtain ⟨⟨_, a⟩, hentry, rfl⟩ := List.mem_map.mp hkey
  refine ⟨a, lookup_of_mem h.nodup hentry, ?_⟩
  -- read from its end, what was made begins with the entries, and those have distinct keys
  obtain ⟨before, hbefore⟩ : c.entries <:+ log.filterMap CacheEvent.made? :=
    h.entries_eq ▸ (within_suffix _ _).trans (CacheEvent.madeSinceClear_suffix log)
  have hreversed : (c.entries.reverse.map Prod.fst).Nodup := by
    rw [List.map_reverse]
    exact List.nodup_reverse.mpr h.nodup
  have hlookup := lookup_of_mem hreversed (List.mem_reverse.mpr hentry)
  rw [CacheEvent.latest, ← hbefore, List.reverse_append, List.lookup_append, hlookup]
  rfl

end History

variable [DecidableEq κ]

/-- Asking for something finds it, makes it or fails to make it. -/
theorem event_getOrMake (c : Cache κ α) (key : κ) (make : κ → Except ε α) :
    c.event (.getOrMake key make) = .found key ∨
      (∃ a, c.event (.getOrMake key make) = .made key a) ∨
        ∃ e, c.event (.getOrMake key make) = .failed key e := by
  simp only [event]
  cases c.contains key with
  | true => exact .inl rfl
  | false =>
    cases make key with
    | ok a => exact .inr (.inl ⟨a, rfl⟩)
    | error e => exact .inr (.inr ⟨e, rfl⟩)

/-- A call that asks for something either finds it or misses it. -/
theorem countP_isGetOrMake (c : Cache κ α) (calls : List (CacheCall κ α ε)) :
    calls.countP CacheCall.isGetOrMake =
      (c.run calls).1.countP CacheEvent.isFound + (c.run calls).1.countP CacheEvent.isMade +
        (c.run calls).1.countP CacheEvent.isFailed := by
  induction calls generalizing c with
  | nil => rfl
  | cons call calls ih =>
    simp only [run, List.countP_cons, ih (c.perform call)]
    cases call with
    | getOrMake key make =>
      obtain hevent | ⟨a, hevent⟩ | ⟨e, hevent⟩ := c.event_getOrMake key make <;>
        · simp only [hevent, CacheCall.isGetOrMake, CacheEvent.isFound, CacheEvent.isMade,
            CacheEvent.isFailed, if_true, Bool.false_eq_true, if_false]
          omega
    | get _ => rfl
    | contains _ => rfl
    | size => rfl
    | clear => rfl

/-- A call that cannot make anything changes no entry. -/
theorem entries_getOrMake_of_error {c : Cache κ α} {key : κ} {make : κ → Except ε α} {e : ε}
    (hmake : make key = .error e) : (c.getOrMake key make).2.entries = c.entries := by
  unfold getOrMake
  cases c.get? key with
  | some a => rfl
  | none => simp [hmake]

/-- Whatever is done with a new cache, its entries in order are the latest of what was made since it
was emptied, as many as its bound allows, each with the value made last for its key; every request
is a hit or a miss, and every miss made something or failed. Emptying it leaves the counts, a look
leaves everything and a failure leaves the entries. -/
theorem state_after_run (bound : Nat) (calls : List (CacheCall κ α ε)) :
    ∃ (new c : Cache κ α) (log : List (CacheEvent κ α ε)),
      boundedCache (bound : Int) = .ok new ∧ new.run calls = (log, c) ∧
      c.entries.map Prod.fst = within bound ((CacheEvent.madeSinceClear log).map Prod.fst) ∧
      (c.entries.map Prod.fst).Nodup ∧
      (∀ key ∈ c.entries.map Prod.fst,
        ∃ a, c.get? key = some a ∧ CacheEvent.latest log key = some a) ∧
      c.counts.hits + c.counts.misses = calls.countP CacheCall.isGetOrMake ∧
      c.counts.misses = c.counts.compiles + c.counts.failures ∧
      c.counts.compiles = log.countP CacheEvent.isMade ∧
      c.counts.failures = log.countP CacheEvent.isFailed ∧
      (c.perform (.clear : CacheCall κ α ε)).counts = c.counts ∧
      (∀ key, c.perform (.get key : CacheCall κ α ε) = c ∧
        c.perform (.contains key : CacheCall κ α ε) = c) ∧
      c.perform (.size : CacheCall κ α ε) = c ∧
      (∀ key (make : κ → Except ε α) (e : ε), make key = .error e →
        (c.perform (.getOrMake key make)).entries = c.entries) := by
  have hnew : boundedCache (κ := κ) (α := α) (bound : Int) = .ok { bound := bound } := by
    unfold boundedCache
    rw [if_neg (by omega), Int.toNat_natCast]
  have h := (History.new (κ := κ) (α := α) (ε := ε) bound).run calls
  rw [List.nil_append] at h
  refine ⟨_, _, _, hnew, rfl, ?_, h.nodup, fun key hkey => h.get?_eq_latest hkey, ?_, h.misses_eq,
    h.compiles_eq, h.failures_eq, rfl, fun key => ⟨rfl, rfl⟩, rfl,
    fun key make e hmake => entries_getOrMake_of_error hmake⟩
  · rw [h.entries_eq, map_within]
  · have hasked := countP_isGetOrMake ({ bound := bound } : Cache κ α) calls
    rw [hasked, h.hits_eq, h.misses_eq, h.compiles_eq, h.failures_eq]
    omega

/-- In a full cache a failure drops nothing, and the next success drops the oldest entry. -/
example :
    let make (key : Nat) : Except Unit Nat := if key = 0 then .error () else .ok (10 * key)
    let calls := [1, 2, 0, 1, 3].map fun key => CacheCall.getOrMake key make
    (({ bound := 2 } : Cache Nat Nat).run calls).2.entries = [(2, 20), (3, 30)] := by
  decide

end Cache

end Trigger
