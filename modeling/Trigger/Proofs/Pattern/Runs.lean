import Trigger.Proofs.WholeWord.Matching

/-!
# Runs of characters and successive matches

A greedy run in front of something that does not start with its characters takes all of them, and a
reluctant run stops at the first place where the rest matches. White space and other characters
without letter case count as no other letter, so a run of white space between two words is matched
in one way only.

A text in which the matches of a pattern are replaced is read from the left: a match is passed over
as a whole, and where there is none, the next character stays.
-/

namespace Trigger

open Trigger.Text

namespace Text

/-! ## Characters without letter case -/

variable {c d : Char} {m n : Nat}

/-- A code point is mapped to itself or moved by a run that it lies in. -/
theorem CaseRun.apply_cases (runs : List CaseRun) (n : Nat) :
    CaseRun.apply runs n = n ∨
      ∃ r ∈ runs, r.first ≤ n ∧ n ≤ r.last ∧ CaseRun.apply runs n = ((n : Int) + r.shift).toNat := by
  induction runs with
  | nil => exact .inl rfl
  | cons r rest ih =>
    rw [CaseRun.apply]
    split
    · exact .inl rfl
    · split
      case isTrue hbefore hin =>
        rw [Bool.and_eq_true, decide_eq_true_eq] at hin
        exact .inr ⟨r, List.mem_cons_self, Nat.le_of_not_lt hbefore, hin.1, rfl⟩
      · rcases ih with h | ⟨r', hr', h⟩
        · exact .inl h
        · exact .inr ⟨r', List.mem_cons_of_mem r hr', h⟩

/-- Whether a closed range of code points is apart from the letters with case: no run starts or ends
in it, and nothing that shares its letter with another character is in it. -/
def isUncased (range : Nat × Nat) : Bool :=
  0 < range.1 &&
    lowerRuns.all (fun r =>
      (decide (range.2 < r.first) || decide (r.last < range.1)) &&
        (decide (range.2 < r.first + r.shift) || decide (r.last + r.shift < range.1))) &&
    caseMates.all fun mate =>
      (decide (range.2 < mate.1) || decide (mate.1 < range.1)) &&
        (decide (range.2 < mate.2) || decide (mate.2 < range.1))

section

variable {range : Nat × Nat} (hrange : isUncased range = true) (hfirst : range.1 ≤ n)
variable (hlast : n ≤ range.2)

include hrange hfirst hlast

/-- No run of letters moves to a code point without letter case but that code point itself. -/
theorem eq_of_apply_eq (h : CaseRun.apply lowerRuns m = n) : m = n := by
  simp only [isUncased, Bool.and_eq_true, decide_eq_true_eq, List.all_eq_true,
    Bool.or_eq_true] at hrange
  obtain ⟨⟨hpos, hruns⟩, -⟩ := hrange
  rcases CaseRun.apply_cases lowerRuns m with hself | ⟨r, hr, hlow, hhigh, hmoved⟩
  · exact hself.symm.trans h
  · have hout := (hruns r hr).2
    omega

/-- A code point without letter case is its own lower case. -/
theorem apply_of_isUncased : CaseRun.apply lowerRuns n = n := by
  simp only [isUncased, Bool.and_eq_true, decide_eq_true_eq, List.all_eq_true,
    Bool.or_eq_true] at hrange
  obtain ⟨⟨-, hruns⟩, -⟩ := hrange
  rcases CaseRun.apply_cases lowerRuns n with hself | ⟨r, hr, hlow, hhigh, -⟩
  · exact hself
  · have hout := (hruns r hr).1
    omega

/-- A code point without letter case shares its letter with no other. -/
theorem not_mem_caseMates {k : Nat} : (n, k) ∉ caseMates ∧ (k, n) ∉ caseMates := by
  simp only [isUncased, Bool.and_eq_true, decide_eq_true_eq, List.all_eq_true,
    Bool.or_eq_true] at hrange
  constructor
  · intro hmem
    have hout := (hrange.2 _ hmem).1
    omega
  · intro hmem
    have hout := (hrange.2 _ hmem).2
    omega

/-- A code point without letter case is its own key, and the key of no other. -/
theorem letterKey_eq_iff : letterKey m = n ↔ m = n := by
  have hkey (k : Nat) : letterKey k =
      (caseMates.lookup (CaseRun.apply lowerRuns k)).getD (CaseRun.apply lowerRuns k) := rfl
  have hmem {k key : Nat} (h : caseMates.lookup k = some key) : (k, key) ∈ caseMates := by
    obtain ⟨l, r, hsplit, -⟩ := List.lookup_eq_some_iff.mp h
    rw [hsplit]
    exact List.mem_append_right l List.mem_cons_self
  rw [hkey]
  constructor
  · intro h
    cases hmate : caseMates.lookup (CaseRun.apply lowerRuns m) with
    | some key =>
      rw [hmate, Option.getD_some] at h
      exact absurd (h ▸ hmem hmate) (not_mem_caseMates hrange hfirst hlast).2
    | none =>
      rw [hmate, Option.getD_none] at h
      exact eq_of_apply_eq hrange hfirst hlast h
  · rintro rfl
    rw [apply_of_isUncased hrange hfirst hlast]
    cases hmate : caseMates.lookup m with
    | some key => exact absurd (hmem hmate) (not_mem_caseMates hrange hfirst hlast).1
    | none => rfl

end

/-- A character without letter case counts as no other letter. -/
theorem sameLetter_iff_eq {range : Nat × Nat} (hrange : isUncased range = true)
    (hfirst : range.1 ≤ d.toNat) (hlast : d.toNat ≤ range.2) : sameLetter c d = true ↔ c = d := by
  have hself : letterKey d.toNat = d.toNat := (letterKey_eq_iff hrange hfirst hlast).mpr rfl
  rw [sameLetter, beq_iff_eq, caseKey, caseKey, hself, letterKey_eq_iff hrange hfirst hlast]
  exact ⟨fun h => Char.ext (UInt32.toNat_inj.mp h), congrArg Char.toNat⟩

/-- Counting as the same letter is symmetric. -/
theorem sameLetter_comm (c d : Char) : sameLetter c d = sameLetter d c := Bool.beq_comm

/-- White space has no letter case. -/
theorem sameLetter_space_iff (hd : isSpace d = true) : sameLetter c d = true ↔ c = d := by
  obtain ⟨range, hrange, hfirst, hlast⟩ := inRanges_of_mem hd
  have hall : spaceRanges.all isUncased = true := by decide +kernel
  exact sameLetter_iff_eq (List.all_eq_true.mp hall range hrange) hfirst hlast

/-- White space counts as nothing but itself. -/
theorem isSpace_of_sameLetter (h : sameLetter c d = true) (hd : isSpace d = true) :
    isSpace c = true :=
  (sameLetter_space_iff hd).mp h ▸ hd

end Text

namespace Pattern

/-! ## Texts at positions -/

/-- A text stands at a position of another one. -/
def Stands (text : List Char) (pos : Nat) (s : List Char) : Prop := s <+: text.drop pos

namespace Stands

variable {text s t : List Char} {pos : Nat} {c : Char}

/-- Nothing stands everywhere. -/
theorem nil (text : List Char) (pos : Nat) : Stands text pos [] := List.nil_prefix

/-- A text stands where its first character does, with the others behind it. -/
theorem cons_iff : Stands text pos (c :: s) ↔ text[pos]? = some c ∧ Stands text (pos + 1) s := by
  cases hc : text[pos]? with
  | none =>
    have hdrop : text.drop pos = [] := List.drop_eq_nil_of_le (by simpa using hc)
    simp [Stands, hdrop]
  | some d =>
    obtain ⟨hpos, rfl⟩ := List.getElem?_eq_some_iff.mp hc
    rw [Stands, List.drop_eq_getElem_cons hpos, List.cons_prefix_cons, Option.some.injEq,
      eq_comm (a := c)]
    exact Iff.rfl

/-- Two texts one behind the other. -/
theorem append_iff :
    Stands text pos (s ++ t) ↔ Stands text pos s ∧ Stands text (pos + s.length) t := by
  induction s generalizing pos with
  | nil => exact (and_iff_right (nil text pos)).symm
  | cons c s ih =>
    rw [List.cons_append, cons_iff, cons_iff, ih, List.length_cons, and_assoc, Nat.add_assoc,
      Nat.add_comm 1]

/-- The first part of a text stands where the whole does. -/
theorem take (h : Stands text pos s) (n : Nat) : Stands text pos (s.take n) :=
  (List.take_prefix n s).trans h

/-- What a text is cut into stands behind the part in front of it. -/
theorem of_split (before s after : List Char) : Stands (before ++ s ++ after) before.length s := by
  rw [Stands, List.append_assoc, List.drop_left]
  exact List.prefix_append s after

end Stands

variable {text s word : List Char} {pos : Nat} {set : CharSet} {after : PatternTree}
variable {rest : MatchRest} {captures : Captures} {r : Nat × Captures}

/-- Letters are matched where the same letters stand. -/
theorem lettersThen_eq_some_iff :
    matchTree text.toArray (lettersThen after word) rest pos captures = some r ↔
      ∃ w, sameLetters word w = true ∧ Stands text pos w ∧
        matchTree text.toArray after rest (pos + w.length) captures = some r := by
  rw [matchTree_lettersThen]
  constructor
  · intro h
    split at h
    case isTrue hletters =>
      refine ⟨_, hletters, List.take_prefix _ _, ?_⟩
      rwa [← length_eq_of_sameLetters hletters]
    case isFalse => cases h
  · rintro ⟨w, hletters, hstands, h⟩
    have hlength := length_eq_of_sameLetters hletters
    rw [hlength, ← List.prefix_iff_eq_take.mp hstands, if_pos hletters]
    exact h

/-- One character is matched where it is in the set. -/
theorem one_eq_some_iff :
    matchTree text.toArray (.one set) rest pos captures = some r ↔
      ∃ c, text[pos]? = some c ∧ set.has c = true ∧ rest (pos + 1) captures = some r := by
  rw [matchTree, List.getElem?_toArray]
  cases text[pos]? with
  | none => simp
  | some c => by_cases hc : set.has c = true <;> simp [hc]

/-! ## Greedy runs -/

/-- A run is as long as the text of its characters that is not followed by another one. -/
theorem runLength_of_stands (hstands : Stands text pos s) (hs : ∀ c ∈ s, set.has c = true)
    (hend : ∀ c ∈ text[pos + s.length]?, set.has c = false) {limit : Nat}
    (hlimit : s.length ≤ limit) : runLength text.toArray set limit pos = s.length := by
  induction s generalizing pos limit with
  | nil =>
    cases limit with
    | zero => rfl
    | succ limit =>
      rw [runLength, List.getElem?_toArray]
      cases hc : text[pos]? with
      | none => rfl
      | some c => simp [hend c hc]
  | cons c s ih =>
    obtain ⟨limit, rfl⟩ := Nat.exists_eq_succ_of_ne_zero (Nat.ne_zero_of_lt hlimit)
    obtain ⟨hc, hrest⟩ := Stands.cons_iff.mp hstands
    rw [List.length_cons, ← Nat.add_assoc, Nat.add_right_comm] at hend
    rw [runLength, List.getElem?_toArray, hc]
    simp only [hs c List.mem_cons_self, if_true, List.length_cons]
    rw [ih hrest (fun d hd => hs d (List.mem_cons_of_mem c hd)) hend (Nat.le_of_succ_le_succ hlimit)]

/-- The characters of a run stand where it starts. -/
theorem exists_run (set : CharSet) (text : List Char) (limit pos : Nat) :
    ∃ s, Stands text pos s ∧ s.length = runLength text.toArray set limit pos ∧
      ∀ c ∈ s, set.has c = true := by
  have hnone (pos : Nat) : ∃ s, Stands text pos s ∧ s.length = 0 ∧ ∀ c ∈ s, set.has c = true :=
    ⟨[], .nil text pos, rfl, fun c hc => absurd hc List.not_mem_nil⟩
  induction limit generalizing pos with
  | zero => exact hnone pos
  | succ limit ih =>
    rw [runLength, List.getElem?_toArray]
    cases hc : text[pos]? with
    | none => exact hnone pos
    | some c =>
      dsimp only
      split
      case isTrue hhas =>
        obtain ⟨s, hstands, hlength, hs⟩ := ih (pos + 1)
        exact ⟨c :: s, Stands.cons_iff.mpr ⟨hc, hstands⟩, congrArg (· + 1) hlength,
          List.forall_mem_cons.mpr ⟨hhas, hs⟩⟩
      case isFalse => exact hnone pos

/-- The most characters are tried first. -/
theorem backOff_of_most {n least : Nat} (h : rest (pos + least + n) captures = some r) :
    backOff rest captures pos least n = some r := by
  cases n with
  | zero => exact h
  | succ n => rw [backOff, h]

/-- What is found goes on behind some of the characters. -/
theorem exists_of_backOff {n least : Nat} (h : backOff rest captures pos least n = some r) :
    ∃ i ≤ n, rest (pos + least + i) captures = some r := by
  induction n with
  | zero => exact ⟨0, Nat.le_refl 0, h⟩
  | succ n ih =>
    rw [backOff] at h
    split at h
    case h_1 r' hr => exact ⟨n + 1, Nat.le_refl _, hr.trans h⟩
    case h_2 =>
      obtain ⟨i, hi, hr⟩ := ih h
      exact ⟨i, Nat.le_succ_of_le hi, hr⟩

/-- A greedy run goes on behind all its characters if the rest matches there. -/
theorem greedy_eq_some (hstands : Stands text pos s) (hs : ∀ c ∈ s, set.has c = true)
    (hend : ∀ c ∈ text[pos + s.length]?, set.has c = false)
    (h : rest (pos + s.length) captures = some r) :
    matchTree text.toArray (.run set 0 none .greedy) rest pos captures = some r := by
  have hroom : s.length ≤ text.length - pos := by
    rw [← List.length_drop]
    exact hstands.length_le
  have hrun := runLength_of_stands hstands hs hend hroom
  simp only [matchTree, matchRun, List.size_toArray, hrun, Nat.not_lt_zero, if_false, Nat.sub_zero]
  exact backOff_of_most h

/-- A greedy run goes on behind some of its characters. -/
theorem exists_of_greedy
    (h : matchTree text.toArray (.run set 0 none .greedy) rest pos captures = some r) :
    ∃ s, Stands text pos s ∧ (∀ c ∈ s, set.has c = true) ∧
      rest (pos + s.length) captures = some r := by
  simp only [matchTree, matchRun, Nat.not_lt_zero, if_false, Nat.sub_zero] at h
  obtain ⟨i, hi, hr⟩ := exists_of_backOff h
  obtain ⟨s, hstands, hlength, hs⟩ := exists_run set text (text.toArray.size - pos) pos
  refine ⟨s.take i, hstands.take i, fun c hc => hs c (List.mem_of_mem_take hc), ?_⟩
  rwa [List.length_take, Nat.min_eq_left (by omega)]

/-- Where the rest refuses to start with a character of a greedy run, the run is matched as a
whole. -/
theorem greedy_eq_some_iff
    (hrefused : ∀ q, ∀ c ∈ text[q]?, set.has c = true → rest q captures = none) :
    matchTree text.toArray (.run set 0 none .greedy) rest pos captures = some r ↔
      ∃ s, Stands text pos s ∧ (∀ c ∈ s, set.has c = true) ∧
        rest (pos + s.length) captures = some r := by
  refine ⟨exists_of_greedy, fun ⟨s, hstands, hs, h⟩ => greedy_eq_some hstands hs ?_ h⟩
  intro c hc
  rw [← Bool.not_eq_true]
  intro hhas
  rw [hrefused _ c hc hhas] at h
  cases h

/-! ## Reluctant runs -/

/-- A reluctant run stops at the first place where the rest matches. -/
theorem moveOn_of_first (hstands : Stands text pos s) (hs : ∀ c ∈ s, set.has c = true)
    (hbefore : ∀ i < s.length, rest (pos + i) captures = none)
    (h : rest (pos + s.length) captures = some r) {limit : Nat} (hlimit : s.length ≤ limit) :
    moveOn text.toArray set rest captures limit pos = some r := by
  induction s generalizing pos limit with
  | nil =>
    have hr : rest pos captures = some r := h
    cases limit <;> rw [moveOn, hr]
  | cons c s ih =>
    obtain ⟨limit, rfl⟩ := Nat.exists_eq_succ_of_ne_zero (Nat.ne_zero_of_lt hlimit)
    obtain ⟨hc, hrest⟩ := Stands.cons_iff.mp hstands
    have hnone : rest pos captures = none := hbefore 0 (Nat.zero_lt_succ _)
    rw [moveOn, hnone, List.getElem?_toArray, hc]
    simp only [hs c List.mem_cons_self, if_true]
    refine ih hrest (fun d hd => hs d (List.mem_cons_of_mem c hd)) (fun i hi => ?_) ?_
      (Nat.le_of_succ_le_succ hlimit)
    · rw [Nat.add_right_comm]
      exact hbefore (i + 1) (Nat.succ_lt_succ hi)
    · rw [Nat.add_right_comm]
      exact h

/-- A reluctant run in front of the first place where the rest matches. -/
theorem reluctant_eq_some (hstands : Stands text pos s) (hs : ∀ c ∈ s, set.has c = true)
    (hbefore : ∀ i < s.length, rest (pos + i) captures = none)
    (h : rest (pos + s.length) captures = some r) :
    matchTree text.toArray (.run set 0 none .reluctant) rest pos captures = some r := by
  have hroom : s.length ≤ text.length - pos := by
    rw [← List.length_drop]
    exact hstands.length_le
  have hnone : runLength text.toArray set 0 pos = 0 := rfl
  simp only [matchTree, matchRun, List.size_toArray, Nat.not_lt_zero, if_false, Nat.sub_zero,
    Nat.add_zero]
  exact moveOn_of_first hstands hs hbefore h hroom

/-! ## The first match -/

/-- A search finds the match at the first position that has one. -/
theorem searchFrom?_eq_some {p : Pattern} {chars : Array Char} {m : Found} {q : Nat}
    (hle : pos ≤ q) (hq : q ≤ chars.size) (hmatch : p.matchAt? chars false q = some m)
    (hbefore : ∀ i, pos ≤ i → i < q → p.matchAt? chars false i = none) :
    p.searchFrom? chars pos = some m := by
  have hpos : min pos chars.size = pos := Nat.min_eq_left (Nat.le_trans hle hq)
  cases hsearch : p.searchFrom? chars pos with
  | none =>
    rw [searchFrom?, hpos] at hsearch
    rw [searchAmong_eq_none hsearch hle (by omega)] at hmatch
    cases hmatch
  | some m' =>
    rw [searchFrom?, hpos] at hsearch
    obtain ⟨hfrom, hmatch', hbefore'⟩ := searchAmong_eq_some hsearch
    rcases Nat.lt_trichotomy m'.start q with hlt | rfl | hlt
    · rw [hbefore _ hfrom hlt] at hmatch'
      cases hmatch'
    · rw [← hmatch', hmatch]
    · rw [hbefore' q hle hlt] at hmatch
      cases hmatch

/-- A search finds nothing if no position has a match. -/
theorem searchFrom?_eq_none {p : Pattern} {chars : Array Char}
    (h : ∀ q, pos ≤ q → p.matchAt? chars false q = none) (hpos : pos ≤ chars.size) :
    p.searchFrom? chars pos = none := by
  cases hsearch : p.searchFrom? chars pos with
  | none => rfl
  | some m =>
    rw [searchFrom?, Nat.min_eq_left hpos] at hsearch
    obtain ⟨hfrom, hmatch, -⟩ := searchAmong_eq_some hsearch
    rw [h _ hfrom] at hmatch
    cases hmatch

/-! ## Successive matches -/

section

variable {p : Pattern} {chars : Array Char} {m : Found} {fuel : Nat}

/-- A match that is not empty is followed by those behind it. -/
theorem findFrom_of_match (hmatch : p.matchAt? chars false pos = some m) (hpos : pos ≤ chars.size)
    (hlt : pos < m.stop) : p.findFrom chars (fuel + 1) pos false =
      m :: p.findFrom chars fuel m.stop false := by
  have hsearch : p.searchFrom? chars pos = some m :=
    searchFrom?_eq_some (Nat.le_refl pos) hpos hmatch fun i hle hi =>
      absurd hle (Nat.not_le_of_lt hi)
  have hne : (m.stop == m.start) = false := by
    rw [start_of_matchAt? hmatch, beq_eq_false_iff_ne]
    omega
  rw [findFrom, hsearch]
  simp only [hne]

/-- Where there is no match, the matches are those behind the next character. -/
theorem findFrom_of_none (hnone : p.matchAt? chars false pos = none) (hpos : pos < chars.size) :
    p.findFrom chars fuel pos false = p.findFrom chars fuel (pos + 1) false := by
  have hsearch : p.searchFrom? chars pos = p.searchFrom? chars (pos + 1) := by
    have hcount : chars.size + 1 - pos = chars.size + 1 - (pos + 1) + 1 := by omega
    rw [searchFrom?, searchFrom?, Nat.min_eq_left (Nat.le_of_lt hpos), Nat.min_eq_left hpos,
      hcount, searchAmong, hnone]
  cases fuel with
  | zero => rfl
  | succ fuel => rw [findFrom, findFrom, hsearch]

/-- The first of the matches from a position on starts there or behind it. -/
theorem le_start_of_findFrom {found : List Found} (hpos : pos ≤ chars.size)
    (h : p.findFrom chars fuel pos false = m :: found) : pos ≤ m.start := by
  cases fuel with
  | zero => cases h
  | succ fuel =>
    rw [findFrom] at h
    cases hsearch : p.searchFrom? chars pos with
    | none =>
      rw [hsearch] at h
      cases h
    | some m' =>
      rw [hsearch] at h
      obtain ⟨rfl, -⟩ := List.cons.inj h
      rw [searchFrom?, Nat.min_eq_left hpos] at hsearch
      exact (searchAmong_eq_some hsearch).1

end

/-! ## Replaced matches -/

variable {p : Pattern} {replacement : List Char} {c : Char} {m : Found} {fuel : Nat}

/-- The characters from one position to another of a text. -/
theorem slice_toArray (text : List Char) (start stop : Nat) :
    slice text.toArray start stop = (text.drop start).take (stop - start) := by
  simp [slice]

/-- The characters that stand at a position. -/
theorem slice_of_stands (h : Stands text pos s) :
    slice text.toArray pos (pos + s.length) = s := by
  rw [slice_toArray, Nat.add_sub_cancel_left]
  exact (List.prefix_iff_eq_take.mp h).symm

/-- The first character from a position on, and the others. -/
theorem slice_cons {stop : Nat} (hc : text[pos]? = some c) (hstop : pos < stop) :
    slice text.toArray pos stop = c :: slice text.toArray (pos + 1) stop := by
  obtain ⟨hpos, rfl⟩ := List.getElem?_eq_some_iff.mp hc
  have hlength : stop - pos = stop - (pos + 1) + 1 := by omega
  rw [slice_toArray, slice_toArray, List.drop_eq_getElem_cons hpos, hlength, List.take_succ_cons]

/-- At the end of a text nothing is left to replace. -/
theorem replaceFrom_of_end (hnone : p.matchAt? text.toArray false text.length = none) :
    replaceFrom replacement text.toArray text.length
      (p.findFrom text.toArray fuel text.length false) = [] := by
  have hsearch : p.searchFrom? text.toArray text.length = none := by
    rw [searchFrom?, List.size_toArray, Nat.min_self, Nat.add_sub_cancel_left, searchAmong, hnone,
      searchAmong]
  have hfound : p.findFrom text.toArray fuel text.length false = [] := by
    cases fuel with
    | zero => rfl
    | succ fuel => rw [findFrom, hsearch]
  rw [hfound, replaceFrom, slice_toArray, List.drop_length, List.take_nil]

/-- Where there is no match, the next character stays. -/
theorem replaceFrom_of_none (hnone : p.matchAt? text.toArray false pos = none)
    (hc : text[pos]? = some c) :
    replaceFrom replacement text.toArray pos (p.findFrom text.toArray fuel pos false) =
      c :: replaceFrom replacement text.toArray (pos + 1)
        (p.findFrom text.toArray fuel (pos + 1) false) := by
  have hpos : pos < text.toArray.size := (List.getElem?_eq_some_iff.mp hc).1
  rw [findFrom_of_none hnone hpos]
  cases hfound : p.findFrom text.toArray fuel (pos + 1) false with
  | nil => exact slice_cons hc hpos
  | cons m found =>
    have hstart : pos < m.start := le_start_of_findFrom hpos hfound
    rw [replaceFrom, slice_cons hc hstart, replaceFrom]
    rfl

/-- A match that is not empty is replaced as a whole. -/
theorem replaceFrom_of_match (hmatch : p.matchAt? text.toArray false pos = some m)
    (hpos : pos ≤ text.length) (hlt : pos < m.stop) :
    replaceFrom replacement text.toArray pos (p.findFrom text.toArray (fuel + 1) pos false) =
      replacement ++ replaceFrom replacement text.toArray m.stop
        (p.findFrom text.toArray fuel m.stop false) := by
  rw [findFrom_of_match hmatch (by rwa [List.size_toArray]) hlt, replaceFrom,
    start_of_matchAt? hmatch, slice_toArray, Nat.sub_self, List.take_zero]
  rfl

end Pattern

end Trigger
