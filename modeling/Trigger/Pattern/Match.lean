import Trigger.Pattern.Basic

/-!
# Matching

A tree is matched at a position by trying its possibilities in order, each with all that follows
it: the matcher takes the rest of the match as a continuation, which decides by succeeding which
possibility is taken. A repetition without an upper bound is bounded by the text, since a turn that
is not forced by the lower bound starts only where the turn before it has moved on.

A search takes the first position at which the pattern matches. Successive matches do not overlap,
and an empty match is not followed by another one at the same position.
-/

namespace Trigger

open Trigger.Text

/-- The captures of a match so far, latest first: the number of the capture and the positions of
its start and of its end. -/
abbrev Captures := List (Nat × Nat × Nat)

/-- The rest of a match: what is to be done at a position with the captures so far. -/
abbrev MatchRest := Nat → Captures → Option (Nat × Captures)

namespace Pattern

/-- The span of a capture, if it has been made. -/
def span? (captures : Captures) (index : Nat) : Option (Nat × Nat) := captures.lookup index

/-- Whether the character before a position and the one at it differ in being word characters. An
empty text has no word edges and no other positions either. -/
def atWordEdge (text : Array Char) (ascii negated : Bool) (pos : Nat) : Bool :=
  let word (i : Option Nat) : Bool :=
    match i with
    | some i => (text[i]?.map (CharClass.word.has ascii)).getD false
    | none => false
  let before := word (if pos = 0 then none else some (pos - 1))
  !text.isEmpty && ((before != word (some pos)) != negated)

/-- Whether a condition holds at a position of a text. -/
def Anchor.holds (text : Array Char) (pos : Nat) : Anchor → Bool
  | .textStart => pos == 0
  | .textEnd => pos == text.size
  | .lineStart lines => pos == 0 || (lines && text[pos - 1]? == some '\n')
  | .lineEnd lines =>
    pos == text.size || (text[pos]? == some '\n' && (lines || pos + 1 == text.size))
  | .wordEdge ascii negated => atWordEdge text ascii negated pos

/-- Whether the characters of a text from `start` to `stop` stand again at a position. -/
def standsAgain (text : Array Char) (letterCase : LetterCase) (start stop pos : Nat) : Bool :=
  (List.range (stop - start)).all fun i =>
    match text[start + i]?, text[pos + i]? with
    | some a, some b =>
      match letterCase with
      | .folded => lowerChar a == lowerChar b
      | rule => rule.same a.toNat b
    | _, _ => false

/-- The number of characters of a set from a position on, at most `limit`. -/
def runLength (text : Array Char) (set : CharSet) : Nat → Nat → Nat
  | 0, _ => 0
  | limit + 1, pos =>
    match text[pos]? with
    | some c => if set.has c then runLength text set limit (pos + 1) + 1 else 0
    | none => 0

/-- Goes on behind `least + extra` characters, or fewer down to `least`. -/
def backOff (rest : MatchRest) (captures : Captures) (pos least : Nat) :
    Nat → Option (Nat × Captures)
  | 0 => rest (pos + least) captures
  | extra + 1 =>
    match rest (pos + least + (extra + 1)) captures with
    | some r => some r
    | none => backOff rest captures pos least extra

/-- Goes on at a position, or behind more characters of a set up to `limit` of them. -/
def moveOn (text : Array Char) (set : CharSet) (rest : MatchRest) (captures : Captures) :
    Nat → Nat → Option (Nat × Captures)
  | 0, pos => rest pos captures
  | limit + 1, pos =>
    match rest pos captures with
    | some r => some r
    | none =>
      match text[pos]? with
      | some c => if set.has c then moveOn text set rest captures limit (pos + 1) else none
      | none => none

/-- A run of characters of one set, and then the rest of the match. -/
def matchRun (text : Array Char) (set : CharSet) (min : Nat) (max : Option Nat)
    (eagerness : Eagerness) (rest : MatchRest) (pos : Nat) (captures : Captures) :
    Option (Nat × Captures) :=
  let room := text.size - pos
  let limit := match max with
    | some m => Nat.min m room
    | none => room
  if room < min then none else
  match eagerness with
  | .greedy =>
    let n := runLength text set limit pos
    if n < min then none else backOff rest captures pos min (n - min)
  | .possessive =>
    let n := runLength text set limit pos
    if n < min then none else rest (pos + n) captures
  | .reluctant =>
    if runLength text set min pos < min then none
    else moveOn text set rest captures (limit - min) (pos + min)

/-- Whether a repetition that has made `count` turns may make another. -/
def mayRepeat (max : Option Nat) (count : Nat) : Bool :=
  match max with
  | some m => count < m
  | none => true

/-- Turns of a repetition that prefers more, and then the rest of the match. The first argument
bounds the turns, and `last` is the start of the latest turn that was not forced. -/
def repeatGreedily (body : MatchRest → MatchRest) (min : Nat) (max : Option Nat)
    (rest : MatchRest) : Nat → Nat → Option Nat → MatchRest
  | 0, _, _, pos, captures => rest pos captures
  | fuel + 1, count, last, pos, captures =>
    if count < min then
      body (repeatGreedily body min max rest fuel (count + 1) last) pos captures
    else if mayRepeat max count && last != some pos then
      match body (repeatGreedily body min max rest fuel (count + 1) (some pos)) pos captures with
      | some r => some r
      | none => rest pos captures
    else rest pos captures

/-- Turns of a repetition that prefers fewer, and then the rest of the match. -/
def repeatReluctantly (body : MatchRest → MatchRest) (min : Nat) (max : Option Nat)
    (rest : MatchRest) : Nat → Nat → Option Nat → MatchRest
  | 0, _, _, pos, captures => rest pos captures
  | fuel + 1, count, last, pos, captures =>
    if count < min then
      body (repeatReluctantly body min max rest fuel (count + 1) last) pos captures
    else
      match rest pos captures with
      | some r => some r
      | none =>
        if mayRepeat max count && last != some pos then
          body (repeatReluctantly body min max rest fuel (count + 1) (some pos)) pos captures
        else none

/-- Turns of a repetition that keeps each turn it has made; none if the lower bound is missed. -/
def repeatFirmly (body : MatchRest → MatchRest) (min : Nat) (max : Option Nat) :
    Nat → Nat → Option Nat → MatchRest
  | 0, _, _, pos, captures => some (pos, captures)
  | fuel + 1, count, last, pos, captures =>
    if count < min then
      match body (fun p c => some (p, c)) pos captures with
      | some (p, c) => repeatFirmly body min max fuel (count + 1) last p c
      | none => none
    else if mayRepeat max count && last != some pos then
      match body (fun p c => some (p, c)) pos captures with
      | some (p, c) => repeatFirmly body min max fuel (count + 1) (some pos) p c
      | none => some (pos, captures)
    else some (pos, captures)

/-- Matches a tree at a position, and then the rest of the match. -/
def matchTree (text : Array Char) : PatternTree → MatchRest → MatchRest
  | .empty, rest, pos, captures => rest pos captures
  | .one set, rest, pos, captures =>
    match text[pos]? with
    | some c => if set.has c then rest (pos + 1) captures else none
    | none => none
  | .seq a b, rest, pos, captures => matchTree text a (matchTree text b rest) pos captures
  | .alt a b, rest, pos, captures =>
    match matchTree text a rest pos captures with
    | some r => some r
    | none => matchTree text b rest pos captures
  | .run set min max eagerness, rest, pos, captures =>
    matchRun text set min max eagerness rest pos captures
  | .many body min max eagerness, rest, pos, captures =>
    let fuel := min + (text.size - pos) + 2
    match eagerness with
    | .greedy => repeatGreedily (matchTree text body) min max rest fuel 0 none pos captures
    | .reluctant => repeatReluctantly (matchTree text body) min max rest fuel 0 none pos captures
    | .possessive =>
      match repeatFirmly (matchTree text body) min max fuel 0 none pos captures with
      | some (p, c) => rest p c
      | none => none
  | .capture index body, rest, pos, captures =>
    matchTree text body (fun p c => rest p ((index, pos, p) :: c)) pos captures
  | .atomic body, rest, pos, captures =>
    match matchTree text body (fun p c => some (p, c)) pos captures with
    | some (p, c) => rest p c
    | none => none
  | .ahead negated body, rest, pos, captures =>
    match matchTree text body (fun p c => some (p, c)) pos captures with
    | some (_, c) => if negated then none else rest pos c
    | none => if negated then rest pos captures else none
  | .behind negated width body, rest, pos, captures =>
    let found :=
      if width ≤ pos then
        matchTree text body (fun p c => some (p, c)) (pos - width) captures
      else none
    match found with
    | some (_, c) => if negated then none else rest pos c
    | none => if negated then rest pos captures else none
  | .again index letterCase, rest, pos, captures =>
    match span? captures index with
    | some (start, stop) =>
      if standsAgain text letterCase start stop pos then rest (pos + (stop - start)) captures
      else none
    | none => none
  | .ifCaptured index yes no, rest, pos, captures =>
    match span? captures index with
    | some _ => matchTree text yes rest pos captures
    | none => matchTree text no rest pos captures
  | .anchor a, rest, pos, captures => if Anchor.holds text pos a then rest pos captures else none

/-- The second part of a sequence is the start of what follows its first part. -/
theorem matchTree_seq (text : Array Char) (a b : PatternTree) (rest : MatchRest) (pos : Nat)
    (captures : Captures) : matchTree text (.seq a b) rest pos captures =
      matchTree text a (matchTree text b rest) pos captures := by
  rw [matchTree]

/-- A match: the positions of its start and its end, and its captures. -/
structure Found where
  start : Nat
  stop : Nat
  captures : Captures

/-- The match of a pattern at a position; an empty one is refused where `nonempty` holds. -/
def matchAt? (p : Pattern) (text : Array Char) (nonempty : Bool) (pos : Nat) : Option Found :=
  (matchTree text p.tree
    (fun stop captures => if nonempty && stop == pos then none else some (stop, captures)) pos []).map
    fun (stop, captures) => ⟨pos, stop, captures⟩

/-- The first match among `count` positions from a given one on. Only the first of them refuses an
empty match. -/
def searchAmong (p : Pattern) (text : Array Char) : Bool → Nat → Nat → Option Found
  | _, 0, _ => none
  | nonempty, count + 1, pos =>
    match p.matchAt? text nonempty pos with
    | some m => some m
    | none => searchAmong p text false count (pos + 1)

/-- The first match at a position or behind it. A position behind the end counts as the end. -/
def searchFrom? (p : Pattern) (text : Array Char) (pos : Nat) (nonempty : Bool := false) :
    Option Found :=
  let pos := min pos text.size
  searchAmong p text nonempty (text.size + 1 - pos) pos

/-- Whether a pattern matches somewhere in a text. -/
def occursIn (p : Pattern) (text : Array Char) : Bool := (p.searchFrom? text 0).isSome

/-- The successive matches from a position on, at most `fuel` of them. -/
def findFrom (p : Pattern) (text : Array Char) : Nat → Nat → Bool → List Found
  | 0, _, _ => []
  | fuel + 1, pos, nonempty =>
    match p.searchFrom? text pos nonempty with
    | some m => m :: findFrom p text fuel m.stop (m.stop == m.start)
    | none => []

/-- The successive matches of a pattern in a text. Two matches for each position suffice, since
each of them ends behind the one before or follows it without being empty. -/
def findAll (p : Pattern) (text : Array Char) : List Found :=
  findFrom p text (2 * text.size + 2) 0 false

/-- The characters from one position to another. -/
def slice (text : Array Char) (start stop : Nat) : List Char := (text.extract start stop).toList

/-- A text from a position on with other characters in the place of the given matches. -/
def replaceFrom (replacement : List Char) (text : Array Char) : Nat → List Found → List Char
  | pos, [] => slice text pos text.size
  | pos, m :: rest =>
    slice text pos m.start ++ replacement ++ replaceFrom replacement text m.stop rest

/-- A text with other characters in the place of each match of a pattern. -/
def replace (p : Pattern) (replacement : List Char) (text : Array Char) : List Char :=
  replaceFrom replacement text 0 (p.findAll text)

/-- The texts of the captures of a match, in order; none for a capture that was not made. -/
def captureTexts (p : Pattern) (text : Array Char) (m : Found) : List (Option (List Char)) :=
  (List.range p.groups).map fun i =>
    (span? m.captures (i + 1)).map fun (start, stop) => slice text start stop

/-- The pieces of a text between the given matches, each followed by the captures of its match. -/
def piecesBetween (p : Pattern) (text : Array Char) : Nat → List Found → List (Option (List Char))
  | pos, [] => [some (slice text pos text.size)]
  | pos, m :: rest =>
    some (slice text pos m.start) :: p.captureTexts text m ++ piecesBetween p text m.stop rest

/-- The pieces of a text between the matches of a pattern, with the captures in between. -/
def cut (p : Pattern) (text : Array Char) : List (Option (List Char)) :=
  piecesBetween p text 0 (p.findAll text)

end Pattern

end Trigger
