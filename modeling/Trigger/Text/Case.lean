import Trigger.Text.Ranges
import Trigger.Text.CaseTables

/-!
# Letter case

The full case mappings of texts differ from the simple ones of characters in three ways: some
letters have an upper case of several characters, the dotted capital I has a lower case of two,
and a capital sigma at the end of a word becomes a final sigma.

`caseKey` names the class of characters that a search without regard to case takes for the same
letter: those with the same lower case, and those whose lower cases share an upper case.
-/

namespace Trigger.Text

/-- The character a code point is mapped to by runs in ascending order, or itself. -/
def CaseRun.apply : List CaseRun → Nat → Nat
  | [], n => n
  | r :: rest, n =>
    if n < r.first then n
    else if n ≤ r.last && (n - r.first) % r.step == 0 then ((n : Int) + r.shift).toNat
    else CaseRun.apply rest n

/-- The code points that a list of runs maps to a given one. -/
def CaseRun.sources (runs : List CaseRun) (n : Nat) : List Nat :=
  runs.filterMap fun r =>
    let m := ((n : Int) - r.shift).toNat
    if r.first ≤ m && m ≤ r.last && (m - r.first) % r.step == 0 then some m else none

/-- The lower case of a character, where that is one character. -/
def lowerChar (c : Char) : Char := Char.ofNat (CaseRun.apply lowerRuns c.toNat)

/-- The upper case of a character. -/
def upperChar (c : Char) : List Char :=
  match upperExpansions.lookup c.toNat with
  | some cs => cs.map Char.ofNat
  | none => [Char.ofNat (CaseRun.apply upperRuns c.toNat)]

/-- Whether the first character of a text past all that is skipped is a letter with case. -/
def casedNext (s : List Char) : Bool :=
  match s.dropWhile (fun c => inRanges caseIgnorableRanges c.toNat) with
  | [] => false
  | c :: _ => inRanges casedRanges c.toNat

/-- The lower case of the character `c` that stands after `before` (in reverse) and in front of
`after`. A capital sigma behind a letter and not in front of one is final. -/
def lowerAt (before : List Char) (c : Char) (after : List Char) : List Char :=
  if c == 'Σ' then [if casedNext before && !casedNext after then 'ς' else 'σ']
  else if c == 'İ' then ['i', '\u0307']
  else [lowerChar c]

/-- The lower case of a text that stands after `before` (in reverse). -/
def lowerAfter (before : List Char) : List Char → List Char
  | [] => []
  | c :: rest => lowerAt before c rest ++ lowerAfter (c :: before) rest

/-- The lower case of a text. -/
def lower (s : List Char) : List Char := lowerAfter [] s

/-- The upper case of a text. -/
def upper (s : List Char) : List Char := s.flatMap upperChar

/-- The smallest lower-case code point that counts as the same letter as a code point. -/
def letterKey (n : Nat) : Nat :=
  let low := CaseRun.apply lowerRuns n
  (caseMates.lookup low).getD low

/-- The smallest lower-case code point that counts as the same letter as a character. -/
def caseKey (c : Char) : Nat := letterKey c.toNat

/-- The code points that count as the same letter as a character, the character among them. -/
def caseClass (c : Char) : List Nat :=
  let key := caseKey c
  let lows := key :: (caseMates.filter (·.2 == key)).map (·.1)
  lows ++ lows.flatMap (CaseRun.sources lowerRuns)

/-- Whether two characters count as the same letter. -/
def sameLetter (a b : Char) : Bool := caseKey a == caseKey b

end Trigger.Text
