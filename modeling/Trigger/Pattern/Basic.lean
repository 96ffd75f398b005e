import Trigger.Text.Case
import Trigger.Text.Digit
import Trigger.Text.Quoted
import Trigger.Text.Space
import Trigger.Text.Word

/-!
# Patterns

The syntax of search patterns: single-character tests, sequences, ordered alternatives, repetition
that is greedy, lazy or possessive, captures and references to them, atomic groups, assertions
about the surroundings, and choice by a capture. Letter case and the other modes are settled when
a pattern is read, so a tree says by itself what it matches.
-/

namespace Trigger

open Trigger.Text

/-- How letters are compared. -/
inductive LetterCase where
  | exact
  | ascii
  | folded
deriving DecidableEq, Repr

namespace LetterCase

/-- A code point with an unaccented capital letter made small. -/
def asciiLower (n : Nat) : Nat := if 65 ≤ n ∧ n ≤ 90 then n + 32 else n

/-- The code points that count as the same letter as a character. -/
def classOf : LetterCase → Char → List Nat
  | .exact, c => [c.toNat]
  | .ascii, c =>
    let low := asciiLower c.toNat
    if 97 ≤ low ∧ low ≤ 122 then [low, low - 32] else [low]
  | .folded, c => caseClass c

/-- Whether a code point counts as the same letter as a character. -/
def same : LetterCase → Nat → Char → Bool
  | .exact, n, c => n == c.toNat
  | .ascii, n, c => asciiLower n == asciiLower c.toNat
  | .folded, n, c => n == c.toNat || letterKey n == caseKey c

end LetterCase

/-- The named classes of characters. -/
inductive CharClass where
  | digit
  | space
  | word
deriving DecidableEq, Repr

/-- Whether a character is in a class; a class restricted to ASCII has no other characters. -/
def CharClass.has (ascii : Bool) : CharClass → Char → Bool
  | .digit, c => if ascii then c.isDigit else isDigit c
  | .space, c => if ascii then isAsciiSpace c else isSpace c
  | .word, c => if ascii then isAsciiWord c else isWord c

/-- A member of a set of characters. -/
inductive SetItem where
  | code (n : Nat)
  | range (first last : Nat)
  | cls (cls : CharClass) (negated : Bool)
deriving DecidableEq, Repr

/-- A set of characters. -/
structure CharSet where
  items : List SetItem
  negated : Bool := false
  letterCase : LetterCase := .exact
  /-- Whether the named classes are restricted to ASCII. -/
  ascii : Bool := false
deriving DecidableEq, Repr

namespace CharSet

/-- The set of all characters. -/
def all : CharSet := ⟨[], true, .exact, false⟩

/-- The set of all characters but the line feed. -/
def notNewline : CharSet := ⟨[.code 10], true, .exact, false⟩

/-- The set of one character. -/
def single (letterCase : LetterCase) (c : Char) : CharSet := ⟨[.code c.toNat], false, letterCase, false⟩

/-- Whether a character is one of an item, by the rules of a set. -/
def hasItem (s : CharSet) (c : Char) : SetItem → Bool
  | .code n => s.letterCase.same n c
  | .range first last =>
    (first ≤ c.toNat && c.toNat ≤ last) ||
      (s.letterCase != .exact &&
        (s.letterCase.classOf c).any fun n => first ≤ n && n ≤ last)
  | .cls cls negated => cls.has s.ascii c != negated

/-- Whether a character is in a set. -/
def has (s : CharSet) (c : Char) : Bool := s.items.any (s.hasItem c) != s.negated

end CharSet

/-- A condition on a position in a text. -/
inductive Anchor where
  | textStart
  | textEnd
  /-- The start of the text or, if lines count, the position behind a line feed. -/
  | lineStart (lines : Bool)
  /-- The end of the text, the position before a line feed that ends it or, if lines count, before
  any line feed. -/
  | lineEnd (lines : Bool)
  /-- Between a word character and one that is none, or not so. -/
  | wordEdge (ascii negated : Bool)
deriving DecidableEq, Repr

/-- Which counts of a repetition are tried, in which order. -/
inductive Eagerness where
  /-- Most first. -/
  | greedy
  /-- Fewest first. -/
  | reluctant
  /-- Only the most. -/
  | possessive
deriving DecidableEq, Repr

/-- Patterns as trees. -/
inductive PatternTree where
  | empty
  | one (set : CharSet)
  | seq (first second : PatternTree)
  | alt (first second : PatternTree)
  | run (set : CharSet) (min : Nat) (max : Option Nat) (eagerness : Eagerness)
  | many (body : PatternTree) (min : Nat) (max : Option Nat) (eagerness : Eagerness)
  | capture (index : Nat) (body : PatternTree)
  | atomic (body : PatternTree)
  | ahead (negated : Bool) (body : PatternTree)
  | behind (negated : Bool) (width : Nat) (body : PatternTree)
  | again (index : Nat) (letterCase : LetterCase)
  | ifCaptured (index : Nat) (yes no : PatternTree)
  | anchor (anchor : Anchor)
deriving DecidableEq, Repr

/-- The modes a pattern is read in. -/
structure PatternFlags where
  ignoreCase : Bool := false
  multiline : Bool := false
  dotAll : Bool := false
  verbose : Bool := false
  ascii : Bool := false
  unicode : Bool := false
  template : Bool := false
deriving DecidableEq, Repr

/-- The modes named by letters; other letters are ignored. -/
def PatternFlags.ofLetters (letters : String) : PatternFlags :=
  letters.toList.foldl (fun f c =>
    if c = 'i' then { f with ignoreCase := true }
    else if c = 'm' then { f with multiline := true }
    else if c = 's' then { f with dotAll := true }
    else f) {}

/-- The letters of the three modes that can be asked for from outside. -/
def PatternFlags.letters (f : PatternFlags) : String :=
  (if f.ignoreCase then "i" else "") ++ (if f.multiline then "m" else "")
    ++ (if f.dotAll then "s" else "")

/-- A pattern that has been read. -/
structure Pattern where
  source : String
  flags : PatternFlags
  /-- The number of captures. -/
  groups : Nat
  tree : PatternTree
deriving DecidableEq

namespace Pattern

/-- Whether two patterns were read from the same source in the same modes. -/
def same (p q : Pattern) : Bool := p.source == q.source && p.flags == q.flags

/-- The text that describes a pattern: its source in quotes, cut off after two hundred
characters, and its modes. -/
def describe (p : Pattern) : String :=
  let names := (if p.flags.template then ["re.TEMPLATE"] else [])
    ++ (if p.flags.ignoreCase then ["re.IGNORECASE"] else [])
    ++ (if p.flags.multiline then ["re.MULTILINE"] else [])
    ++ (if p.flags.dotAll then ["re.DOTALL"] else [])
    ++ (if p.flags.verbose then ["re.VERBOSE"] else [])
    ++ (if p.flags.ascii then ["re.ASCII"] else [])
  let source := String.ofList ((quoted p.source.toList).take 200)
  if names.isEmpty then "re.compile(" ++ source ++ ")"
  else "re.compile(" ++ source ++ ", " ++ "|".intercalate names ++ ")"

end Pattern

end Trigger
