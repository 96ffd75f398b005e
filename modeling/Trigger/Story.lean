import Trigger.Pattern.Match
import Trigger.Pattern.WholeWord

/-!
# The recent story

A full context holds the story so far behind the header `Recent Story:`, up to a marker of the
generator or of a comment. Notes of the author in square brackets do not belong to the story. Both
are found by patterns that recognise all fixed words without regard to case, with white space
between them or none.
-/

namespace Trigger.Story

open Text Pattern

/-- The set of white space. -/
def spaceSet : CharSet := ⟨[.cls .space false], false, .exact, false⟩

/-- White space, as much of it as there is, and then a tree. -/
def blanksThen (after : PatternTree) : PatternTree := .seq (.run spaceSet 0 none .greedy) after

/-! ## Notes -/

/-- The text of the pattern of an author's note. -/
def noteSource : String := "\\[Author['’]s\\s*note:[^\\]]*\\]"

/-- The apostrophes, straight and curly. -/
def apostrophes : CharSet := ⟨[.code 39, .code 8217], false, .folded, false⟩

/-- The characters within a note, which ends with the first closing bracket. -/
def notClosing : CharSet := ⟨[.code 93], true, .folded, false⟩

/-- The pattern of an author's note. -/
def notePattern : Pattern :=
  ⟨noteSource, { ignoreCase := true }, 0,
    lettersThen (.seq (.one apostrophes) (lettersThen (blanksThen (lettersThen
      (.seq (.run notClosing 0 none .greedy) (.one (.single .folded ']'))) "note:".toList))
      ['s'])) "[Author".toList⟩

/-- A text with each author's note replaced by a space. -/
def stripNotes (text : List Char) : List Char := notePattern.replace [' '] text.toArray

/-! ## The story -/

/-- The text of the pattern of the story. -/
def storySource : String := "Recent\\s*Story\\s*:\\s*([\\s\\S]*?)(?=%@GEN@%|%@COM@%|$)"

/-- The header of the story, and then a tree. -/
def headerThen (after : PatternTree) : PatternTree :=
  lettersThen (blanksThen (lettersThen (blanksThen (lettersThen after [':'])) "Story".toList))
    "Recent".toList

/-- A marker between signs. -/
def markerTree (kind : String) : PatternTree :=
  lettersThen (.one (.single .folded '%')) ("%@".toList ++ kind.toList ++ ['@'])

/-- The place where the story ends: a marker or the end of the text. -/
def storyEnd : PatternTree :=
  .alt (markerTree "GEN") (.alt (markerTree "COM") (.anchor (.lineEnd false)))

/-- The set of all characters, those that are white space and those that are not. -/
def anySet : CharSet := ⟨[.cls .space false, .cls .space true], false, .folded, false⟩

/-- The pattern of the story behind its header. What follows the blanks behind the header is
captured, as little of it as leads to an end. -/
def storyPattern : Pattern :=
  ⟨storySource, { ignoreCase := true }, 1,
    headerThen (blanksThen
      (.seq (.capture 1 (.run anySet 0 none .reluctant)) (.ahead false storyEnd)))⟩

/-- What the pattern of the story captures in a context, if the header stands there. -/
def captured? (context : Array Char) : Option (List Char) := do
  let m ← storyPattern.searchFrom? context 0
  let (start, stop) ← span? m.captures 1
  return slice context start stop

/-- The recent story in a full context, without notes and blanks around it; empty if there is no
header. -/
def recent (context : List Char) : List Char :=
  match captured? context.toArray with
  | none => []
  | some story => trim (stripNotes story)

end Trigger.Story
