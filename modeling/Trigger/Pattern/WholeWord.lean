import Trigger.Pattern.Match

/-!
# Whole words

A term stands as a whole word at a position of a text if its characters stand there, letters
compared without regard to case, and no word character touches them on either side. `wholeWord`
is the pattern of these positions, and `StandsAt` says the same without patterns.
-/

namespace Trigger.Pattern

open Trigger.Text

/-- The characters with a meaning of their own in a pattern text, and the blanks. -/
def specials : List Char := "()[]{}?*+-|^$\\.&~# \t\n\r\u000b\u000c".toList

/-- The pattern text of the given characters themselves. -/
def escape (s : List Char) : List Char :=
  s.flatMap fun c => if specials.contains c then ['\\', c] else [c]

/-- The text of the pattern of a term as a whole word. -/
def wholeWordSource (term : List Char) : String :=
  "(?<!\\w)" ++ String.ofList (escape term) ++ "(?!\\w)"

/-- Characters one after the other, letters compared without regard to case, and then a tree. -/
def lettersThen (after : PatternTree) : List Char → PatternTree
  | [] => after
  | c :: rest => .seq (.one (.single .folded c)) (lettersThen after rest)

/-- The set of word characters. -/
def wordSet : CharSet := ⟨[.cls .word false], false, .exact, false⟩

/-- The pattern of a term as a whole word. -/
def wholeWord (term : List Char) : Pattern :=
  ⟨wholeWordSource term, { ignoreCase := true }, 0,
    .seq (.behind true 1 (.one wordSet)) (lettersThen (.ahead true (.one wordSet)) term)⟩

/-- Whether two texts have the same letters in the same places. -/
def sameLetters : List Char → List Char → Bool
  | [], [] => true
  | c :: s, d :: t => sameLetter c d && sameLetters s t
  | _, _ => false

/-- A term stands as a whole word at a position of a text. -/
structure StandsAt (text term : List Char) (pos : Nat) : Prop where
  inText : pos + term.length ≤ text.length
  letters : sameLetters term ((text.drop pos).take term.length) = true
  notBehind : ∀ c, 0 < pos → text[pos - 1]? = some c → isWord c = false
  notAhead : ∀ c, text[pos + term.length]? = some c → isWord c = false

end Trigger.Pattern
