/-!
# Searching in texts

The least position of one text in another, cutting a text at a separator, and putting pieces
together. Positions count characters.
-/

namespace Trigger.Text

/-- The least position at which `needle` stands in a text, if there is one. -/
def find? (needle : List Char) : List Char → Option Nat
  | [] => if needle.isEmpty then some 0 else none
  | c :: rest => if needle.isPrefixOf (c :: rest) then some 0 else (find? needle rest).map (· + 1)

/-- Whether `needle` stands somewhere in a text. -/
def contains (needle s : List Char) : Bool := (find? needle s).isSome

/-- The pieces of a text between the occurrences of a separator of `skip + 1` characters. The
argument `skip` counts the characters of a separator that are still to be passed over, and
`piece` holds the characters of the current piece in reverse. -/
def cutFrom (separator : List Char) (piece : List Char) : Nat → List Char → List (List Char)
  | _, [] => [piece.reverse]
  | skip + 1, _ :: rest => cutFrom separator piece skip rest
  | 0, c :: rest =>
    if separator.isPrefixOf (c :: rest) then
      piece.reverse :: cutFrom separator [] (separator.length - 1) rest
    else cutFrom separator (c :: piece) 0 rest

/-- The pieces of a text between the occurrences of a separator that is not empty, which are looked
for from the left and do not overlap. -/
def cut (separator s : List Char) : List (List Char) := cutFrom separator [] 0 s

/-- The pieces with a separator between each two of them. -/
def join (separator : List Char) : List (List Char) → List Char
  | [] => []
  | [piece] => piece
  | piece :: rest => piece ++ separator ++ join separator rest

end Trigger.Text
