import Trigger.Text.Search

/-!
# Bytes as text

Bytes are read as UTF-8. What is not well-formed is refused, or read as replacement characters, one
for each longest part that could start a character or, where there is none, for each byte.
-/

namespace Trigger.Text

/-- The ranges that the second byte of a character can be in, by its first byte, and the number of
bytes that follow the first one. -/
def leadByte? (b : Nat) : Option (Nat × Nat × Nat) :=
  if b < 0xC2 then none
  else if b < 0xE0 then some (1, 0x80, 0xBF)
  else if b = 0xE0 then some (2, 0xA0, 0xBF)
  else if b = 0xED then some (2, 0x80, 0x9F)
  else if b < 0xF0 then some (2, 0x80, 0xBF)
  else if b = 0xF0 then some (3, 0x90, 0xBF)
  else if b < 0xF4 then some (3, 0x80, 0xBF)
  else if b = 0xF4 then some (3, 0x80, 0x8F)
  else none

/-- Reads so many more bytes of a character, of which the next one is in a range and the others are
in the range of all bytes that continue a character. Gives the code, or none if the character is
not complete, and how many bytes were read. -/
def continueCode : Nat → Nat → Nat → Nat → List UInt8 → Option Nat × Nat
  | 0, _, _, code, _ => (some code, 0)
  | _ + 1, _, _, _, [] => (none, 0)
  | more + 1, low, high, code, b :: rest =>
    if low ≤ b.toNat ∧ b.toNat ≤ high then
      let (result, n) := continueCode more 0x80 0xBF (code * 64 + b.toNat % 64) rest
      (result, n + 1)
    else (none, 0)

/-- The character at the start of bytes, none if there is no complete one, and how many bytes it
takes behind the first. -/
def readCode (b : UInt8) (rest : List UInt8) : Option Char × Nat :=
  if b.toNat < 0x80 then (some (Char.ofNat b.toNat), 0)
  else match leadByte? b.toNat with
  | none => (none, 0)
  | some (more, low, high) =>
    let bits := if more = 1 then b.toNat % 32 else if more = 2 then b.toNat % 16 else b.toNat % 8
    let (code, n) := continueCode more low high bits rest
    (code.map Char.ofNat, n)

/-- The characters that bytes stand for, none for each part that is not well-formed. -/
def codes (bytes : List UInt8) : List (Option Char) :=
  match bytes with
  | [] => []
  | b :: rest =>
    let (c, n) := readCode b rest
    c :: codes (rest.drop n)
termination_by bytes.length
decreasing_by simp only [List.length_drop, List.length_cons]; omega

/-- The text of well-formed bytes. -/
def decode? (bytes : List UInt8) : Option (List Char) := (codes bytes).mapM id

/-- The text of bytes, with replacement characters for what is not well-formed. -/
def decodeLossy (bytes : List UInt8) : List Char := (codes bytes).map fun c => c.getD '\uFFFD'

/-- A text with every line end as a line feed. -/
def unifyLineEnds : List Char → List Char
  | [] => []
  | '\r' :: '\n' :: rest => '\n' :: unifyLineEnds rest
  | '\r' :: rest => '\n' :: unifyLineEnds rest
  | c :: rest => c :: unifyLineEnds rest

end Trigger.Text
