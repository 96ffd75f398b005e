import Trigger.Pattern.Basic

/-!
# Reading patterns

A pattern text is cut into units, each a character or a backslash with the character behind it,
and read by recursive descent. Besides the tree the reader keeps the captures seen so far with
their widths, since a capture may be referred to only when it is closed, and an assertion about
the text behind a position must have one fixed width.

A text is refused if it is no pattern, if a repetition count is beyond the limit, or if the modes
asked for contradict each other.
-/

namespace Trigger

open Trigger.Text

/-- Why a text is refused as a pattern. -/
inductive PatternError where
  | malformed
  | repetitionTooLarge
  | contradictoryModes
deriving DecidableEq, Repr

namespace Pattern

/-- A character, or a backslash with a character. -/
inductive PatternUnit where
  | plain (c : Char)
  | escaped (c : Char)
  /-- A backslash at the end of the text. -/
  | dangling
deriving DecidableEq, Repr

/-- The units of a pattern text. -/
def units : List Char → List PatternUnit
  | [] => []
  | '\\' :: c :: rest => .escaped c :: units rest
  | ['\\'] => [.dangling]
  | c :: rest => .plain c :: units rest

/-- The least and the greatest number of characters that a tree can match; no greatest number
stands for no bound. -/
structure Width where
  least : Nat
  most : Option Nat

namespace Width

/-- No character. -/
def zero : Width := ⟨0, some 0⟩

/-- One character. -/
def one : Width := ⟨1, some 1⟩

/-- The width of two trees one after the other. -/
def plus (a b : Width) : Width :=
  ⟨a.least + b.least, do return (← a.most) + (← b.most)⟩

/-- The width of one tree or another. -/
def either (a b : Width) : Width :=
  ⟨min a.least b.least, do return max (← a.most) (← b.most)⟩

/-- The width of a repetition. -/
def times (w : Width) (min : Nat) (max : Option Nat) : Width :=
  ⟨w.least * min, match w.most, max with
    | some 0, _ => some 0
    | some n, some m => some (n * m)
    | none, some 0 => some 0
    | _, _ => none⟩

/-- The single width a text behind a position must have. -/
def fixed? (w : Width) : Option Nat :=
  if w.most = some w.least ∧ w.least < Nat.pow 2 32 then some w.least else none

end Width

/-- What a quantifier may follow. -/
inductive PieceKind where
  | anchor
  | repeated
  | other
deriving DecidableEq

/-- A tree with its width. -/
structure Piece where
  tree : PatternTree
  width : Width
  kind : PieceKind := .other

namespace Piece

/-- The empty piece. -/
def empty : Piece := ⟨.empty, .zero, .other⟩

/-- One character of a set. -/
def set (s : CharSet) : Piece := ⟨.one s, .one, .other⟩

/-- The sequence of pieces that are given in reverse. -/
def sequence : List Piece → Piece
  | [] => empty
  | p :: before =>
    before.foldl (fun after q => ⟨.seq q.tree after.tree, q.width.plus after.width, .other⟩)
      { p with kind := .other }

/-- One piece or else another. -/
def either (p q : Piece) : Piece := ⟨.alt p.tree q.tree, p.width.either q.width, .other⟩

/-- A piece repeated so many times. A set is repeated without recursion into trees. -/
def repeated (p : Piece) (min : Nat) (max : Option Nat) (eagerness : Eagerness) : Piece :=
  let tree := match p.tree with
    | .one s => .run s min max eagerness
    | t => .many t min max eagerness
  ⟨tree, p.width.times min max, .repeated⟩

end Piece

/-- What the reader knows besides the pieces: the units to come, the modes of the whole pattern,
the captures with the widths of the closed ones, their names, and what has to be checked when the
whole text is read. -/
structure ReaderState where
  rest : List PatternUnit
  flags : PatternFlags
  widths : List (Option Width) := []
  names : List (String × Nat) := []
  /-- Within an assertion about the text behind, the number of the first capture inside it. -/
  innerCaptures : Option Nat := none
  /-- The greatest capture number in a condition. -/
  conditionRef : Nat := 0
  /-- An assertion about the text behind has no fixed width. -/
  variableBehind : Bool := false
  repetition : Bool := false

/-- Reading steps. -/
abbrev Reading := StateT ReaderState (Except PatternError)

namespace Reading

/-- Refuses the text. -/
def fail {α : Type} : Reading α := throw .malformed

/-- The next unit, which stays. -/
def peek : Reading (Option PatternUnit) := do
  match (← get).rest with
  | .dangling :: _ => fail
  | u :: _ => return some u
  | [] => return none

/-- Takes the next unit; a lone backslash behind it is noticed at once. -/
def next : Reading (Option PatternUnit) := do
  let u ← peek
  modify fun s => { s with rest := s.rest.drop 1 }
  let _ ← peek
  return u

/-- Takes the next unit if it is a given character. -/
def accept (c : Char) : Reading Bool := do
  if (← peek) = some (.plain c) then
    let _ ← next
    return true
  return false

/-- Takes a plain character, which must come next. -/
def expect (c : Char) : Reading PUnit := do
  if !(← accept c) then fail

/-- Takes plain characters of a class while there are some, at most `limit`. -/
def takeWhile (p : Char → Bool) : Nat → Reading (List Char)
  | 0 => return []
  | limit + 1 => do
    match ← peek with
    | some (.plain c) =>
      if p c then
        let _ ← next
        return c :: (← takeWhile p limit)
      else return []
    | _ => return []

/-- Takes all units up to a given character and that character; the units, if there are any, make
up a name. -/
def takeUntil (stop : Char) : Reading (List Char) := do
  let s ← get
  let before := s.rest.takeWhile (· ≠ .plain stop)
  let after := s.rest.drop before.length
  if before.isEmpty || after.isEmpty then fail
  set { s with rest := after.drop 1 }
  return before.flatMap fun
    | .plain c => [c]
    | .escaped c => ['\\', c]
    | .dangling => ['\\']

/-- Units up to the end of a comment. -/
def skipPast (stop : Char) : Reading Bool := do
  let s ← get
  let after := s.rest.dropWhile (· ≠ .plain stop)
  set { s with rest := after.drop 1 }
  return !after.isEmpty

end Reading

open Reading

/-- A digit of base sixteen. -/
def isHex (c : Char) : Bool := c.isDigit || ('a' ≤ c && c ≤ 'f') || ('A' ≤ c && c ≤ 'F')

/-- A digit of base eight. -/
def isOctal (c : Char) : Bool := '0' ≤ c && c ≤ '7'

/-- The number that digits of a base up to sixteen stand for. -/
def number (base : Nat) (digits : List Char) : Nat :=
  digits.foldl (fun n c =>
    base * n + (if c.isDigit then c.toNat - 48 else if 'a' ≤ c then c.toNat - 87 else c.toNat - 55)) 0

/-- A name is a word that does not start with a digit. -/
def isName (s : List Char) : Bool :=
  match s with
  | [] => false
  | c :: _ => !isDigit c && s.all isWord

/-- How letters are compared in a mode. -/
def letterCase (f : PatternFlags) : LetterCase :=
  if !f.ignoreCase then .exact else if f.ascii then .ascii else .folded

/-- The set of the character with a code. -/
def codeSet (f : PatternFlags) (n : Nat) : CharSet := ⟨[.code n], false, letterCase f, f.ascii⟩

/-- The letters that stand for named classes behind a backslash. -/
def classLetter : Char → Option (CharClass × Bool)
  | 'd' => some (.digit, false)
  | 'D' => some (.digit, true)
  | 's' => some (.space, false)
  | 'S' => some (.space, true)
  | 'w' => some (.word, false)
  | 'W' => some (.word, true)
  | _ => none

/-- The letters that stand for control characters behind a backslash, and the backslash. -/
def controlLetter : Char → Option Nat
  | 'a' => some 7
  | 'b' => some 8
  | 'f' => some 12
  | 'n' => some 10
  | 'r' => some 13
  | 't' => some 9
  | 'v' => some 11
  | '\\' => some 92
  | _ => none

/-- The code behind one of the letters `x`, `u` and `U`, in exactly two, four or eight digits. -/
def readCode (digits : Nat) : Reading Nat := do
  let ds ← takeWhile isHex digits
  if ds.length ≠ digits then fail
  let n := number 16 ds
  if 0x110000 ≤ n then fail
  return n

/-- A member of a set of characters that is written with a backslash. -/
def readSetEscape (c : Char) : Reading SetItem := do
  if let some n := controlLetter c then return .code n
  if let some (cls, negated) := classLetter c then return .cls cls negated
  if c = 'x' then return .code (← readCode 2)
  if c = 'u' then return .code (← readCode 4)
  if c = 'U' then return .code (← readCode 8)
  if isOctal c then
    let n := number 8 (c :: (← takeWhile isOctal 2))
    if 0o377 < n then fail
    return .code n
  if c.isDigit || c.isAlpha then fail
  return .code c.toNat

/-- A member of a set of characters whose first unit has been taken. -/
def readSetItem : PatternUnit → Reading SetItem
  | .plain c => return .code c.toNat
  | .escaped c => readSetEscape c
  | .dangling => fail

/-- The members of a set up to its closing bracket. -/
def readSetItems : Nat → List SetItem → Reading (List SetItem)
  | 0, _ => fail
  | fuel + 1, items => do
    let some u ← next | fail
    if u = .plain ']' && !items.isEmpty then return items.reverse
    let first ← readSetItem u
    if ← accept '-' then
      let some v ← next | fail
      if v = .plain ']' then return (.code 45 :: first :: items).reverse
      match first, ← readSetItem v with
      | .code lo, .code hi =>
        if hi < lo then fail
        readSetItems fuel (.range lo hi :: items)
      | _, _ => fail
    else readSetItems fuel (first :: items)

/-- The width of a capture that may be referred to: it is closed, and it does not stand within the
same assertion about the text behind. -/
def captureWidth (index : Nat) : Reading Width := do
  let s ← get
  let some (some w) := s.widths[index - 1]? | fail
  match s.innerCaptures with
  | some n => if n ≤ index then fail
  | none => pure ()
  return w

/-- A piece that is written with a backslash. -/
def readEscape (f : PatternFlags) (c : Char) : Reading Piece := do
  let anchor (a : Anchor) : Piece := ⟨.anchor a, .zero, .anchor⟩
  if c = 'A' then return anchor .textStart
  if c = 'Z' then return anchor .textEnd
  if c = 'b' then return anchor (.wordEdge f.ascii false)
  if c = 'B' then return anchor (.wordEdge f.ascii true)
  if let some (cls, negated) := classLetter c then
    return .set ⟨[.cls cls negated], false, .exact, f.ascii⟩
  if let some n := controlLetter c then return .set (codeSet f n)
  if c = 'x' then return .set (codeSet f (← readCode 2))
  if c = 'u' then return .set (codeSet f (← readCode 4))
  if c = 'U' then return .set (codeSet f (← readCode 8))
  if c = '0' then return .set (codeSet f (number 8 (← takeWhile isOctal 2)))
  if c.isDigit then
    let second ← takeWhile Char.isDigit 1
    if isOctal c && second.length = 1 && second.all isOctal then
      let third ← takeWhile isOctal 1
      if third.length = 1 then
        let n := number 8 (c :: second ++ third)
        if 0o377 < n then fail
        return .set (codeSet f n)
    let index := number 10 (c :: second)
    return ⟨.again index (letterCase f), ← captureWidth index, .other⟩
  if c.isAlpha then fail
  return .set (codeSet f c.toNat)

/-- The greatest count a repetition may have. -/
def repetitionLimit : Nat := 4294967295

/-- A bound of a repetition, if it is given. -/
def readBound (digits : List Char) : Reading (Option Nat) := do
  if digits.isEmpty then return none
  let n := number 10 digits
  if repetitionLimit ≤ n then throw .repetitionTooLarge
  return some n

/-- The bounds of the quantifier that starts with a given character, or none if a brace is no
quantifier and stands for itself. -/
def readQuantifier (c : Char) : Reading (Option (Nat × Option Nat)) := do
  if c = '?' then return some (0, some 1)
  if c = '*' then return some (0, none)
  if c = '+' then return some (1, none)
  let before := (← get).rest
  if (← peek) = some (.plain '}') then return none
  let low ← takeWhile Char.isDigit before.length
  let comma ← accept ','
  let high ← if comma then takeWhile Char.isDigit before.length else pure low
  if !(← accept '}') then
    modify fun s => { s with rest := before }
    return none
  let min ← readBound low
  let max ← readBound high
  match max with
  | some m => if m < min.getD 0 then fail
  | none => pure ()
  return some (min.getD 0, max)

/-- The mark of eagerness behind a quantifier. -/
def readEagerness : Reading Eagerness := do
  let reluctant ← accept '?'
  if reluctant then return .reluctant
  let possessive ← accept '+'
  return if possessive then .possessive else .greedy

/-- The mode that a letter turns on. -/
def modeLetter (c : Char) (f : PatternFlags) : Option PatternFlags :=
  match c with
  | 'i' => some { f with ignoreCase := true }
  | 'm' => some { f with multiline := true }
  | 's' => some { f with dotAll := true }
  | 'x' => some { f with verbose := true }
  | 'a' => some { f with ascii := true }
  | 'u' => some { f with unicode := true }
  | 't' => some { f with template := true }
  | _ => none

/-- Modes that are on in either. -/
def unite (f g : PatternFlags) : PatternFlags :=
  ⟨f.ignoreCase || g.ignoreCase, f.multiline || g.multiline, f.dotAll || g.dotAll,
    f.verbose || g.verbose, f.ascii || g.ascii, f.unicode || g.unicode, f.template || g.template⟩

/-- The modes within a group that turns some on and others off. The two repertoires of characters
exclude each other. -/
def adjust (f on off : PatternFlags) : PatternFlags :=
  let f := if on.ascii || on.unicode then { f with ascii := false, unicode := false } else f
  let g := unite f on
  ⟨g.ignoreCase && !off.ignoreCase, g.multiline && !off.multiline, g.dotAll && !off.dotAll,
    g.verbose && !off.verbose, g.ascii, g.unicode, g.template⟩

/-- Whether two lists of modes have one in common. -/
def overlap (f g : PatternFlags) : Bool :=
  (f.ignoreCase && g.ignoreCase) || (f.multiline && g.multiline) || (f.dotAll && g.dotAll)
    || (f.verbose && g.verbose)

/-- Mode letters up to one of the given characters, which is returned. -/
def readModes (stops : List Char) : Nat → Char → PatternFlags → Reading (PatternFlags × Char)
  | 0, _, _ => fail
  | fuel + 1, c, f => do
    let some g := modeLetter c f | fail
    if g.ascii && g.unicode then fail
    let some (.plain d) ← next | fail
    if stops.contains d then return (g, d)
    readModes stops fuel d g

/-- The modes of a group whose first mode character has been taken: modes for the whole pattern,
or the modes that the group turns on and off. -/
def readGroupModes (c : Char) : Reading (PatternFlags ⊕ (PatternFlags × PatternFlags)) := do
  let size := (← get).rest.length + 1
  let (on, stop) ← if c = '-' then pure ({}, '-') else readModes [')', '-', ':'] size c {}
  if stop = ')' then return .inl on
  if on.template then fail
  if stop = ':' then return .inr (on, {})
  let some (.plain d) ← next | fail
  let (off, _) ← readModes [':'] size d {}
  if off.ascii || off.unicode || off.template || overlap on off then fail
  return .inr (on, off)

/-- Opens a capture, under a name if one is given. -/
def openCapture (name : Option String) : Reading Nat := do
  let s ← get
  let index := s.widths.length + 1
  match name with
  | some n =>
    if (s.names.lookup n).isSome then fail
    set { s with widths := s.widths ++ [none], names := (n, index) :: s.names }
  | none => set { s with widths := s.widths ++ [none] }
  return index

/-- Notes the width of a capture whose end has been read. -/
def closeCapture (index : Nat) (w : Width) : Reading PUnit :=
  modify fun s => { s with widths := s.widths.set (index - 1) (some w) }

/-- The capture number that a condition names. -/
def readCondition : Reading Nat := do
  let name ← takeUntil ')'
  let s ← get
  let index ←
    if isName name then
      match s.names.lookup (String.ofList name) with
      | some n => pure n
      | none => fail
    else
      let ds := trim name
      let ds := if ds.head? = some '+' then ds.drop 1 else ds
      if ds.isEmpty || !ds.all isDigit then fail
      let n := ds.foldl (fun n c => 10 * n + (digitValue? c).getD 0) 0
      if n = 0 then fail
      modify fun s => { s with conditionRef := max s.conditionRef n }
      pure n
  if s.innerCaptures.isSome then
    let _ ← captureWidth index
  return index

mutual

/-- Alternatives up to a closing parenthesis or the end of the text. -/
def readAlternatives (f : PatternFlags) (top : Bool) : Nat → Reading Piece
  | 0 => fail
  | fuel + 1 => do
    let p ← readSequence f top [] fuel
    readMoreAlternatives f top p fuel

/-- The alternatives behind one that has been read. The modes of the whole pattern, which its
first alternative may set, hold in the others. -/
def readMoreAlternatives (f : PatternFlags) (top : Bool) (p : Piece) : Nat → Reading Piece
  | 0 => fail
  | fuel + 1 => do
    if ← accept '|' then
      let s ← get
      let f := if top then s.flags else f
      let q ← readSequence f false [] fuel
      let rest ← readMoreAlternatives f top q fuel
      return p.either rest
    else return p

/-- A sequence of pieces; those that have been read are given in reverse. Modes for the whole
pattern may be set only in front of the first piece, where `first` holds. -/
def readSequence (f : PatternFlags) (first : Bool) (pieces : List Piece) : Nat → Reading Piece
  | 0 => fail
  | fuel + 1 => do
    match ← peek with
    | none => return .sequence pieces
    | some .dangling => fail
    | some (.escaped c) =>
      let _ ← next
      let p ← readEscape f c
      readSequence f first (p :: pieces) fuel
    | some (.plain c) =>
      if c = '|' || c = ')' then return .sequence pieces
      let _ ← next
      if f.verbose && isAsciiSpace c then readSequence f first pieces fuel
      else if f.verbose && c = '#' then
        let _ ← skipPast '\n'
        readSequence f first pieces fuel
      else if c = '[' then
        let negated ← accept '^'
        let items ← readSetItems ((← get).rest.length + 1) []
        readSequence f first (.set ⟨items, negated, letterCase f, f.ascii⟩ :: pieces) fuel
      else if c = '.' then
        let s := if f.dotAll then CharSet.all else .notNewline
        readSequence f first (.set s :: pieces) fuel
      else if c = '^' then
        readSequence f first (⟨.anchor (.lineStart f.multiline), .zero, .anchor⟩ :: pieces) fuel
      else if c = '$' then
        readSequence f first (⟨.anchor (.lineEnd f.multiline), .zero, .anchor⟩ :: pieces) fuel
      else if c = '*' || c = '+' || c = '?' || c = '{' then
        match ← readQuantifier c with
        | none => readSequence f first (.set (codeSet f c.toNat) :: pieces) fuel
        | some (min, max) =>
          match pieces with
          | [] => fail
          | p :: before =>
            if p.kind ≠ .other then fail
            let eagerness ← readEagerness
            modify fun s => { s with repetition := true }
            readSequence f first (p.repeated min max eagerness :: before) fuel
      else if c = '(' then
        match ← readGroup f (first && pieces.isEmpty) fuel with
        | some p => readSequence f first (p :: pieces) fuel
        | none =>
          let s ← get
          readSequence (if first then s.flags else f) first pieces fuel
      else readSequence f first (.set (codeSet f c.toNat) :: pieces) fuel

/-- A group whose opening parenthesis has been taken; none if it is a comment or sets modes of the
whole pattern. -/
def readGroup (f : PatternFlags) (first : Bool) : Nat → Reading (Option Piece)
  | 0 => fail
  | fuel + 1 => do
    if !(← accept '?') then
      return some (← readCapture f none fuel)
    let some (.plain c) ← next | fail
    if c = 'P' then
      if ← accept '<' then
        let name ← takeUntil '>'
        if !isName name then fail
        return some (← readCapture f (some (String.ofList name)) fuel)
      expect '='
      let name ← takeUntil ')'
      if !isName name then fail
      let some index := (← get).names.lookup (String.ofList name) | fail
      return some ⟨.again index (letterCase f), ← captureWidth index, .other⟩
    else if c = '#' then
      if ← skipPast ')' then return none else fail
    else if c = ':' then
      let p ← readAlternatives f false fuel
      expect ')'
      return some { p with kind := .other }
    else if c = '>' then
      let p ← readAlternatives f false fuel
      expect ')'
      return some ⟨.atomic p.tree, p.width, .other⟩
    else if c = '=' || c = '!' then
      let p ← readAlternatives f false fuel
      expect ')'
      return some ⟨.ahead (c = '!') p.tree, .zero, .other⟩
    else if c = '<' then
      let some (.plain d) ← next | fail
      if d ≠ '=' && d ≠ '!' then fail
      let outer := (← get).innerCaptures
      if outer.isNone then
        modify fun s => { s with innerCaptures := some (s.widths.length + 1) }
      let p ← readAlternatives f false fuel
      modify fun s => { s with innerCaptures := outer }
      expect ')'
      if p.width.fixed?.isNone then modify fun s => { s with variableBehind := true }
      return some ⟨.behind (d = '!') (p.width.fixed?.getD 0) p.tree, .zero, .other⟩
    else if c = '(' then
      let index ← readCondition
      let yes ← readSequence f false [] fuel
      let hasNo ← accept '|'
      let no ← if hasNo then readSequence f false [] fuel else pure .empty
      if hasNo && (← peek) = some (.plain '|') then fail
      expect ')'
      return some ⟨.ifCaptured index yes.tree no.tree, yes.width.either no.width, .other⟩
    else
      match ← readGroupModes c with
      | .inl on =>
        if !first then fail
        modify fun s => { s with flags := unite s.flags on }
        return none
      | .inr (on, off) =>
        let p ← readAlternatives (adjust f on off) false fuel
        expect ')'
        return some { p with kind := .other }

/-- A capture whose opening has been taken. -/
def readCapture (f : PatternFlags) (name : Option String) : Nat → Reading Piece
  | 0 => fail
  | fuel + 1 => do
    let index ← openCapture name
    let p ← readAlternatives f false fuel
    expect ')'
    closeCapture index p.width
    return ⟨.capture index p.tree, p.width, .other⟩

end

/-- The pattern that a text stands for in given modes. -/
def read (source : String) (flags : PatternFlags) : Except PatternError Pattern := do
  let us := units source.toList
  let (p, s) ← (readAlternatives flags true (4 * us.length + 4)).run { rest := us, flags }
  if s.flags.ascii && s.flags.unicode then throw .contradictoryModes
  if !s.rest.isEmpty || s.widths.length < s.conditionRef || s.variableBehind
      || (s.flags.template && s.repetition) then
    throw .malformed
  return ⟨source, s.flags, s.widths.length, p.tree⟩

end Pattern

end Trigger
