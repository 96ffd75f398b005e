import Trigger.Eval.Effect
import Trigger.Similarity
import Trigger.Value.Number

/-!
# Predicates on texts

The functions that look for terms, patterns and words in the current text, which is their first
argument. Terms are looked for without regard to case; words are whole words in the sense of
`Pattern.StandsAt`, except that the functions on similar words look at maximal runs of word
characters. Where the text is null or undefined, it is empty.
-/

namespace Trigger

namespace Builtin

/-- Whether a term is in a text. Truth values answer themselves, patterns are searched for, and
null and undefined are in no text. -/
def hasTerm (text : List Char) : Value → Bool
  | .bool b => b
  | .pattern p => p.occursIn text.toArray
  | v => !v.isNullish && Text.contains (Text.lower v.toText.toList) (Text.lower text)

/-- Whether a pattern occurs in a text. A text that is no pattern occurs nowhere, which is
reported. -/
def occurs (text : List Char) (pattern : Value) (modes : String) : Eval Bool := do
  match pattern with
  | .pattern p => return p.occursIn text.toArray
  | v =>
    match ← (Eval.readPattern v.toText (some modes)).attempt with
    | .ok p => return p.occursIn text.toArray
    | .error (.badPattern .malformed) =>
      Eval.report (.invalidPattern v.toText)
      return false
    | .error e => throw e

/-- The positions at which the successive matches of a pattern start. -/
def starts (p : Pattern) (text : List Char) : List Nat := (p.findAll text.toArray).map (·.start)

/-- The number of occurrences of a pattern or of a whole word. -/
def occurrences (text : List Char) (term : Value) : Eval Nat := do
  let p ← match term with
    | .pattern p => pure p
    | v => Eval.wholeWord v.toText.toList
  return (p.findAll text.toArray).length

/-- Whether a distance is within a reach. -/
def withinReach (reach : Reach) (d : Nat) : Bool :=
  match reach with
  | .within n => d ≤ n
  | .upTo x => Float.ofNat d ≤ x

/-- How far apart two positions are. -/
def gap (a b : Nat) : Nat := (a - b) + (b - a)

/-- Whether two words start somewhere within a reach of each other. -/
def areNear (text : List Char) (word other : Value) (reach : Reach) : Eval Bool := do
  let second := starts (← Eval.wholeWord other.toText.toList) text
  if second.isEmpty then return false
  let first := starts (← Eval.wholeWord word.toText.toList) text
  return first.any fun a => second.any fun b => withinReach reach (gap a b)

/-- Whether words follow each other from a position on, each starting after the start of the one
before. Every word is looked for at its first place. -/
def follows (text : Array Char) : Nat → List Value → Eval Bool
  | _, [] => return true
  | from', word :: rest => do
    let p ← Eval.wholeWord word.toText.toList
    match p.searchFrom? text from' with
    | Option.none => return false
    | Option.some found => follows text (found.start + 1) rest

/-- The maximal runs of word characters. -/
def tokens (text : List Char) : List (List Char) :=
  (text.splitBy fun a b => Text.isWord a == Text.isWord b).filter fun run => run.any Text.isWord

/-- The runs of word characters that are at most two characters longer or shorter than a word. -/
def candidates (text word : List Char) : List (List Char) :=
  (tokens text).filter fun run =>
    max 1 (word.length - 2) ≤ run.length && run.length ≤ word.length + 2

/-- Whether a text has a word that is similar to the given one. -/
def hasSimilar (text word : List Char) (threshold : Float) : Bool :=
  (candidates text word).any fun run => Similarity.isClose run word threshold

/-- The number that an optional argument stands for, or a default. -/
def numberOr (default : Float) (v : Value) : Eval Float :=
  if v.isNullish then return default else Eval.ofExcept v.toNumber

/-- The reach that an optional argument stands for, or a default. -/
def reachOr (default : Reach) (v : Value) : Eval Reach :=
  if v.isNullish then return default else return .upTo (← Eval.ofExcept v.toNumber)

/-- Whether a text has a word that is similar to one of the given ones. -/
def hasSimilarAmong (text : List Char) (threshold : Value) (default : Float) :
    List Value → Eval Bool
  | [] => return false
  | word :: rest => do
    let x ← numberOr default threshold
    if hasSimilar text word.textOrEmpty.toList x then return true
    hasSimilarAmong text threshold default rest

/-- Calls a predicate. The first argument is the text. -/
def call (settings : BuiltinSettings) (f : Builtin) (args : List Value) : Eval Value := do
  match args with
  | [] => throw .wrongArguments
  | text :: args =>
    let text := text.textOrEmpty.toList
    match f, args with
    | .regex, [pattern] => return .bool (← occurs text pattern "")
    | .regex, [pattern, modes] => return .bool (← occurs text pattern modes.textOrEmpty)
    | .any, terms => return .bool (terms.any (hasTerm text))
    | .all, terms => return .bool (terms.all (hasTerm text))
    | .none, terms => return .bool (!terms.any (hasTerm text))
    | .count, [term] => return .int (← occurrences text term)
    | .near, [word, other] => return .bool (← areNear text word other settings.nearReach)
    | .near, [word, other, reach] =>
      return .bool (← areNear text word other (← reachOr settings.nearReach reach))
    | .sequence, words => return .bool (← follows text.toArray 0 words)
    | .fuzzy, [word] =>
      return .bool (hasSimilar text word.textOrEmpty.toList settings.fuzzyThreshold)
    | .fuzzy, [word, threshold] =>
      let x ← numberOr settings.fuzzyThreshold threshold
      return .bool (hasSimilar text word.textOrEmpty.toList x)
    | .fuzzyFind, [word] => return bestMatch text word settings.fuzzyThreshold
    | .fuzzyFind, [word, threshold] =>
      return bestMatch text word (← numberOr settings.fuzzyThreshold threshold)
    | .fuzzyAny, [words] => similarAmong settings text words .null
    | .fuzzyAny, [words, threshold] => similarAmong settings text words threshold
    | _, _ => throw .wrongArguments
where
  /-- The word of a text that is most similar to the given one. -/
  bestMatch (text : List Char) (word : Value) (threshold : Float) : Value :=
    let word := word.textOrEmpty.toList
    match Similarity.best id word threshold (candidates text word) with
    | Option.some (run, _) => .str (String.ofList run)
    | Option.none => .null
  /-- Whether a text has a word similar to one of a list. No other value holds words. -/
  similarAmong (settings : BuiltinSettings) (text : List Char) (words threshold : Value) :
      Eval Value := do
    match words with
    | .list _ words =>
      return .bool (← hasSimilarAmong text threshold settings.fuzzyThreshold words)
    | _ => return .bool false

/-- The names under which expressions call the predicates. -/
def table : List (String × Builtin) :=
  [("regex", .regex), ("any", .any), ("all", .all), ("none", .none), ("count", .count),
   ("near", .near), ("sequence", .sequence), ("seq", .sequence), ("fuzzy", .fuzzy),
   ("fuzzyFind", .fuzzyFind), ("fuzzyAny", .fuzzyAny)]

/-- The predicates with their defaults as the entries of a mapping. -/
def entries (settings : BuiltinSettings) : List (String × Value) :=
  table.map fun (name, f) => (name, .builtin f settings)

end Builtin

end Trigger
