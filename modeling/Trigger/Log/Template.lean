import Trigger.Decimal.Rounded
import Trigger.Value.Fields
import Trigger.Value.Number

/-!
# Message templates

A template is a text with conversions, each of which a percent sign starts and an argument fills.
Between the sign and the letter of a conversion stand flags, a least width and a precision. Two
percent signs stand for one. A template must use up its arguments exactly.

A mapping that is the only argument also gives its fields to conversions that ask for them, with the
name of a field in parentheses behind the sign. A field can be used once, by the conversion that asks
for it, and what is left over of a mapping does no harm.
-/

namespace Trigger

/-- Why arguments do not fill a template. -/
inductive TemplateError where
  | tooFewArguments
  | tooManyArguments
  | wrongKind
  | incomplete
  | unknownConversion
  | noInteger
  | outOfRange
  | sizeTooLarge
  /-- The name of a field does not end. -/
  | incompleteName
  /-- A mapping has no field with a name. -/
  | noField (name : String)
deriving DecidableEq, Repr

/-- What stands between the sign and the letter of a conversion. -/
structure Conversion where
  left : Bool := false
  plus : Bool := false
  blank : Bool := false
  zero : Bool := false
  alternate : Bool := false
  width : Nat := 0
  precision : Option Nat := none

namespace Conversion

/-- The flags at the start of a text. -/
def readFlags (c : Conversion) : List Char → Conversion × List Char
  | [] => (c, [])
  | f :: rest =>
    match f with
    | '-' => readFlags { c with left := true } rest
    | '+' => readFlags { c with plus := true } rest
    | ' ' => readFlags { c with blank := true } rest
    | '0' => readFlags { c with zero := true } rest
    | '#' => readFlags { c with alternate := true } rest
    | f => (c, f :: rest)

/-- A number, written down or given by an argument, at the start of a text; zero if there is none.
It has a sign and at most so many bits. Behind it come the rest of the text and the arguments that
are left. -/
def readSize (bits : Nat) (s : List Char) (args : List Value) :
    Except TemplateError (Int × List Char × List Value) :=
  match s with
  | '*' :: rest =>
    match args with
    | [] => .error .tooFewArguments
    | .int i :: args =>
      if -Nat.pow 2 bits ≤ i ∧ i < Nat.pow 2 bits then .ok (i, rest, args) else .error .outOfRange
    | .bool b :: args => .ok (if b then 1 else 0, rest, args)
    | _ => .error .wrongKind
  | s =>
    let n : Int := ((s.takeWhile Char.isDigit).foldl (fun n c => 10 * n + (c.toNat - 48)) 0 : Nat)
    if n < Nat.pow 2 bits then .ok (n, s.dropWhile Char.isDigit, args) else .error .sizeTooLarge

/-- The precision at the start of a text, if there is one. -/
def readPrecision (s : List Char) (args : List Value) :
    Except TemplateError (Option Nat × List Char × List Value) :=
  match s with
  | '.' :: s => do
    let (n, s, args) ← readSize 31 s args
    return (some n.toNat, s, args)
  | s => .ok (none, s, args)

/-- The conversion behind a percent sign up to its letter. A negative width stands for its size and
the flag that puts the text to the left. -/
def read (s : List Char) (args : List Value) :
    Except TemplateError (Conversion × List Char × List Value) := do
  let (c, s) := readFlags {} s
  let (width, s, args) ← readSize 63 s args
  let (precision, s, args) ← readPrecision s args
  let c := { c with width := width.natAbs, left := c.left || width < 0, precision }
  match s with
  | m :: rest => return (c, if m = 'h' ∨ m = 'l' ∨ m = 'L' then rest else s, args)
  | [] => throw .incomplete

/-- A text brought to the width of a conversion by blanks. -/
def pad (c : Conversion) (s : List Char) : List Char :=
  let blanks := List.replicate (c.width - s.length) ' '
  if c.left then s ++ blanks else blanks ++ s

/-- A text of a value, cut to the precision. -/
def text (c : Conversion) (s : List Char) : List Char :=
  c.pad (match c.precision with | some p => s.take p | none => s)

/-- A number brought to the width, by zeros behind its sign if that is asked for. -/
def signed (c : Conversion) (negative : Bool) (base digits : List Char) : List Char :=
  let sign := if negative then ['-'] else if c.plus then ['+'] else if c.blank then [' '] else []
  let zeros :=
    if c.zero && !c.left then c.width - (sign.length + base.length + digits.length) else 0
  c.pad (sign ++ base ++ List.replicate zeros '0' ++ digits)

/-- An integer in a base. -/
def integer (c : Conversion) (base : Nat) (mark : List Char) (i : Int) : List Char :=
  let digits := Nat.toDigits base i.natAbs
  let least := List.replicate (c.precision.getD 0 - digits.length) '0'
  c.signed (i < 0) (if c.alternate then mark else []) (least ++ digits)

/-- The integer that an argument stands for. -/
def integerOf (v : Value) : Except TemplateError Int :=
  match v.unbox with
  | .int i => .ok i
  | .bool b => .ok (if b then 1 else 0)
  | .float x =>
    if x.isNaN then .error .noInteger
    else if x.isInf then .error .outOfRange
    else .ok (Decimal.truncate x)
  | _ => .error .wrongKind

/-- The integer that an argument is. -/
def exactIntegerOf (v : Value) : Except TemplateError Int :=
  match v.unbox with
  | .float _ => .error .wrongKind
  | v => integerOf v

/-- The number that an argument stands for. -/
def numberOf (v : Value) : Except TemplateError Float :=
  match v.unbox with
  | .str _ => .error .wrongKind
  | .bool b => .ok (if b then 1.0 else 0.0)
  | v =>
    if v.isNumber then
      match v.toNumber with
      | .ok x => .ok x
      | .error _ => .error .outOfRange
    else .error .wrongKind

/-- A number by a way of writing finite magnitudes. -/
def number (c : Conversion) (write : Decimal.Magnitude → List Char) (x : Float) : List Char :=
  if x.isNaN then c.signed false [] "nan".toList
  else if x.isInf then c.signed (Decimal.isNegative x) [] "inf".toList
  else c.signed (Decimal.isNegative x) [] (write (Decimal.magnitude x))

/-- A description in ASCII. -/
def asciiOnly (s : List Char) : List Char :=
  s.flatMap fun c =>
    if c.toNat < 0x80 then [c]
    else if c.toNat < 0x100 then '\\' :: 'x' :: Text.hexDigits 2 c.toNat
    else if c.toNat < 0x10000 then '\\' :: 'u' :: Text.hexDigits 4 c.toNat
    else '\\' :: 'U' :: Text.hexDigits 8 c.toNat

/-- The character that an argument stands for. -/
def charOf (v : Value) : Except TemplateError Char :=
  match v with
  | .str s =>
    match s.toList with
    | [c] => .ok c
    | _ => .error .wrongKind
  | v => do
    let i ← exactIntegerOf v
    if 0 ≤ i ∧ i.toNat.isValidChar then return Char.ofNat i.toNat else throw .outOfRange

/-- An argument under a conversion with the given letter. -/
def apply (c : Conversion) (letter : Char) (v : Value) : Except TemplateError (List Char) := do
  let upper (s : List Char) : List Char := s.map Char.toUpper
  let places := c.precision.getD 6
  match letter with
  | 's' => return c.text v.plainText.toList
  | 'r' => return c.text v.shown.toList
  | 'a' => return c.text (asciiOnly v.shown.toList)
  | 'c' => return c.pad [← charOf v]
  | 'd' | 'i' | 'u' => return c.integer 10 [] (← integerOf v)
  | 'x' => return c.integer 16 ['0', 'x'] (← exactIntegerOf v)
  | 'X' => return upper (c.integer 16 ['0', 'x'] (← exactIntegerOf v))
  | 'o' => return c.integer 8 ['0', 'o'] (← exactIntegerOf v)
  | 'f' => return c.number (·.fixed places c.alternate) (← numberOf v)
  | 'F' => return upper (c.number (·.fixed places c.alternate) (← numberOf v))
  | 'e' => return c.number (·.scientific places c.alternate) (← numberOf v)
  | 'E' => return upper (c.number (·.scientific places c.alternate) (← numberOf v))
  | 'g' => return c.number (·.general places c.alternate) (← numberOf v)
  | 'G' => return upper (c.number (·.general places c.alternate) (← numberOf v))
  | _ => throw .unknownConversion

end Conversion

/-- The name of a field at the start of a text behind an opening parenthesis, and the text behind the
closing one. Inside of it, so many parentheses are open. -/
def readName (depth : Nat) (name : List Char) : List Char → Option (String × List Char)
  | [] => none
  | ')' :: rest =>
    match depth with
    | 0 => some (String.ofList name.reverse, rest)
    | depth + 1 => readName depth (')' :: name) rest
  | '(' :: rest => readName (depth + 1) ('(' :: name) rest
  | c :: rest => readName depth (c :: name) rest

/-- The arguments for a conversion: those that are left, or the field that it asks for. -/
def selectArgument (fields : Option Fields) (s : List Char) (args : List Value) :
    Except TemplateError (List Char × List Value) :=
  match s, fields with
  | '(' :: _, none => .error .wrongKind
  | '(' :: rest, some fields =>
    match readName 0 [] rest with
    | none => .error .incompleteName
    | some (name, rest) =>
      match fields.lookup name with
      | some v => .ok (rest, [v])
      | none => .error (.noField name)
  | s, _ => .ok (s, args)

/-- A template filled with arguments, and with the fields of a mapping if there is one. The first
argument is an upper bound on the number of characters. -/
def fillFrom (fields : Option Fields) : Nat → List Char → List Value →
    Except TemplateError (List Char)
  | 0, _, _ => .ok []
  | _ + 1, [], args =>
    if args.isEmpty || fields.isSome then .ok [] else .error .tooManyArguments
  | fuel + 1, '%' :: '%' :: rest, args => do return '%' :: (← fillFrom fields fuel rest args)
  | fuel + 1, '%' :: rest, args => do
    let (rest, args) ← selectArgument fields rest args
    let (c, rest, args) ← Conversion.read rest args
    match rest, args with
    | [], _ => throw .incomplete
    | '%' :: rest, args => return '%' :: (← fillFrom fields fuel rest args)
    | _, [] => throw .tooFewArguments
    | letter :: rest, v :: args =>
      let s ← c.apply letter v
      return s ++ (← fillFrom fields fuel rest args)
  | fuel + 1, c :: rest, args => do return c :: (← fillFrom fields fuel rest args)

/-- The fields of a mapping that is the only argument, if it has any. -/
def onlyFields : List Value → Option Fields
  | [.map fields] => if fields.isEmpty then none else some fields
  | _ => none

/-- A template filled with arguments. Where there are none, the template is left as it is. -/
def fillTemplate (template : String) (args : List Value) : Except TemplateError String :=
  if args.isEmpty then .ok template
  else do
    return String.ofList
      (← fillFrom (onlyFields args) (template.length + 1) template.toList args)

end Trigger
