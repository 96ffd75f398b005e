import Trigger.Pattern.Match
import Trigger.Text.Quoted
import Trigger.Value.Equality
import Trigger.Value.Member

/-!
# The standard language

The attributes and methods of numbers, of patterns and of what patterns find, as far as they give
numbers, texts and lists. A method of a value is an object that holds the value and the name of the
method. Objects are told apart by their contents alone, and numbers of column types are compared in
single precision where one of them has it, and in double precision where one of them is no integer.
-/

namespace Trigger

namespace Language

/-! ## Attributes -/

/-- A method of a value as an object. -/
def methodOf (self : Value) (name : String) : Value :=
  .native ⟨"builtin_function_or_method", "<built-in method " ++ name ++ " at 0x0>", true⟩
    [("_self", self), ("_name", .str name)]

/-- The kind of objects that patterns find. -/
def foundKind (shown : String) : NativeKind := ⟨"re.Match", shown, false⟩

/-- The number of the modes in which a pattern was read. -/
def modesNumber (f : PatternFlags) : Nat :=
  (if f.template then 1 else 0) + (if f.ignoreCase then 2 else 0) + (if f.multiline then 8 else 0)
    + (if f.dotAll then 16 else 0) + (if f.ascii then 256 else 32) + (if f.verbose then 64 else 0)

/-- The parts of an integer as a fraction and as a complex number. -/
def integerPart (i : Int) (name : String) : Option Value :=
  if name = "real" ∨ name = "numerator" then some (.int i)
  else if name = "imag" then some (.int 0)
  else if name = "denominator" then some (.int 1)
  else none

/-- The attributes of values that are data. -/
def dataAttribute (v : Value) (name : String) : Option Value :=
  match v with
  | .int i => integerPart i name
  | .bool b => integerPart (if b then 1 else 0) name
  | .float x =>
    if name = "real" then some (.float x)
    else if name = "imag" then some (.float 0.0)
    else none
  | .pattern p =>
    if name = "pattern" then some (.str p.source)
    else if name = "groups" then some (.int p.groups)
    else if name = "flags" then some (.int (modesNumber p.flags))
    else none
  | _ => none

/-- The names of the methods of a value. -/
def methodNames : Value → List String
  | .int _ => ["as_integer_ratio", "bit_count", "bit_length", "conjugate"]
  | .bool _ => ["as_integer_ratio", "bit_count", "bit_length", "conjugate"]
  | .float _ => ["conjugate", "is_integer"]
  | .pattern _ => ["fullmatch", "match", "search"]
  | .native kind _ =>
    if kind.type = "re.Match" then ["end", "group", "groups", "span", "start"] else []
  | _ => []

/-- The attribute of a value with a name. -/
def standardAttribute (v : Value) (name : String) : Option Value :=
  (dataAttribute v name).or (if name ∈ methodNames v then some (methodOf v name) else none)

/-! ## Methods -/

/-- A match of a pattern in a text as an object. -/
def foundValue (p : Pattern) (s : String) (m : Pattern.Found) : Value :=
  let text := s.toList.toArray
  let whole := String.ofList (Pattern.slice text m.start m.stop)
  let texts := (some whole.toList :: p.captureTexts text m).map fun
    | some piece => Value.str (String.ofList piece)
    | none => .null
  let spans := (some (m.start, m.stop) :: (List.range p.groups).map fun i =>
      Pattern.span? m.captures (i + 1)).map fun
    | some (start, stop) => Value.list .tuple [.int start, .int stop]
    | none => .list .tuple [.int (-1), .int (-1)]
  let shown := "<re.Match object; span=(" ++ toString m.start ++ ", " ++ toString m.stop
    ++ "), match=" ++ Text.quote whole ++ ">"
  .native (foundKind shown) [("string", .str s), ("re", .pattern p), ("pos", .int 0),
    ("endpos", .int s.length), ("_groups", .list .tuple texts), ("_spans", .list .tuple spans)]

/-- What a pattern finds in a text, null if it finds nothing. -/
def foundOrNull (p : Pattern) (s : String) : Option Pattern.Found → Value
  | some m => foundValue p s m
  | none => .null

/-- The match of a pattern with the whole text. -/
def wholeMatch? (p : Pattern) (s : String) : Option Pattern.Found :=
  -- with the end of the text in the pattern, a match that stops before it is given up for another
  let text := s.toList.toArray
  ({ p with tree := .seq p.tree (.anchor .textEnd) } : Pattern).matchAt? text false 0

/-- The items of a part of an object. -/
def itemsOf (parts : List (String × Value)) (name : String) : List Value :=
  match parts.lookup name with
  | some (.list _ items) => items
  | _ => []

/-- The item for a group of a match; the whole match is group 0. -/
def groupItem (items : List Value) (args : List Value) : Except Fault Value :=
  let at' (i : Int) : Except Fault Value :=
    match Value.atPosition items i with
    | some v => .ok v
    | none => .error (.hostFailure "IndexError")
  match args with
  | [] => at' 0
  | [.int i] => at' i
  | [_] => .error (.hostFailure "IndexError")
  | _ => .error .wrongArguments

/-- An item of a pair. -/
def pairItem (second : Bool) (v : Value) : Value :=
  match v with
  | .list _ [a, b] => if second then b else a
  | v => v

/-- The methods of a match. -/
def callFound (parts : List (String × Value)) (name : String) (args : List Value) :
    Except Fault Value :=
  let groups := itemsOf parts "_groups"
  let spans := itemsOf parts "_spans"
  let withDefault (default : Value) : Value :=
    .list .tuple (groups.tail.map fun v => if v.isNullish then default else v)
  match name, args with
  | "group", args => groupItem groups args
  | "span", args => groupItem spans args
  | "start", args => (groupItem spans args).map (pairItem false)
  | "end", args => (groupItem spans args).map (pairItem true)
  | "groups", [] => .ok (withDefault .null)
  | "groups", [default] => .ok (withDefault default)
  | _, _ => .error .wrongArguments

/-- The methods of an integer. -/
def callInteger (i : Int) (name : String) (args : List Value) : Except Fault Value :=
  match name, args with
  | "as_integer_ratio", [] => .ok (.list .tuple [.int i, .int 1])
  | "bit_count", [] => .ok (.int ((Nat.toDigits 2 i.natAbs).count '1'))
  | "bit_length", [] => .ok (.int (if i = 0 then 0 else Nat.log2 i.natAbs + 1))
  | "conjugate", [] => .ok (.int i)
  | _, _ => .error .wrongArguments

/-- What a method of a value gives for arguments. -/
def callMethod (self : Value) (name : String) (args : List Value) : Except Fault Value :=
  match self, args with
  | .int i, args => callInteger i name args
  | .bool b, args => callInteger (if b then 1 else 0) name args
  | .float x, [] =>
    if name = "is_integer" then .ok (.bool (x.isFinite && Decimal.isIntegral x)) else .ok (.float x)
  | .pattern p, [.str s] =>
    let text := s.toList.toArray
    .ok (foundOrNull p s (if name = "search" then p.searchFrom? text 0
      else if name = "match" then p.matchAt? text false 0
      else wholeMatch? p s))
  | .native _ parts, args => callFound parts name args
  | _, _ => .error .wrongArguments

/-- What an object of the language does when it is called with arguments. -/
def standardCall (f : Value) (args : List Value) : Script :=
  match f with
  | .native _ parts =>
    match parts.lookup "_self", parts.lookup "_name" with
    | some self, some (.str name) => .done (callMethod self name args)
    | _, _ => .done (.error .notCallable)
  | _ => .done (.error .notCallable)

/-! ## Comparison -/

/-- Whether a number of a column type equals a plain number or truth value. -/
def mixedPrecision (a b : Value) : Bool :=
  match a, b with
  | .int i, .float x => Decimal.ofInt? i == some x
  | .float x, .int i => some x == Decimal.ofInt? i
  | a, b => Value.sameScalar a b

/-- Whether a number of a column type equals a value. -/
def standardBoxedEquals (b : BoxedNumber) (v : Value) : Bool :=
  match b, v with
  | .float32 x, .float y => x == y.toFloat32
  | b, v => mixedPrecision (Value.ofBoxedNumber b) v.unbox

/-- The standard language. -/
def standard : Language where
  attributeOf := standardAttribute
  call := standardCall
  identical _ _ := false
  boxedEquals := standardBoxedEquals

end Language

end Trigger
