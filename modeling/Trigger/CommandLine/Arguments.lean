import Trigger.Text.Digit

/-!
# Arguments of the command line

A command line has one expression and options, some of which take a value: the next word, or what
follows an equals sign. Long options can be shortened as long as only one of them is meant. A word
with a dash in front is no option if it is a negative number, if it holds a space, or if it stands
behind a double dash.
-/

namespace Trigger.CommandLine

/-- The options of the command line. -/
inductive Flag where
  | help
  | text
  | textFile
  | record
  | state
  | info
  | config
  | check
deriving DecidableEq, Repr

/-- The spellings of the options. -/
def flags : List (String × Flag) :=
  [("-h", .help), ("--help", .help), ("--text", .text), ("--text-file", .textFile),
   ("--record", .record), ("--state", .state), ("--info", .info), ("--config", .config),
   ("--check", .check)]

/-- Whether an option takes a value. -/
def Flag.takesValue : Flag → Bool
  | .help => false
  | .check => false
  | _ => true

/-- The options that say where the data come from, of which only one can be given. -/
def Flag.isSource : Flag → Bool
  | .text => true
  | .textFile => true
  | .record => true
  | _ => false

/-- The words of a command line. -/
inductive Word where
  | plain (s : String)
  | option (flag : Flag) (value : Option String)
  /-- A word that looks like an option but is none. -/
  | unknown
  /-- The double dash, behind which all words are plain. -/
  | dashes
deriving DecidableEq, Repr

/-- Why a command line is refused, or that it only asks for help. -/
inductive UsageError where
  | misused
  | help
deriving DecidableEq, Repr

/-- Whether a word is a negative number, in the digits of any script. A line feed may follow. -/
def isNegativeNumber (s : List Char) : Bool :=
  match (if s.getLast? = some '\n' then s.dropLast else s) with
  | '-' :: rest =>
    let fraction := (rest.dropWhile Text.isDigit).drop 1
    (!rest.isEmpty && rest.all Text.isDigit)
      || ((rest.dropWhile Text.isDigit).head? = some '.' && !fraction.isEmpty
        && fraction.all Text.isDigit)
  | _ => false

/-- A word before and behind its first equals sign, if it has one. -/
def splitValue (s : List Char) : List Char × Option String :=
  match s.dropWhile (· ≠ '=') with
  | [] => (s, none)
  | _ :: value => (s.takeWhile (· ≠ '='), some (String.ofList value))

/-- The options that a word with a dash in front can mean. What follows the letter of a short option
are further short options, which come too late behind the one that there is. -/
def meanings (s : List Char) : List Word :=
  match s with
  | '-' :: '-' :: _ =>
    let (name, value) := splitValue s
    (flags.filter fun (spelling, _) => name.isPrefixOf spelling.toList).map
      fun (_, flag) => .option flag value
  | _ =>
    flags.filterMap fun (spelling, flag) =>
      if spelling.toList = s.take 2 then some (.option flag none) else none

/-- What a word means that does not stand behind a double dash. -/
def classify (word : String) : Except UsageError Word :=
  let s := word.toList
  if s.head? ≠ some '-' ∨ s.length = 1 then .ok (.plain word)
  else match flags.lookup word with
  | some flag => .ok (.option flag none)
  | none =>
    let (name, value) := splitValue s
    match value.bind fun _ => flags.lookup (String.ofList name) with
    | some flag => .ok (.option flag value)
    | none =>
      match meanings s with
      | [w] => .ok w
      | [] =>
        if isNegativeNumber s || s.contains ' ' then .ok (.plain word) else .ok .unknown
      | _ => .error .misused

/-- What the words of a command line mean. -/
def classifyAll : List String → Except UsageError (List Word)
  | [] => .ok []
  | word :: rest =>
    if word = "--" then .ok (.dashes :: rest.map .plain)
    else do
      let w ← classify word
      return w :: (← classifyAll rest)

/-- What a command line says. -/
structure Arguments where
  expression : String
  text : Option String
  textFile : Option String
  record : Option String
  state : Option String
  info : Option String
  config : String
  check : Bool
deriving DecidableEq, Repr

/-- What has been read of a command line. -/
structure Reading where
  expression : Option String := none
  values : List (Flag × String) := []
  check : Bool := false

/-- A value for an option. The last value of an option counts. -/
def Reading.set (r : Reading) (flag : Flag) (value : String) : Except UsageError Reading :=
  if flag.isSource && r.values.any fun (f, _) => f.isSource && f ≠ flag then .error .misused
  else .ok { r with values := (flag, value) :: r.values }

/-- Reads words. Every plain word after the expression is one too many, and so is a double dash
that does not stand next to the expression; `surplus` tells whether there was one. -/
def read (r : Reading) (surplus : Bool) : List Word → Except UsageError Reading
  | [] => if surplus then .error .misused else .ok r
  | .option flag (some value) :: rest =>
    if flag.takesValue then do read (← r.set flag value) surplus rest else .error .misused
  | .option .help none :: _ => .error .help
  | .option .check none :: rest => read { r with check := true } surplus rest
  | .option flag none :: .plain value :: rest => do read (← r.set flag value) surplus rest
  | .option _ none :: _ => .error .misused
  | .unknown :: rest => read r true rest
  | .plain s :: .dashes :: rest =>
    match r.expression with
    | none => read { r with expression := some s } surplus rest
    | some _ => read r true rest
  | .plain s :: rest =>
    match r.expression with
    | none => read { r with expression := some s } surplus rest
    | some _ => read r true rest
  | .dashes :: rest => read r (surplus || r.expression.isSome) rest

/-- The path of the configuration unless another is given. -/
def defaultConfig : String := "config/config.toml"

/-- What the words of a command line say. -/
def Arguments.ofWords (words : List String) : Except UsageError Arguments := do
  let r ← read {} false (← classifyAll words)
  match r.expression with
  | none => throw .misused
  | some expression =>
    return {
      expression
      text := r.values.lookup .text
      textFile := r.values.lookup .textFile
      record := r.values.lookup .record
      state := r.values.lookup .state
      info := r.values.lookup .info
      config := (r.values.lookup .config).getD defaultConfig
      check := r.check }

end Trigger.CommandLine
