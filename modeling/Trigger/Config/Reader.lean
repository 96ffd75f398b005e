import Trigger.Config.Basic
import Trigger.Text.Utf8
import Trigger.Toml.Reader

/-!
# Reading configurations

A configuration is a TOML document in UTF-8. A file that is not one gets a second chance: bytes that
are no text are replaced, and a byte-order mark, a fence of backticks around the document and
characters without width at its start are left out.
-/

namespace Trigger

/-- Why a file is no configuration. -/
inductive ConfigFileError where
  /-- No TOML, also after cleaning; with the text that was tried last. -/
  | noToml (text : List Char)
  | config (e : ConfigError)

/-- The wording for a file that is no TOML. -/
def ConfigFileError.noTomlMessage (path : String) (text : List Char) : String :=
  let start := (text.take 80).flatMap fun c => if c = '\n' then ['\\', 'n'] else [c]
  "Failed to parse TOML at " ++ path ++ " after BOM/cleanup. First chars: "
    ++ String.ofList (Text.quoted start)

namespace Config

/-- The fence that a document can be pasted with. -/
def fence : List Char := ['`', '`', '`']

/-- A text without the characters at its end that pass a test. -/
def dropEnd (test : Char → Bool) (s : List Char) : List Char := (s.reverse.dropWhile test).reverse

/-- A text without a fence around it, or without the first half if there is no second one. -/
def unfence (s : List Char) : List Char :=
  if fence.isPrefixOf s then
    let inner := Text.trim (s.dropWhile (· == '`'))
    if fence.isSuffixOf inner then Text.trim (dropEnd (· == '`') inner) else inner
  else s

/-- The characters without width that are left out at the start. -/
def isZeroWidth (c : Char) : Bool := ['\ufeff', '\u200b', '\u200c', '\u200d', '\u2060'].contains c

/-- A text without a byte-order mark. -/
def dropMark : List Char → List Char
  | '\ufeff' :: rest => rest
  | s => s

/-- What is tried if a file is not TOML as it stands. -/
def cleaned (bytes : List UInt8) : List Char :=
  (unfence (Text.trim (Text.unifyLineEnds (dropMark (Text.decodeLossy bytes))))).dropWhile isZeroWidth

/-- The table in a file. -/
def tableOf (bytes : List UInt8) : Except ConfigFileError Toml.Entries :=
  match (Text.decode? bytes).bind Toml.read? with
  | some entries => .ok entries
  | none =>
    match Toml.read? (cleaned bytes) with
    | some entries => .ok entries
    | none => .error (.noToml (cleaned bytes))

/-- The configuration in a file. -/
def ofBytes (library : SchemaLibrary) (bytes : List UInt8) : Except ConfigFileError Config := do
  match ofEntries library (← tableOf bytes) with
  | .ok c => return c
  | .error e => throw (.config e)

end Config

end Trigger
