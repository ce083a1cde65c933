import DocBridge.Toml.Document
import DocBridge.Config.Expand
import DocBridge.Compile.State

/-!
# Settings

The defaults of a compile and of batching, read from a TOML file: `start_index` (1),
`tab_id` (none), `title_for_first_h1` (false) and `max_batch_size` (50). Other keys and
tables are ignored; a key of the wrong type makes the file unreadable as settings. The
tab id has its variables expanded (`Config.expand`), and is kept as written when that
fails. A start index or batch size of 0 is refused.
-/

namespace DocBridge.Config

/-- The settings. -/
structure Settings where
  startIndex : Nat := 1
  tabId : Option String := none
  titleForFirstH1 : Bool := false
  maxBatchSize : Nat := 50
  deriving Repr, Inhabited, DecidableEq

/-- Why settings could not be loaded. -/
inductive SettingsError where
  /-- The file could not be read; the cause as the system words it. -/
  | readFailed (path cause : String)
  /-- The file is not valid TOML, or a key has the wrong type. -/
  | parseFailed (path : String)
  | invalidStartIndex (path : String) (value : Nat)
  | invalidBatchSize (path : String) (value : Nat)
  deriving Repr, Inhabited, DecidableEq

namespace SettingsError

/-- The name of the kind of error. -/
def kind : SettingsError → String
  | .readFailed .. => "ConfigReadError"
  | .parseFailed _ => "ConfigParseError"
  | .invalidStartIndex .. => "InvalidStartIndex"
  | .invalidBatchSize .. => "InvalidBatchSize"

/-- The message, for the errors whose message is reproduced. -/
def message? : SettingsError → Option String
  | .readFailed path cause => some ("Failed to read config file at " ++ path ++ ": " ++ cause)
  | .parseFailed _ => none
  | .invalidStartIndex path v =>
    some ("Invalid start_index " ++ toString v ++ " in " ++ path ++ ": document offsets start at 1")
  | .invalidBatchSize path v =>
    some ("Invalid max_batch_size " ++ toString v ++ " in " ++ path ++ ": must be at least 1")

end SettingsError

/-- A size setting: a non-negative integer. -/
def sizeSetting (root : Toml.Entries) (key : String) (default : Nat) : Option Nat :=
  match Toml.lookup root key with
  | none => some default
  | some (.integer n) => if n ≥ 0 then some n.toNat else none
  | some _ => none

/-- The settings a TOML document gives, before expansion and checks; nothing when a key
has the wrong type. -/
def Settings.ofTable (root : Toml.Entries) : Option Settings := do
  let startIndex ← sizeSetting root "start_index" 1
  let tabId ← match Toml.lookup root "tab_id" with
    | none => some none
    | some (.string s) => some (some s)
    | some _ => none
  let titleForFirstH1 ← match Toml.lookup root "title_for_first_h1" with
    | none => some false
    | some (.boolean b) => some b
    | some _ => none
  let maxBatchSize ← sizeSetting root "max_batch_size" 50
  pure { startIndex, tabId, titleForFirstH1, maxBatchSize }

/-- The settings of a file's text: read, the tab id expanded with `lookup`, and checked.
`path` names the file in errors. -/
def Settings.ofText (lookup : String → Option String) (path text : String) :
    Except SettingsError Settings := do
  let root ← match Toml.parse text with
    | some root => pure root
    | none => throw (.parseFailed path)
  let s ← match Settings.ofTable root with
    | some s => pure s
    | none => throw (.parseFailed path)
  let s := { s with tabId := s.tabId.map fun t => (expand lookup t).getD t }
  if s.startIndex == 0 then throw (.invalidStartIndex path s.startIndex)
  if s.maxBatchSize == 0 then throw (.invalidBatchSize path s.maxBatchSize)
  pure s

/-- What a path holds. -/
inductive PathEntry where
  | missing
  | directory
  | file (bytes : ByteArray)
  deriving Inhabited

/-- Loads settings from a path: nothing when there is no file, an error when it cannot be
read as text, the settings of its text otherwise. -/
def Settings.load (lookup : String → Option String) (path : String) :
    PathEntry → Except SettingsError (Option Settings)
  | .missing => pure none
  | .directory => throw (.readFailed path "Is a directory (os error 21)")
  | .file bytes =>
    match String.fromUTF8? bytes with
    | some text => some <$> Settings.ofText lookup path text
    | none => throw (.readFailed path "stream did not contain valid UTF-8")

/-- The compile options the settings give. -/
def Settings.compileOptions (s : Settings) : CompileOptions :=
  { startIndex := s.startIndex, tabId := s.tabId, titleForFirstH1 := s.titleForFirstH1 }

end DocBridge.Config
