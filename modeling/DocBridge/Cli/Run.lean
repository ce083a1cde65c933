import DocBridge.Cli.Args
import DocBridge.Cli.Files
import DocBridge.Markdown.Document
import DocBridge.Compile
import DocBridge.Batch
import DocBridge.Edit.Wire
import DocBridge.Json.Writer
import DocBridge.Model.Decode
import DocBridge.Render.Document

/-!
# Running a command

`compile` loads the settings (from `--config`, which must exist, or else from the user's
settings file, which may be missing), lets the flags override them, reads the Markdown
(from a file, or standard input for `-`), compiles it, and prints the operations, or
their batches with `--batches`, as indented JSON and a line ending.

`render` reads a document model as JSON and prints its Markdown.

A failure prints `Error: ` and its message, with the message of its cause after a colon
where it has one, and exits with 1.
-/

namespace DocBridge.Cli

/-- What a command sees: its standard input, what each path names, and where the user's
settings file is and how messages name it. -/
structure World where
  stdin : String := ""
  node : String → Node := fun _ => .missing
  settingsPath : String := ".config/docmark/config.toml"
  settingsName : String := "~/.config/docmark/config.toml"
  deriving Inhabited

/-- What a command did: its exit code and what it printed. -/
structure Outcome where
  exit : Nat
  stdout : String
  stderr : String
  deriving Repr, Inhabited, DecidableEq

/-- The message of a settings error, with its cause. -/
def settingsMessage : Config.SettingsError → String
  | .readFailed path cause => "Failed to read config file at " ++ path ++ ": " ++ cause ++ ": " ++ cause
  | .parseFailed path => "Failed to parse config file at " ++ path ++ ": TOML parse error: TOML parse error"
  | e => (e.message?).getD ""

/-- Loads the settings: from the file `--config` names, which must exist, or else from
the user's settings file when there is one. -/
def loadSettings (w : World) : Option String → Except String Config.Settings
  | some path =>
    let node := w.node path
    if !node.exists then throw ("Config file not found: " ++ path)
    else match Config.Settings.load (fun _ => none) path node.entry with
      | .ok s => pure (s.getD {})
      | .error e => throw (settingsMessage e)
  | none =>
    match Config.Settings.load (fun _ => none) w.settingsName (w.node w.settingsPath).entry with
    | .ok s => pure (s.getD {})
    | .error e => throw (settingsMessage e)

/-- Reads an input: standard input for `-`, a file otherwise. -/
def readInput (w : World) (input : String) : Except String String :=
  if input == "-" then pure w.stdin
  else match (w.node input).readText with
    | .ok s => pure s
    | .error cause => throw ("Failed to read " ++ input ++ ": " ++ cause)

/-- Runs `compile`. -/
def runCompile (w : World) (a : CompileArgs) : Except String String := do
  let settings ← loadSettings w a.config
  let o := settings.compileOptions
  let o := match a.startIndex with
    | some n => { o with startIndex := n }
    | none => o
  let o := if a.tabId.isSome then { o with tabId := a.tabId } else o
  let o := if a.title then { o with titleForFirstH1 := true } else o
  let markdown ← readInput w a.input
  let tokens := Markdown.tokenize markdown
  let result := match a.replaceEnd with
    | some bodyEnd => compileReplacement tokens bodyEnd o
    | none => compile tokens o
  let ops ← result.mapError CompileError.message
  let json :=
    if a.batches then
      .array ((planBatches ops settings.maxBatchSize).map fun b =>
        .object [("phase", .string b.phase.name), ("operations", Wire.operations b.operations)])
    else Wire.operations ops
  pure (json.pretty ++ "\n")

/-- Runs `render`. -/
def runRender (w : World) (input : String) : Except String String := do
  let text ← readInput w input
  let doc ← (Model.readDocumentText text).mapError fun m =>
    "Invalid document model in " ++ input ++ ": " ++ m
  pure (Render.render doc)

/-- Runs a command. -/
def run (w : World) (c : Command) : Outcome :=
  let result := match c with
    | .compile a => runCompile w a
    | .render input => runRender w input
  match result with
  | .ok out => ⟨0, out, ""⟩
  | .error msg => ⟨1, "", "Error: " ++ msg ++ "\n"⟩

end DocBridge.Cli
