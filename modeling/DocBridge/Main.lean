import DocBridge.Cli.Run

/-!
# The command line

Reads the arguments, gathers what the command will read (standard input, and the files
its paths name), runs it (`Cli.run`), and prints what it printed.
-/

open DocBridge

/-- What a path names on disk. -/
def readNode (path : String) : IO Cli.Node := do
  match ← (IO.FS.readBinFile path).toBaseIO with
  | .ok bytes => return .file bytes
  | .error (.inappropriateType _ 21 _) => return .directory
  | .error (.inappropriateType _ 20 _) => return .underFile
  | .error (.otherError 21 _) => return .directory
  | .error _ => return .missing

/-- Reads standard input to its end. -/
partial def readAll (s : IO.FS.Stream) (acc : String) : IO String := do
  let line ← s.getLine
  if line.isEmpty then return acc else readAll s (acc ++ line)

/-- A short description of the command line. -/
def usage : String :=
  "Convert Markdown to document edit operations, and documents back to Markdown\n\n" ++
  "Usage: docmark <COMMAND>\n\n" ++
  "Commands:\n" ++
  "  compile  Compile Markdown into edit operations, printed as JSON\n" ++
  "  render   Render a document model JSON file as Markdown\n" ++
  "  help     Print this message or the help of the given subcommand(s)\n"

def main (args : List String) : IO UInt32 := do
  match Cli.parseArgs args with
  | .error e =>
    if e == .displayHelp then IO.print usage
    else IO.eprint ("error: " ++ e.name ++ "\n\n" ++ usage)
    return e.exitCode.toUInt32
  | .ok c =>
    let home := (← IO.getEnv "HOME").getD ""
    let settingsPath := home ++ "/.config/docmark/config.toml"
    let paths := match c with
      | .compile a => [a.input] ++ a.config.toList ++ [settingsPath]
      | .render input => [input]
    let nodes ← paths.mapM fun p => do return (p, ← readNode p)
    let stdin ← if paths.contains "-" then readAll (← IO.getStdin) "" else pure ""
    let world : Cli.World := {
      stdin,
      node := fun p => ((nodes.find? (·.1 == p)).map (·.2)).getD .missing,
      settingsPath,
      settingsName := settingsPath }
    let out := Cli.run world c
    IO.print out.stdout
    IO.eprint out.stderr
    return out.exit.toUInt32
