import DocBridge.Config.Settings

/-!
# The files the command line sees

The command line reads its input and its settings by path. Its files are a list of files
with their bytes and a list of directories, by path relative to the working directory;
every directory above a file is there too. A path is read the way the system reads it:
`.` parts are dropped and `..` goes up a level, a path that runs through a file names
nothing that can be read, and a path ending in `/` names a directory or nothing.
-/

namespace DocBridge.Cli

/-- What a path names. -/
inductive Node where
  | file (bytes : ByteArray)
  | directory
  | missing
  /-- A path that goes on past a file. -/
  | underFile
  deriving Inhabited

/-- Files and directories by relative path. -/
structure FileTree where
  files : List (String × ByteArray) := []
  dirs : List String := []
  deriving Inhabited

/-- The parts of a relative path, `.` and empty parts dropped and `..` taken back; `none`
for an absolute path. -/
def pathParts (path : String) : Option (List String) :=
  if path.startsWith "/" then none
  else some ((path.splitOn "/").foldl (fun acc p =>
    if p == "" || p == "." then acc
    else if p == ".." then acc.dropLast
    else acc ++ [p]) [])

/-- Whether a path is named with a trailing `/`. -/
def endsInSlash (path : String) : Bool := path.endsWith "/"

namespace FileTree

/-- The files by their parts. -/
def fileParts (t : FileTree) : List (List String × ByteArray) :=
  t.files.filterMap fun (p, b) => (pathParts p).map (·, b)

/-- The directories by their parts, with every directory above a file or directory. -/
def dirParts (t : FileTree) : List (List String) :=
  let named := t.dirs.filterMap pathParts
  let above := (t.fileParts.map (·.1) ++ named).flatMap fun ps =>
    (List.range ps.length).map fun n => ps.take n
  named ++ above

/-- What a path names. -/
def node (t : FileTree) (path : String) : Node :=
  match pathParts path with
  | none => if path.all (· == '/') then .directory else .missing
  | some [] => .directory
  | some ps =>
    let files := t.fileParts
    if (List.range ps.length).any fun n => n > 0 && files.any (·.1 == ps.take n) then .underFile
    else match files.find? (·.1 == ps) with
      | some (_, bytes) => if endsInSlash path then .underFile else .file bytes
      | none => if t.dirParts.contains ps then .directory else .missing

end FileTree

/-- Whether a path names a file or a directory. -/
def Node.exists : Node → Bool
  | .file _ | .directory => true
  | _ => false

/-- What the settings loader sees at a path. -/
def Node.entry : Node → Config.PathEntry
  | .file bytes => .file bytes
  | .directory => .directory
  | _ => .missing

/-- Reads a file as text, or says why it cannot be read, as the system words it. -/
def Node.readText : Node → Except String String
  | .file bytes =>
    match String.fromUTF8? bytes with
    | some s => pure s
    | none => throw "stream did not contain valid UTF-8"
  | .directory => throw "Is a directory (os error 21)"
  | .missing => throw "No such file or directory (os error 2)"
  | .underFile => throw "Not a directory (os error 20)"

end DocBridge.Cli
