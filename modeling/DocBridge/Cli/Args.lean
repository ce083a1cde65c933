/-!
# Command-line arguments

The command line has two commands:

* `compile <INPUT> [--config <PATH>] [--start-index <N>] [--tab-id <ID>] [--title]
  [--replace-end <N>] [--batches]`
* `render <INPUT>`

and `help`, `-h` and `--help` everywhere.

Arguments are read left to right the way a declarative argument parser reads them. An
option's value is the next argument, or follows `=`; an argument that starts with `-`
(other than `-` alone) is never taken as a value. A value is checked only when the next
known argument or the end is reached, so an unknown argument right after an option is
reported before a bad value of that option. An option or flag given twice, a value that is
not a number where one is wanted, an empty path, a flag given a value, a second input, an
unknown argument or command, and a missing input are each refused with their own kind of
error; a request for help is reported the same way, with exit code 0.
-/

namespace DocBridge.Cli

/-- The arguments of `compile`. -/
structure CompileArgs where
  input : String
  config : Option String := none
  startIndex : Option Nat := none
  tabId : Option String := none
  title : Bool := false
  replaceEnd : Option Nat := none
  batches : Bool := false
  deriving Repr, Inhabited, DecidableEq

/-- A command. -/
inductive Command where
  | compile (args : CompileArgs)
  | render (input : String)
  deriving Repr, Inhabited, DecidableEq

/-- Why the arguments were not run: refused, or help was asked for. -/
inductive ArgError where
  | displayHelp
  | missingCommand
  | missingRequired
  | unknownArgument
  | invalidSubcommand
  | invalidValue
  | valueValidation
  | argumentConflict
  | tooManyValues
  deriving Repr, Inhabited, DecidableEq

namespace ArgError

/-- The name of the kind of error. -/
def name : ArgError → String
  | .displayHelp => "DisplayHelp"
  | .missingCommand => "DisplayHelpOnMissingArgumentOrSubcommand"
  | .missingRequired => "MissingRequiredArgument"
  | .unknownArgument => "UnknownArgument"
  | .invalidSubcommand => "InvalidSubcommand"
  | .invalidValue => "InvalidValue"
  | .valueValidation => "ValueValidation"
  | .argumentConflict => "ArgumentConflict"
  | .tooManyValues => "TooManyValues"

/-- The exit code: 0 for help, 2 otherwise. -/
def exitCode : ArgError → Nat
  | .displayHelp => 0
  | _ => 2

end ArgError

/-- A size as the command line reads one: an optional `+`, then decimal digits, below
2^64. -/
def parseSize (s : String) : Option Nat :=
  let ds := match s.toList with
    | '+' :: ds => ds
    | ds => ds
  if !ds.isEmpty && ds.all Char.isDigit then
    let n := ds.foldl (fun n c => n * 10 + (c.toNat - '0'.toNat)) 0
    if n < Nat.pow 2 64 then some n else none
  else none

/-- The kinds of argument a command takes. -/
structure Spec where
  /-- Options that take a value, each with its check. -/
  options : List (String × (String → Option ArgError))
  /-- Flags. -/
  flags : List String

/-- A path must not be empty. -/
def checkPath (v : String) : Option ArgError := if v.isEmpty then some .invalidValue else none

/-- A size must read as one. -/
def checkSize (v : String) : Option ArgError := if (parseSize v).isSome then none else some .valueValidation

/-- A text may be anything. -/
def checkText (_ : String) : Option ArgError := none

/-- The arguments of `compile`. -/
def compileSpec : Spec :=
  { options := [("config", checkPath), ("start-index", checkSize), ("tab-id", checkText),
      ("replace-end", checkSize)],
    flags := ["title", "batches"] }

/-- The arguments of `render`. -/
def renderSpec : Spec := { options := [], flags := [] }

/-- What has been read of a command's arguments. -/
structure Reading where
  /-- Options with their values, and the input under the name `input`. -/
  values : List (String × String) := []
  flags : List String := []
  /-- The argument whose value is not checked yet, and that value, if it has come. -/
  pending : Option (String × Option String) := none
  /-- After `--` every argument is an input. -/
  trailing : Bool := false
  deriving Inhabited

/-- The check of a named argument's value. -/
def Spec.check (spec : Spec) (name : String) : String → Option ArgError :=
  if name == "input" then checkPath
  else match spec.options.find? (·.1 == name) with
    | some (_, check) => check
    | none => checkText

/-- Checks and records the pending argument: it needs a value, must not have been given
before, and its value must pass its check. -/
def Reading.resolve (spec : Spec) (r : Reading) : Except ArgError Reading :=
  match r.pending with
  | none => pure r
  | some (_, none) => throw .invalidValue
  | some (name, some v) =>
    if r.values.any (·.1 == name) then throw .argumentConflict
    else match spec.check name v with
      | some e => throw e
      | none => pure { r with values := r.values ++ [(name, v)], pending := none }

/-- Reads an input. -/
def Reading.positional (spec : Spec) (r : Reading) (arg : String) : Except ArgError Reading := do
  let r ← r.resolve spec
  if r.values.any (·.1 == "input") then throw .unknownArgument
  pure { r with pending := some ("input", some arg) }

/-- Reads one argument of a command. -/
def Reading.step (spec : Spec) (r : Reading) (arg : String) : Except ArgError Reading :=
  if r.trailing then r.positional spec arg
  else if arg == "--" then pure { r with trailing := true }
  else if arg.startsWith "--" then
    let body := (arg.drop 2).toString
    let (name, attached) := match body.splitOn "=" with
      | [n] => (n, none)
      | n :: rest => (n, some ("=".intercalate rest))
      | [] => (body, none)
    if name == "help" then
      if attached.isSome then throw .tooManyValues
      else do
        let _ ← r.resolve spec
        throw .displayHelp
    else if spec.options.any (·.1 == name) then do
      let r ← r.resolve spec
      match attached with
      | some v => Reading.resolve spec { r with pending := some (name, some v) }
      | none => pure { r with pending := some (name, none) }
    else if spec.flags.contains name then
      if attached.isSome then throw .tooManyValues
      else do
        let r ← r.resolve spec
        if r.flags.contains name then throw .argumentConflict
        else pure { r with flags := r.flags ++ [name] }
    else throw .unknownArgument
  else if arg.startsWith "-" && arg != "-" then
    match arg.toList with
    | _ :: 'h' :: _ => do
      let _ ← r.resolve spec
      throw .displayHelp
    | _ => throw .unknownArgument
  else
    match r.pending with
    | some (name, none) => pure { r with pending := some (name, some arg) }
    | _ => r.positional spec arg

/-- Reads a command's arguments; the input must be given. -/
def readCommand (spec : Spec) (args : List String) : Except ArgError Reading := do
  let r ← args.foldlM (Reading.step spec) {}
  let r ← r.resolve spec
  if r.values.any (·.1 == "input") then pure r else throw .missingRequired

/-- The value of an option. -/
def Reading.value? (r : Reading) (name : String) : Option String :=
  (r.values.find? (·.1 == name)).map (·.2)

/-- The arguments of `compile`, once read. -/
def Reading.compileArgs (r : Reading) : CompileArgs :=
  { input := (r.value? "input").getD "",
    config := r.value? "config",
    startIndex := (r.value? "start-index").bind parseSize,
    tabId := r.value? "tab-id",
    title := r.flags.contains "title",
    replaceEnd := (r.value? "replace-end").bind parseSize,
    batches := r.flags.contains "batches" }

/-- The command the arguments name. -/
def parseArgs (args : List String) : Except ArgError Command :=
  match args with
  | [] => throw .missingCommand
  | arg :: rest =>
    if arg == "compile" then Command.compile <$> Reading.compileArgs <$> readCommand compileSpec rest
    else if arg == "render" then
      (fun r => Command.render ((r.value? "input").getD "")) <$> readCommand renderSpec rest
    else if arg == "help" then
      -- only the first name can be a command: the commands have no commands of their own
      match rest with
      | [] => throw .displayHelp
      | [name] =>
        if name == "compile" || name == "render" || name == "help" then throw .displayHelp
        else throw .invalidSubcommand
      | _ :: _ :: _ => throw .invalidSubcommand
    else if arg == "--" then
      if rest.isEmpty then throw .missingCommand else throw .unknownArgument
    else if arg.startsWith "--" then
      if arg == "--help" then throw .displayHelp
      else if arg.startsWith "--help=" then throw .tooManyValues
      else throw .unknownArgument
    else if arg.startsWith "-" && arg != "-" then
      match arg.toList with
      | _ :: 'h' :: _ => throw .displayHelp
      | _ => throw .unknownArgument
    else throw .invalidSubcommand

end DocBridge.Cli
