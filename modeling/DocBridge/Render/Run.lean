import DocBridge.Model.Document
import DocBridge.Text.Blank

/-!
# Writing a run as Markdown

A run in a monospace font becomes a code span and takes no other marker. Any other run
is wrapped from the inside out: emphasis (`*`, `**` or `***`), then strikethrough, then
an underline tag when it has no link, then the link. A trailing line ending is set aside
first, so that no marker encloses it, and a run that is only white space is written as
it is.
-/

namespace DocBridge.Render

open Model

/-- The font families written as code, in lower case. -/
def monospaceFamilies : List String :=
  ["courier new", "courier", "consolas", "roboto mono", "source code pro", "monaco", "menlo",
    "fira code", "fira mono", "inconsolata", "jetbrains mono", "ubuntu mono"]

/-- Whether a font family is a monospace one, after trimming it and lowering its ASCII
letters. -/
def isMonospace : Option String → Bool
  | some family => monospaceFamilies.contains (Text.trim family).toLower
  | none => false

/-- The text and its trailing line ending, set apart. -/
def splitLineEnding (s : String) : String × String :=
  if s.endsWith "\n" then (String.ofList s.toList.dropLast, "\n") else (s, "")

/-- A run as Markdown. -/
def formatRun (r : InlineRun) : String :=
  let (body, ending) := splitLineEnding r.text
  if Text.allBlank body then r.text
  else if isMonospace r.fontFamily then "`" ++ body ++ "`" ++ ending
  else
    let out :=
      match r.bold, r.italic with
      | true, true => "***" ++ body ++ "***"
      | true, false => "**" ++ body ++ "**"
      | false, true => "*" ++ body ++ "*"
      | false, false => body
    let out := if r.strikethrough then "~~" ++ out ++ "~~" else out
    let out := if r.underline && r.linkUrl.isNone then "<u>" ++ out ++ "</u>" else out
    let out := match r.linkUrl with
      | some url => "[" ++ out ++ "](" ++ url ++ ")"
      | none => out
    out ++ ending

/-- Runs as Markdown, one after another. -/
def formatRuns (runs : List InlineRun) : String := String.join (runs.map formatRun)

end DocBridge.Render
