import DocBridge.Render.Run

/-!
# Writing a document as Markdown

The document is written line by line:

* a section break is a rule `---`;
* a table is a grid of pipes with a `---` separator row after its first row;
* a paragraph with a heading style and visible text is a `#` heading;
* a paragraph in a list is an item: two spaces per nesting level, then `1.` when the list
  is ordered at that level and `-` otherwise;
* any other paragraph with visible text is written as it is.

Every block but a list item is followed by a blank line, and a run of list items is
closed by one before the next block. The result ends in exactly one line ending, or is
empty.
-/

namespace DocBridge.Render

open Model

/-- The lines written so far, and whether the last of them is a list item. -/
structure Writer where
  lines : Array String := #[]
  inList : Bool := false
  deriving Inhabited

namespace Writer

/-- Closes a run of list items with a blank line. -/
def endList (w : Writer) : Writer :=
  if w.inList then { lines := w.lines.push "", inList := false } else w

/-- Adds lines. -/
def push (w : Writer) (ls : List String) : Writer := { w with lines := w.lines ++ ls.toArray }

/-- Writes a paragraph. -/
def paragraph (lists : ListRegistry) (w : Writer) (p : Paragraph) : Writer :=
  if Text.allBlank p.text then w
  else
    let text := Text.trim (formatRuns p.runs)
    match p.namedStyle.bind NamedStyle.headingLevel, p.bullet with
    | some level, _ =>
      w.endList.push [String.ofList (List.replicate level '#') ++ " " ++ text, ""]
    | none, some b =>
      let marker := if lists.isOrdered b.listId b.nestingLevel then "1." else "-"
      let indent := String.ofList (List.replicate (2 * b.nestingLevel) ' ')
      { w.push [indent ++ marker ++ " " ++ text] with inList := true }
    | none, none => w.endList.push [text, ""]

/-- A table cell's text: its runs on one line, each line ending written as a space, trimmed. -/
def cellText (c : TableCell) : String :=
  Text.trim ((formatRuns c.runs).map fun ch => if ch = '\n' then ' ' else ch)

/-- A row of cells between pipes. -/
def row (cells : List String) : String := "| " ++ " | ".intercalate cells ++ " |"

/-- Writes a table. -/
def table (w : Writer) (t : Table) : Writer :=
  match t.rows with
  | [] => w
  | first :: rest =>
    let cells := first.cells.map cellText
    let separator := row (List.replicate (max cells.length 1) "---")
    let body := rest.map fun r => row (r.cells.map cellText)
    w.endList.push ([row cells, separator] ++ body ++ [""])

/-- Writes a block. -/
def block (lists : ListRegistry) (w : Writer) : Block → Writer
  | .paragraph p => w.paragraph lists p
  | .table t => w.table t
  | .sectionBreak => w.endList.push ["---", ""]

/-- The Markdown: the lines joined, without trailing line endings, then one line ending. -/
def finish (w : Writer) : String :=
  let body := String.ofList ((("\n".intercalate w.lines.toList).toList.reverse.dropWhile
    (· == '\n')).reverse)
  if body.isEmpty then "" else body ++ "\n"

end Writer

/-- A document as Markdown. -/
def render (d : DocumentModel) : String :=
  (d.blocks.foldl (Writer.block d.lists) {}).finish

end DocBridge.Render
