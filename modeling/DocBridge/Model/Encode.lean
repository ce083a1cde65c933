import DocBridge.Model.Document
import DocBridge.Json.Value

/-!
# Writing the document model as JSON

The inverse of reading: every field is written under its name, except that a paragraph
leaves out a style or list membership it does not have, a run its absent link and font,
and a list level its absent glyph type and symbol. A named style is written as its
name, and a block carries its kind in a `type` member.
-/

namespace DocBridge.Model

/-- Members for an optional string: none when it is absent. -/
def optionalMember (key : String) : Option String → List (String × Json)
  | some s => [(key, .string s)]
  | none => []

/-- A run as JSON. -/
def InlineRun.toJson (r : InlineRun) : Json :=
  .object ([("text", .string r.text), ("bold", .bool r.bold), ("italic", .bool r.italic),
    ("strikethrough", .bool r.strikethrough), ("underline", .bool r.underline)] ++
    optionalMember "linkUrl" r.linkUrl ++ optionalMember "fontFamily" r.fontFamily)

/-- Runs as JSON. -/
def runsJson (runs : List InlineRun) : Json := .array (runs.map InlineRun.toJson)

/-- A paragraph's members. -/
def Paragraph.members (p : Paragraph) : List (String × Json) :=
  optionalMember "namedStyle" (p.namedStyle.map NamedStyle.name) ++
    (match p.bullet with
      | some b => [("bullet", .object [("listId", .string b.listId),
          ("nestingLevel", Json.nat b.nestingLevel)])]
      | none => []) ++
    [("runs", runsJson p.runs)]

/-- A table's members. -/
def Table.members (t : Table) : List (String × Json) :=
  [("rows", .array (t.rows.map fun row =>
    .object [("cells", .array (row.cells.map fun cell => .object [("runs", runsJson cell.runs)]))]))]

/-- A block as JSON. -/
def Block.toJson : Block → Json
  | .paragraph p => .object (("type", .string "paragraph") :: p.members)
  | .table t => .object (("type", .string "table") :: t.members)
  | .sectionBreak => .object [("type", .string "sectionBreak")]

/-- A list level as JSON. -/
def ListLevel.toJson (l : ListLevel) : Json :=
  .object (optionalMember "glyphType" l.glyphType ++ optionalMember "glyphSymbol" l.glyphSymbol)

/-- The registry as JSON. -/
def ListRegistry.toJson (r : ListRegistry) : Json :=
  .object (r.lists.map fun (id, levels) => (id, .array (levels.map ListLevel.toJson)))

/-- A document as JSON. -/
def DocumentModel.toJson (d : DocumentModel) : Json :=
  .object [("blocks", .array (d.blocks.map Block.toJson)), ("lists", d.lists.toJson)]

end DocBridge.Model
