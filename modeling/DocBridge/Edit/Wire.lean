import DocBridge.Edit.Operation
import DocBridge.Json.Value

/-!
# The wire form of edit operations

Each operation is an object with one member named for the operation. Members appear in
a fixed order, and optional ones (a tab id, an unset style attribute) are left out. Code
text has the font `Courier New` on a background of 0.95 grey with 0.2 grey text; a rule's
border is 0.6 grey, one point wide, with six points of padding.
-/

namespace DocBridge

namespace Wire

/-- A grey colour of equal channels. -/
def grey (level : Float) : Json :=
  .object [("color", .object [("rgbColor", .object [("red", .number (.float level)),
    ("green", .number (.float level)), ("blue", .number (.float level))])])]

/-- A length in points. -/
def points (magnitude : Float) : Json :=
  .object [("magnitude", .number (.float magnitude)), ("unit", .string "PT")]

/-- The tab member, if a tab is named. -/
def tabMember : Option String → List (String × Json)
  | some t => [("tabId", .string t)]
  | none => []

/-- A range. -/
def range (r : Range) : Json :=
  .object ([("startIndex", Json.nat r.span.start), ("endIndex", Json.nat r.span.stop)] ++
    tabMember r.tabId)

/-- A text style with its set attributes. -/
def textStyle (s : TextStyle) : Json :=
  .object <|
    (if s.bold then [("bold", .bool true)] else []) ++
    (if s.italic then [("italic", .bool true)] else []) ++
    (if s.strikethrough then [("strikethrough", .bool true)] else []) ++
    (if s.monospace then
      [("weightedFontFamily", .object [("fontFamily", .string monospaceFont)]),
       ("foregroundColor", grey 0.2), ("backgroundColor", grey 0.95)]
    else []) ++
    (match s.link with
      | some url => [("link", .object [("url", .string url)])]
      | none => [])

/-- A paragraph style. -/
def paragraphStyle : ParagraphStyle → Json
  | .named n => .object [("namedStyleType", .string n.name)]
  | .bottomRule =>
    .object [("borderBottom", .object [("color", grey 0.6), ("width", points 1.0),
      ("padding", points 6.0), ("dashStyle", .string "SOLID")])]

/-- An edit operation. -/
def operation : EditOperation → Json
  | .insertText index text tabId =>
    .object [("insertText", .object [
      ("location", .object ([("index", Json.nat index)] ++ tabMember tabId)),
      ("text", .string text)])]
  | .updateTextStyle r s =>
    .object [("updateTextStyle", .object [("range", range r), ("textStyle", textStyle s),
      ("fields", .string s.fields)])]
  | .updateParagraphStyle r s =>
    .object [("updateParagraphStyle", .object [("range", range r),
      ("paragraphStyle", paragraphStyle s), ("fields", .string s.fields)])]
  | .createBulletRange r p =>
    .object [("createBulletRange", .object [("range", range r),
      ("bulletPreset", .string p.name)])]
  | .deleteContentRange r =>
    .object [("deleteContentRange", .object [("range", range r)])]

/-- A list of operations. -/
def operations (ops : List EditOperation) : Json := .array (ops.map operation)

end Wire

end DocBridge
