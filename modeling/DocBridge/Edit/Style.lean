/-!
# Styles of text and paragraphs

The payloads of the style operations. A text style sets any of bold, italic and
strikethrough, the monospace treatment of code (a fixed font with fixed foreground and
background colours), and a link. A paragraph style is either a named style or the thin
bottom border that stands for a thematic break. A bullet preset says how a run of list
items is marked.

Named styles have wire names (`NORMAL_TEXT`, `TITLE`, `SUBTITLE`, `HEADING_n`);
`NamedStyle.ofName` reads one back, and any name it does not know is normal text.
-/

namespace DocBridge

/-- A named paragraph style. -/
inductive NamedStyle where
  | normalText
  | title
  | subtitle
  /-- `HEADING_n` for a level `n` between 1 and 255. -/
  | heading (level : Nat)
  deriving DecidableEq, Repr, Inhabited

namespace NamedStyle

/-- The wire name. -/
def name : NamedStyle → String
  | .normalText => "NORMAL_TEXT"
  | .title => "TITLE"
  | .subtitle => "SUBTITLE"
  | .heading n => "HEADING_" ++ toString n

/-- Reads a byte-sized decimal number: an optional `+`, then at least one digit, with
a value of at most 255. -/
def parseByte (s : String) : Option Nat :=
  let cs := match s.toList with
    | '+' :: rest => rest
    | cs => cs
  if cs.isEmpty || !cs.all Char.isDigit then none
  else
    let n := cs.foldl (fun acc c => acc * 10 + (c.toNat - 48)) 0
    if n ≤ 255 then some n else none

/-- The style of a wire name; an unknown name, or a heading of level 0, is normal text. -/
def ofName (s : String) : NamedStyle :=
  if s == "TITLE" then .title
  else if s == "SUBTITLE" then .subtitle
  else if s.startsWith "HEADING_" then
    match parseByte (String.ofList (s.toList.drop 8)) with
    | some n => if n > 0 then .heading n else .normalText
    | none => .normalText
  else .normalText

/-- The Markdown heading level a style renders as: title 1, subtitle 2, a heading its
level capped at 6. -/
def headingLevel : NamedStyle → Option Nat
  | .normalText => none
  | .title => some 1
  | .subtitle => some 2
  | .heading n => if n == 0 then none else some (min n 6)

end NamedStyle

/-- How a merged run of list items is marked. -/
inductive BulletPreset where
  | unordered
  | ordered
  | checkbox
  deriving DecidableEq, Repr, Inhabited

/-- The wire name of a preset. -/
def BulletPreset.name : BulletPreset → String
  | .unordered => "BULLET_DISC_CIRCLE_SQUARE"
  | .ordered => "NUMBERED_DECIMAL_ALPHA_ROMAN"
  | .checkbox => "BULLET_CHECKBOX"

/-- The font of code. -/
def monospaceFont : String := "Courier New"

/-- A text style: the attributes it sets. -/
structure TextStyle where
  bold : Bool := false
  italic : Bool := false
  strikethrough : Bool := false
  /-- The code treatment: font, foreground and background colour together. -/
  monospace : Bool := false
  link : Option String := none
  deriving DecidableEq, Repr, Inhabited

namespace TextStyle

/-- The code treatment alone. -/
def code : TextStyle := { monospace := true }

/-- A link alone. -/
def linkTo (url : String) : TextStyle := { link := some url }

/-- The wire names of the set attributes, in wire order. -/
def fieldNames (s : TextStyle) : List String :=
  (if s.bold then ["bold"] else []) ++ (if s.italic then ["italic"] else []) ++
    (if s.strikethrough then ["strikethrough"] else []) ++
    (if s.monospace then ["weightedFontFamily", "foregroundColor", "backgroundColor"] else []) ++
    (if s.link.isSome then ["link"] else [])

/-- The field mask: the set attributes joined by commas. -/
def fields (s : TextStyle) : String := ",".intercalate s.fieldNames

/-- A style that sets nothing. -/
def isEmpty (s : TextStyle) : Bool := s.fieldNames.isEmpty

end TextStyle

/-- A paragraph style. -/
inductive ParagraphStyle where
  /-- A named style. -/
  | named (style : NamedStyle)
  /-- The thin solid bottom border of a thematic break. -/
  | bottomRule
  deriving DecidableEq, Repr, Inhabited

/-- The field mask of a paragraph style. -/
def ParagraphStyle.fields : ParagraphStyle → String
  | .named _ => "namedStyleType"
  | .bottomRule => "borderBottom"

end DocBridge
