import DocBridge.Model.Document
import DocBridge.Json.Writer
import DocBridge.Json.Locate
import DocBridge.Text.Escaped

/-!
# Reading the document model from JSON

The model is read the way a derived deserializer reads it, messages included: a struct
from an object (unknown members ignored, a field given twice refused, a missing field
with no default refused) or from an array of its fields in declaration order; a list
from an array; the registry from an object; and a block from an object whose `type`
member names its kind (or an array whose first element does), the other members read
only once the kind is known.

Because a block's members are read only after the whole block, an error inside one is
reported past the block. An error records the value it is about, by the path of
element and member indices from the root, and where at that value it is reported, so
that a reader of the text can give it a line and a column.
-/

namespace DocBridge.Model

/-- A decoding error: its message, the value it is about (the indices leading to it,
innermost first), and where at that value it is reported. -/
structure DecodeError where
  message : String
  trail : List Nat
  anchor : Json.Place
  deriving Repr, Inhabited

/-- Decoding, failing with a `DecodeError`. -/
abbrev Decode := Except DecodeError

/-- Where values are read from: JSON text, a JSON value, or a value buffered while a
block's kind was looked for. They differ only in how a struct read from an array with
elements to spare is refused. -/
inductive Source where
  | text
  | value
  | buffered
  deriving Repr, Inhabited, DecidableEq

/-- Fails with a message at a value. -/
def fail (trail : List Nat) (anchor : Json.Place) (message : String) : Decode α :=
  .error ⟨message, trail, anchor⟩

/-- A character of a quoted string in a message, escaped as a debug view escapes it. -/
def debugChar (c : Char) : String :=
  if c == '"' then "\\\""
  else if c == '\\' then "\\\\"
  else if c == '\n' then "\\n"
  else if c == '\r' then "\\r"
  else if c == '\t' then "\\t"
  else if c == '\x00' then "\\0"
  else if Text.isEscapedInQuotes c then
    "\\u" ++ "\x7b" ++ String.ofList (Nat.toDigits 16 c.val.toNat) ++ "\x7d"
  else String.singleton c

/-- How a message names a value that was not what was expected. -/
def unexpected : Json → String
  | .null => "null"
  | .bool b => "boolean `" ++ toString b ++ "`"
  | .number (.unsigned n) => "integer `" ++ toString n ++ "`"
  | .number (.signed n) => "integer `" ++ toString n ++ "`"
  | .number (.float f) => "floating point `" ++ (Decimal.ofFloat f).toFloatText ++ "`"
  | .string s => "string \"" ++ String.join (s.toList.map debugChar) ++ "\""
  | .array _ => "sequence"
  | .object _ => "map"

/-- Where a value of the wrong type is reported: before an array or object, after any
other value. -/
def typeAnchor : Json → Json.Place
  | .array _ | .object _ => .before
  | _ => .after

/-- Refuses a value of the wrong type. -/
def invalidType (trail : List Nat) (j : Json) (expected : String) : Decode α :=
  fail trail (typeAnchor j) ("invalid type: " ++ unexpected j ++ ", expected " ++ expected)

/-! ## Scalars and lists -/

/-- A boolean. -/
def readBool (trail : List Nat) : Json → Decode Bool
  | .bool b => pure b
  | j => invalidType trail j "a boolean"

/-- A string. -/
def readString (trail : List Nat) : Json → Decode String
  | .string s => pure s
  | j => invalidType trail j "a string"

/-- A size: a non-negative integer below 2^64. -/
def readSize (trail : List Nat) : Json → Decode Nat
  | .number (.unsigned n) => pure n
  | .number (.signed n) =>
    if n ≥ 0 then pure n.toNat
    else fail trail .after ("invalid value: integer `" ++ toString n ++ "`, expected usize")
  | j => invalidType trail j "usize"

/-- An optional value: `null` is none. -/
def readOption (read : List Nat → Json → Decode α) (trail : List Nat) : Json → Decode (Option α)
  | .null => pure none
  | j => some <$> read trail j

/-- Reads each element, knowing its index. -/
def readElements (read : List Nat → Json → Decode α) (trail : List Nat) :
    Nat → List Json → Decode (List α)
  | _, [] => pure []
  | i, x :: xs => do
    let a ← read (i :: trail) x
    let rest ← readElements read trail (i + 1) xs
    pure (a :: rest)

/-- A list, from an array. -/
def readList (read : List Nat → Json → Decode α) (trail : List Nat) : Json → Decode (List α)
  | .array items => readElements read trail 0 items
  | j => invalidType trail j "a sequence"

/-! ## Structs -/

/-- A field of a struct: its name, whether it must be given, and a check of a value for
it. -/
structure FieldSpec where
  name : String
  required : Bool
  check : List Nat → Json → Decode Unit

/-- A field read by `read`, with a default. -/
def FieldSpec.of (name : String) (read : List Nat → Json → Decode α) : FieldSpec :=
  ⟨name, false, fun t j => (read t j).map fun _ => ()⟩

/-- A field read by `read` that must be given. -/
def FieldSpec.needed (name : String) (read : List Nat → Json → Decode α) : FieldSpec :=
  ⟨name, true, fun t j => (read t j).map fun _ => ()⟩

/-- A field's value as given, with the indices leading to it. -/
abbrev Slot := Option (List Nat × Json)

/-- The position of a field by name. -/
def fieldIndex (fields : List FieldSpec) (name : String) : Option Nat :=
  fields.findIdx? (·.name == name)

/-- Reads an object's members into the fields' slots, in the members' order. -/
def fillMembers (fields : List FieldSpec) (trail : List Nat) :
    Nat → List (String × Json) → Array Slot → Decode (Array Slot)
  | _, [], slots => pure slots
  | i, (k, v) :: rest, slots =>
    match fieldIndex fields k with
    | none => fillMembers fields trail (i + 1) rest slots
    | some f =>
      match slots[f]? with
      | some (some _) => fail (i :: trail) .afterKey ("duplicate field `" ++ k ++ "`")
      | _ => do
        match fields[f]? with
        | some spec => spec.check (i :: trail) v
        | none => pure ()
        fillMembers fields trail (i + 1) rest (slots.set! f (some (i :: trail, v)))

/-- The first field with no value that must have one. -/
def missingField (fields : List FieldSpec) (slots : Array Slot) : Option String :=
  ((fields.zip slots.toList).find? fun (f, s) => f.required && s.isNone).map (·.1.name)

/-- Reads an array's elements into the fields' slots, in declaration order. -/
def fillElements (what : String) (count : Nat) (trail : List Nat) :
    Nat → List FieldSpec → List Json → Array Slot → Decode (Array Slot)
  | _, [], _, slots => pure slots
  | i, f :: fs, items, slots =>
    match items with
    | x :: xs => do
      f.check (i :: trail) x
      fillElements what count trail (i + 1) fs xs (slots.push (some (i :: trail, x)))
    | [] =>
      if f.required then
        fail trail .after ("invalid length " ++ toString i ++ ", expected " ++ what ++ " with " ++
          toString count ++ (if count == 1 then " element" else " elements"))
      else fillElements what count trail (i + 1) fs [] (slots.push none)

/-- The refusal of a struct read from an array with more elements than it has fields. -/
def tooMany (src : Source) (trail : List Nat) (len count : Nat) : Decode α :=
  match src with
  | .buffered =>
    fail trail .after ("invalid length " ++ toString len ++ ", expected " ++ toString count ++
      (if count == 1 then " element in sequence" else " elements in sequence"))
  | .value => fail trail .after ("invalid length " ++ toString len ++ ", expected fewer elements in array")
  | .text => fail (count :: trail) .firstChar "trailing characters"

/-- Reads a struct's fields from an object or an array: one slot per field, in
declaration order. `what` names the struct in messages. -/
def readStruct (src : Source) (what : String) (fields : List FieldSpec) (trail : List Nat) :
    Json → Decode (Array Slot)
  | .object members => do
    let slots ← fillMembers fields trail 0 members (Array.replicate fields.length none)
    match missingField fields slots with
    | some name => fail trail .after ("missing field `" ++ name ++ "`")
    | none => pure slots
  | .array items => do
    let slots ← fillElements what fields.length trail 0 fields items #[]
    if items.length > fields.length then tooMany src trail items.length fields.length
    else pure slots
  | j => invalidType trail j what

/-- A field's value: read from its slot, or the default. -/
def slotOr (slots : Array Slot) (i : Nat) (read : List Nat → Json → Decode α) (default : α) :
    Decode α :=
  match slots[i]? with
  | some (some (t, v)) => read t v
  | _ => pure default

/-! ## The model -/

/-- A named style, from its name. -/
def readNamedStyle (trail : List Nat) (j : Json) : Decode NamedStyle :=
  NamedStyle.ofName <$> readString trail j

/-- A run. -/
def readRun (src : Source) (trail : List Nat) (j : Json) : Decode InlineRun := do
  let s ← readStruct src "struct InlineRun" [.of "text" readString, .of "bold" readBool,
    .of "italic" readBool, .of "strikethrough" readBool, .of "underline" readBool,
    .of "linkUrl" (readOption readString), .of "fontFamily" (readOption readString)] trail j
  pure {
    text := ← slotOr s 0 readString ""
    bold := ← slotOr s 1 readBool false
    italic := ← slotOr s 2 readBool false
    strikethrough := ← slotOr s 3 readBool false
    underline := ← slotOr s 4 readBool false
    linkUrl := ← slotOr s 5 (readOption readString) none
    fontFamily := ← slotOr s 6 (readOption readString) none }

/-- A paragraph's list membership. -/
def readBullet (src : Source) (trail : List Nat) (j : Json) : Decode BulletInfo := do
  let s ← readStruct src "struct BulletInfo"
    [.needed "listId" readString, .of "nestingLevel" readSize] trail j
  pure { listId := ← slotOr s 0 readString "", nestingLevel := ← slotOr s 1 readSize 0 }

/-- A paragraph. -/
def readParagraph (src : Source) (trail : List Nat) (j : Json) : Decode Paragraph := do
  let s ← readStruct src "struct Paragraph" [.of "namedStyle" (readOption readNamedStyle),
    .of "bullet" (readOption (readBullet src)), .of "runs" (readList (readRun src))] trail j
  pure {
    namedStyle := ← slotOr s 0 (readOption readNamedStyle) none
    bullet := ← slotOr s 1 (readOption (readBullet src)) none
    runs := ← slotOr s 2 (readList (readRun src)) [] }

/-- A table cell. -/
def readCell (src : Source) (trail : List Nat) (j : Json) : Decode TableCell := do
  let s ← readStruct src "struct TableCell" [.of "runs" (readList (readRun src))] trail j
  pure { runs := ← slotOr s 0 (readList (readRun src)) [] }

/-- A table row. -/
def readRow (src : Source) (trail : List Nat) (j : Json) : Decode TableRow := do
  let s ← readStruct src "struct TableRow" [.of "cells" (readList (readCell src))] trail j
  pure { cells := ← slotOr s 0 (readList (readCell src)) [] }

/-- A table. -/
def readTable (src : Source) (trail : List Nat) (j : Json) : Decode Table := do
  let s ← readStruct src "struct Table" [.of "rows" (readList (readRow src))] trail j
  pure { rows := ← slotOr s 0 (readList (readRow src)) [] }

/-- The kinds of block, as their `type` names them. -/
inductive BlockKind where
  | paragraph
  | table
  | sectionBreak
  deriving Repr, Inhabited, DecidableEq

/-- A block's kind from the value of its `type`. -/
def readBlockKind (trail : List Nat) : Json → Decode BlockKind
  | .string "paragraph" => pure .paragraph
  | .string "table" => pure .table
  | .string "sectionBreak" => pure .sectionBreak
  | .string s =>
    fail trail .after ("unknown variant `" ++ s ++ "`, expected one of `paragraph`, `table`, `sectionBreak`")
  | j => invalidType trail j "variant identifier"

/-- Finds a block's kind among its members, in order, and keeps the other members. -/
def splitTag (trail : List Nat) :
    Nat → List (String × Json) → Option BlockKind → List (String × Json) →
      Decode (Option BlockKind × List (String × Json))
  | _, [], kind, kept => pure (kind, kept.reverse)
  | i, (k, v) :: rest, kind, kept =>
    if k == "type" then
      match kind with
      | some _ => fail (i :: trail) .afterKey "duplicate field `type`"
      | none => do
        let kind ← readBlockKind (i :: trail) v
        splitTag trail (i + 1) rest (some kind) kept
    else splitTag trail (i + 1) rest kind ((k, v) :: kept)

/-- The body of a block of a known kind, from its buffered members. -/
def readBlockBody (trail : List Nat) (kind : BlockKind) (content : Json) : Decode Block :=
  match kind with
  | .paragraph => .paragraph <$> readParagraph .buffered trail content
  | .table => .table <$> readTable .buffered trail content
  | .sectionBreak =>
    match content with
    | .array (_ :: items) => tooMany .buffered trail (items.length + 1) 0
    | _ => pure .sectionBreak

/-- A block. -/
def readBlock (trail : List Nat) (j : Json) : Decode Block := do
  let (kind, content) ← match j with
    | .object members => do
      let (kind, kept) ← splitTag trail 0 members none []
      match kind with
      | some k => pure (k, Json.object kept)
      | none => fail trail .after "missing field `type`"
    | .array (t :: rest) => do pure (← readBlockKind (0 :: trail) t, Json.array rest)
    | .array [] => fail trail .after "missing field `type`"
    | j => invalidType trail j "internally tagged enum Block"
  (readBlockBody trail kind content).mapError fun e => { e with trail, anchor := .afterElement }

/-- A list's levels. -/
def readLevel (src : Source) (trail : List Nat) (j : Json) : Decode ListLevel := do
  let s ← readStruct src "struct ListLevel"
    [.of "glyphType" (readOption readString), .of "glyphSymbol" (readOption readString)] trail j
  pure {
    glyphType := ← slotOr s 0 (readOption readString) none
    glyphSymbol := ← slotOr s 1 (readOption readString) none }

/-- Reads the registry's members in order; a later list of an id replaces an earlier one. -/
def readLists (src : Source) (trail : List Nat) :
    Nat → List (String × Json) → ListRegistry → Decode ListRegistry
  | _, [], r => pure r
  | i, (k, v) :: rest, r => do
    let levels ← readList (readLevel src) (i :: trail) v
    readLists src trail (i + 1) rest (r.insert k levels)

/-- The list registry, from an object. -/
def readRegistry (src : Source) (trail : List Nat) : Json → Decode ListRegistry
  | .object members => readLists src trail 0 members {}
  | j => invalidType trail j "a map"

/-- A document. -/
def readDocument (src : Source) (j : Json) : Decode DocumentModel := do
  let s ← readStruct src "struct DocumentModel"
    [.of "blocks" (readList readBlock), .of "lists" (readRegistry src)] [] j
  pure {
    blocks := ← slotOr s 0 (readList readBlock) []
    lists := ← slotOr s 1 (readRegistry src) {} }

/-- A document from JSON text, read as a stream would read it: errors in the text, then
errors in the document, then anything after the document, each with its line and
column. -/
def readDocumentText (text : String) : Except String DocumentModel :=
  match Json.parseFirst text with
  | .error e => .error e.text
  | .ok (j, after) =>
    match readDocument .text j with
    | .error e =>
      let (line, column) := Json.locate text e.trail.reverse e.anchor
      .error (e.message ++ " at line " ++ toString line ++ " column " ++ toString column)
    | .ok d =>
      match Json.trailing after with
      | some e => .error e.text
      | none => .ok d

end DocBridge.Model
