import DocBridge.Token
import DocBridge.Edit.Operation
import DocBridge.Compile.Error
import DocBridge.Compile.Format
import DocBridge.Compile.Lists

/-!
# The compiler's state

The compiler reads tokens one at a time and inserts text at a cursor that only moves
forward. Along the way it records what the text needs later: the styled text ranges,
the heading ranges with their named styles, the rules, and the list items. Every
insertion of non-empty text advances the cursor by the text's UTF-16 length; an
insertion that would pass the cursor's limit, the largest 64-bit offset, fails instead.

`Compiler.step` applies one token. Headings and list items are the only tokens that can
fail on their own: a heading inside a heading, and a list item outside any list.
-/

namespace DocBridge

/-- What a compilation is asked to do: where the text starts, which tab it targets, and
whether the first top-level heading becomes the document title. -/
structure CompileOptions where
  startIndex : Nat := 1
  tabId : Option String := none
  titleForFirstH1 : Bool := false
  deriving DecidableEq, Repr, Inhabited

/-- A styled range of inserted text. -/
structure TextRange where
  span : Span
  format : InlineFormat
  deriving DecidableEq, Repr, Inhabited

/-- A heading being compiled: where its text starts, and its level. -/
structure OpenHeading where
  start : Nat
  level : Nat
  deriving DecidableEq, Repr, Inhabited

/-- The state of a compilation between two tokens. -/
structure Compiler where
  cursor : Nat
  /-- The largest offset the cursor may reach: offsets are 64-bit words. Without a limit
  (`none`) the same algorithm runs on unbounded offsets. -/
  limit : Option Nat := some maxOffset
  tabId : Option String
  titleForFirstH1 : Bool
  titleConsumed : Bool := false
  atLineStart : Bool := true
  inserts : Array EditOperation := #[]
  marks : MarkStack := []
  /-- The open lists, innermost first. -/
  lists : List ListFrame := []
  /-- Every list item so far, in the order they opened. -/
  items : Array ListItem := #[]
  /-- The positions in `items` of the open items, innermost first. -/
  openItems : List Nat := []
  heading : Option OpenHeading := none
  textRanges : Array TextRange := #[]
  headingRanges : Array (Span × NamedStyle) := #[]
  ruleRanges : Array Span := #[]
  deriving Inhabited

namespace Compiler

/-- The state before the first token. -/
def start (o : CompileOptions) : Compiler :=
  { cursor := o.startIndex, tabId := o.tabId, titleForFirstH1 := o.titleForFirstH1 }

/-- Inserts text at the cursor and returns the span it covers; empty text inserts nothing. -/
def insert (c : Compiler) (text : String) : Except CompileError (Compiler × Span) :=
  if text.isEmpty then .ok (c, ⟨c.cursor, c.cursor⟩)
  else
    let stop := c.cursor + Text.units16 text
    if c.limit.any (· < stop) then .error .offsetOverflow
    else
      .ok ({ c with
        inserts := c.inserts.push (.insertText c.cursor text c.tabId)
        cursor := stop
        atLineStart := text.endsWith "\n" }, ⟨c.cursor, stop⟩)

/-- Inserts text and records its format, unless the text is empty or the format plain. -/
def insertStyled (c : Compiler) (text : String) (f : InlineFormat) : Except CompileError Compiler := do
  let (c, span) ← c.insert text
  if !span.isEmpty && !f.isPlain then
    pure { c with textRanges := c.textRanges.push ⟨span, f⟩ }
  else pure c

/-- Inserts a newline unless the cursor is at the start of a line. -/
def ensureLineStart (c : Compiler) : Except CompileError Compiler :=
  if c.atLineStart then .ok c else (c.insert "\n").map (·.1)

/-- The text after the task prefix of the innermost open item's first non-empty text,
and the state with that item's prefix looked at. -/
def takeTaskPrefix (c : Compiler) (text : String) : Compiler × String :=
  if text.isEmpty then (c, text) else
  match c.openItems with
  | [] => (c, text)
  | idx :: _ =>
    match c.items[idx]? with
    | none => (c, text)
    | some item =>
      if item.taskChecked then (c, text) else
      match stripTaskPrefix text with
      | some rest =>
        ({ c with items := c.items.set! idx { item with taskChecked := true, preset := .checkbox } },
          rest)
      | none => ({ c with items := c.items.set! idx { item with taskChecked := true } }, text)

/-- Plain text in the format in effect. -/
def addText (c : Compiler) (text : String) : Except CompileError Compiler :=
  let (c, text) := c.takeTaskPrefix text
  c.insertStyled text c.marks.snapshot

/-- Opens a heading. -/
def openHeading (c : Compiler) (level : Nat) : Except CompileError Compiler := do
  if c.heading.isSome then throw .headingInHeading
  let c ← c.ensureLineStart
  pure { c with heading := some ⟨c.cursor, min (max level 1) 6⟩ }

/-- Closes the open heading: its text gets the heading's style (the title, for the first
top-level heading when asked), and a newline ends it. -/
def closeHeading (c : Compiler) : Except CompileError Compiler :=
  match c.heading with
  | none => .ok c
  | some h =>
    let title := h.level == 1 && c.titleForFirstH1 && !c.titleConsumed
    let style : NamedStyle := if title then .title else .heading h.level
    let c := { c with heading := none, titleConsumed := c.titleConsumed || title }
    let span : Span := ⟨h.start, c.cursor⟩
    let c := if span.isEmpty then c else { c with headingRanges := c.headingRanges.push (span, style) }
    (c.insert "\n").map (·.1)

/-- Ends the current item's own line: the offset of its last newline, inserting one when
the line has text. -/
def finishItemLine (c : Compiler) : Except CompileError (Compiler × Nat) :=
  if c.atLineStart then .ok (c, c.cursor - 1)
  else (c.insert "\n").map fun (c', _) => (c', c.cursor)

/-- Sets the end of an item. -/
def setItemStop (c : Compiler) (idx stop : Nat) : Compiler :=
  { c with items := c.items.modify idx fun i => { i with stop := some stop } }

/-- Opens a list; a list inside an item ends that item's own line first. -/
def openList (c : Compiler) (kind : ListKind) : Except CompileError Compiler := do
  let c ← match c.openItems with
    | idx :: _ =>
      match c.items[idx]? with
      | some item =>
        if item.stop.isNone then do
          let (c, stop) ← c.finishItemLine
          pure (c.setItemStop idx stop)
        else pure c
      | none => pure c
    | [] => pure c
  let c ← c.ensureLineStart
  pure { c with lists := ⟨kind, c.lists.length⟩ :: c.lists }

/-- Opens a list item: a new line, then one tab per level of nesting. -/
def openItem (c : Compiler) : Except CompileError Compiler := do
  match c.lists with
  | [] => throw .itemOutsideList
  | frame :: _ =>
    let c ← c.ensureLineStart
    let start := c.cursor
    let (c, _) ← c.insert (String.ofList (List.replicate frame.level '\t'))
    pure { c with
      items := c.items.push { start, level := frame.level, preset := frame.kind.preset }
      openItems := c.items.size :: c.openItems }

/-- Closes the innermost open item, ending its line if no nested list did. -/
def closeItem (c : Compiler) : Except CompileError Compiler := do
  match c.openItems with
  | [] => pure c
  | idx :: rest =>
    let c := { c with openItems := rest }
    match c.items[idx]? with
    | some item =>
      if item.stop.isNone then do
        let (c, stop) ← c.finishItemLine
        pure (c.setItemStop idx stop)
      else c.ensureLineStart
    | none => pure c

/-- A line of a code block: an empty line becomes one space so it can carry the style. -/
def codeLine (line : String) : String :=
  let line := if line.endsWith "\r" then String.ofList (line.toList.dropLast) else line
  if line.isEmpty then " " else line

/-- Inserts each line of a code block in the code style, then an empty line. -/
def addCode (c : Compiler) (content : String) : Except CompileError Compiler := do
  let c ← c.ensureLineStart
  let body := if content.endsWith "\n" then content.toList.dropLast else content.toList
  let c ← ((body.splitOn '\n').map String.ofList).foldlM (fun c line => do
    let (c, span) ← c.insert (codeLine line ++ "\n")
    pure { c with textRanges := c.textRanges.push ⟨⟨span.start, span.stop - 1⟩, .codeOnly⟩ }) c
  (c.insert "\n").map (·.1)

/-- Applies one token. -/
def step (c : Compiler) : Token → Except CompileError Compiler
  | .headingOpen level => c.openHeading level
  | .headingClose => c.closeHeading
  | .paragraphOpen => .ok c
  | .paragraphClose => c.ensureLineStart
  | .text s => c.addText s
  | .codeInline s => c.insertStyled s { c.marks.snapshot with code := true }
  | .strongOpen => .ok { c with marks := c.marks.push .bold }
  | .emOpen => .ok { c with marks := c.marks.push .italic }
  | .strikeOpen => .ok { c with marks := c.marks.push .strike }
  | .linkOpen href => .ok { c with marks := c.marks.push (.link href) }
  | .strongClose => .ok { c with marks := c.marks.pop .bold }
  | .emClose => .ok { c with marks := c.marks.pop .italic }
  | .strikeClose => .ok { c with marks := c.marks.pop .strike }
  | .linkClose => .ok { c with marks := c.marks.pop .link }
  | .bulletListOpen => c.openList .bullet
  | .orderedListOpen => c.openList .ordered
  | .bulletListClose => .ok { c with lists := c.lists.drop 1 }
  | .orderedListClose => .ok { c with lists := c.lists.drop 1 }
  | .itemOpen => c.openItem
  | .itemClose => c.closeItem
  | .softBreak => (c.insert " ").map (·.1)
  | .hardBreak => (c.insert "\n").map (·.1)
  | .fence _ content => c.addCode content
  | .codeBlock content => c.addCode content
  | .rule => do
    let c ← c.ensureLineStart
    let (c, span) ← c.insert "\n"
    pure { c with ruleRanges := c.ruleRanges.push span }
  | .inline _ => .ok c
  | _ => .ok c

/-- The operations of a finished compilation: every insertion in order, then the styles
of each text range (decoration, then link), the heading styles, the rules, and the bullet
ranges, last first. -/
def finish (c : Compiler) : List EditOperation :=
  let range (s : Span) : Range := ⟨s, c.tabId⟩
  let textOps := c.textRanges.toList.flatMap fun r =>
    (match r.format.decoration with
      | some s => [EditOperation.updateTextStyle (range r.span) s]
      | none => []) ++
    (match r.format.link with
      | some url => [EditOperation.updateTextStyle (range r.span) (TextStyle.linkTo url)]
      | none => [])
  let headingOps := c.headingRanges.toList.map fun (s, n) =>
    EditOperation.updateParagraphStyle (range s) (.named n)
  let ruleOps := c.ruleRanges.toList.map fun s =>
    EditOperation.updateParagraphStyle (range s) .bottomRule
  let bulletOps := (mergeBulletRanges c.items.toList).map fun b =>
    EditOperation.createBulletRange (range b.span) b.preset
  c.inserts.toList ++ textOps ++ headingOps ++ ruleOps ++ bulletOps

end Compiler

end DocBridge
