import DocBridge.Markdown.Line
import DocBridge.Markdown.Html

/-!
# Markdown blocks

The block structure of a Markdown text, read one line at a time. Open blocks form a
path from the document to the innermost open block. For each line, the open containers
it continues are matched first (a quote needs its `>`, a list item its indentation);
then new blocks may start (quotes, headings, fences, HTML, setext underlines, rules,
list items, indented code); what remains of the line is text for the innermost block
that takes lines, a lazy continuation of an open paragraph, or a new paragraph. Blocks
that a line does not continue are closed.

A closed paragraph gives up the link reference definitions at its start; a paragraph
made only of definitions disappears. A list is loose when a blank line separates two of
its items, or two blocks inside one of its items: a blank line is remembered until the
next line with content, which makes the list around the innermost open item loose, or
the list it continues when it is a new item of the same list.
-/

namespace DocBridge.Markdown

/-- A list marker: a bullet, or a number with its delimiter, and the columns of its
indentation and of the text after it. -/
structure ListMarker where
  ordered : Bool
  /-- The bullet character, or the delimiter after an ordered marker's number. -/
  symbol : Char
  markerOffset : Nat
  padding : Nat
  deriving Repr, Inhabited

/-- Two markers continue one list: both bullets of one character, or both numbers with
one delimiter. -/
def ListMarker.sameList (a b : ListMarker) : Bool := a.ordered == b.ordered && a.symbol == b.symbol

/-- What a block is, with what it gathers while it is open. -/
inductive BlockKind where
  | document
  | quote
  /-- A list and whether it is loose. -/
  | list (marker : ListMarker) (loose : Bool)
  /-- A list item and the line it started on. -/
  | item (marker : ListMarker) (startLine : Nat)
  | paragraph (text : String)
  | heading (level : Nat) (text : String)
  | rule
  /-- An open fenced code block: its fence character, fence length and indentation, info
  string, and text so far. -/
  | fenced (fence : Char) (length offset : Nat) (info : String) (text : String)
  /-- An open indented code block: its lines, each with whether a line ending closed it. -/
  | indented (lines : Array (String × Bool))
  /-- A closed code block: fenced with its info string, or indented. -/
  | code (info : Option String) (text : String)
  /-- An HTML block of one of the seven kinds. -/
  | html (kind : Nat)
  deriving Repr, Inhabited

/-- A block and its children. -/
inductive Block where
  | mk (kind : BlockKind) (children : List Block)
  deriving Repr, Inhabited

namespace Block

/-- The kind of a block. -/
def kind : Block → BlockKind
  | .mk k _ => k

/-- The children of a block. -/
def children : Block → List Block
  | .mk _ cs => cs

end Block

namespace BlockKind

/-- A container can hold a child of the given kind: a list holds items only, and items
stand only in lists. -/
def canContain : BlockKind → BlockKind → Bool
  | .document, .item .. => false
  | .document, _ => true
  | .quote, .item .. => false
  | .quote, _ => true
  | .item .., .item .. => false
  | .item .., _ => true
  | .list .., .item .. => true
  | _, _ => false

/-- A block that takes the text of lines. -/
def acceptsLines : BlockKind → Bool
  | .paragraph _ | .fenced .. | .indented _ | .html _ => true
  | _ => false

/-- A paragraph. -/
def isParagraph : BlockKind → Bool
  | .paragraph _ => true
  | _ => false

/-- A list. -/
def isList : BlockKind → Bool
  | .list .. => true
  | _ => false

/-- A container: the document, a quote, a list or an item. -/
def isContainer : BlockKind → Bool
  | .document | .quote | .list .. | .item .. => true
  | _ => false

end BlockKind

/-! ## Link reference definitions -/

/-- Spaces and tabs, then the end of the line or of the text. -/
def atLineEnd (cs : List Char) : Bool :=
  match cs.dropWhile isSpaceOrTab with
  | [] => true
  | c :: _ => c == '\n'

/-- The text after the end of the current line. -/
def afterLineEnd (cs : List Char) : List Char :=
  match cs.dropWhile isSpaceOrTab with
  | '\n' :: rest => rest
  | rest => rest

/-- A link reference definition at the start of a text: its label, destination, and the
text after it. The title, if any, must end its line; a definition whose title does not
may still stand without the title. -/
def refDef (cs : List Char) : Option (String × String × List Char) := do
  let rest ← match cs.dropWhile isSpaceOrTab with
    | '[' :: rest => some rest
    | _ => none
  let (label, after) ← scanLabel rest
  let after ← match after with
    | ':' :: after => some after
    | _ => none
  let (dest, afterDest) ← scanDestination (skipSpaceOneLine after)
  let afterBlank := skipSpaceOneLine afterDest
  let titled := if afterBlank.length < afterDest.length then scanTitle afterBlank else none
  let tail ← match titled with
    | some (_, afterTitle) =>
      if atLineEnd afterTitle then some afterTitle
      else if atLineEnd afterDest then some afterDest else none
    | none => if atLineEnd afterDest then some afterDest else none
  if normalizeLabel label == "" then none
  pure (label, dest, afterLineEnd tail)

/-- Takes the definitions at the start of a text (at most `fuel` of them): the
definitions, and the text after them. -/
def takeRefDefs : Nat → List Char → List (String × String) → List (String × String) × List Char
  | 0, cs, acc => (acc.reverse, cs)
  | fuel + 1, cs, acc =>
    match refDef cs with
    | some (label, dest, rest) =>
      if rest.length < cs.length then takeRefDefs fuel rest ((normalizeLabel label, dest) :: acc)
      else (acc.reverse, cs)
    | none => (acc.reverse, cs)

/-! ## The parser -/

/-- The state of block parsing between lines. -/
structure BlockParser where
  /-- The open blocks from the document inwards; their children are kept newest first. -/
  path : Array Block
  /-- The link reference definitions, by normalized label; the first one of a label wins. -/
  refs : List (String × String) := []
  lineNo : Nat := 0
  /-- A blank line was read since the last line with content. -/
  blankSeen : Bool := false
  deriving Inhabited

/-- The parse of one line in progress. -/
structure LineStep where
  p : BlockParser
  l : LineCursor
  /-- The position in the path of the block the line's content goes to. -/
  container : Nat
  /-- The innermost open block the line continues. -/
  lastMatched : Nat
  /-- No block the line left unmatched is still open. -/
  allClosed : Bool
  deriving Inhabited

namespace BlockParser

/-- A parser at the start of a text. -/
def start : BlockParser := { path := #[.mk .document []] }

/-- The innermost open block. -/
def tip (p : BlockParser) : Block := p.path.back?.getD (.mk .document [])

/-- Replaces the innermost open block. -/
def setTip (p : BlockParser) (b : Block) : BlockParser :=
  { p with path := p.path.pop.push b }

/-- Records definitions, keeping the first of each label. -/
def addRefs (p : BlockParser) (defs : List (String × String)) : BlockParser :=
  { p with refs := defs.foldl (fun rs (k, v) => if rs.any (·.1 == k) then rs else rs ++ [(k, v)]) p.refs }

/-- The closed form of a block, with the parser updated by the definitions a paragraph
gives up; `none` for a paragraph of definitions only. -/
def finalize (p : BlockParser) : Block → BlockParser × Option Block
  | .mk (.paragraph text) cs =>
    let (defs, rest) := takeRefDefs text.length text.toList []
    let p := p.addRefs defs
    if !defs.isEmpty && rest.all isSyntaxBlank then (p, none)
    else (p, some (.mk (.paragraph (String.ofList rest)) cs.reverse))
  | .mk (.fenced _ _ _ info text) cs => (p, some (.mk (.code (some info) text) cs.reverse))
  | .mk (.indented lines) cs =>
    let kept := (lines.toList.reverse.dropWhile fun (s, _) => s.toList.all isSpaceOrTab).reverse
    let text := String.join (kept.map fun (s, e) => if e then s ++ "\n" else s)
    (p, some (.mk (.code none text) cs.reverse))
  | .mk k cs => (p, some (.mk k cs.reverse))

/-- Closes the innermost open block into its parent. The document is never closed. -/
def closeTip (p : BlockParser) : BlockParser :=
  if p.path.size ≤ 1 then p else
  let (p', closed) := p.finalize p.tip
  let path := p'.path.pop
  match closed, path.back? with
  | some b, some (.mk k cs) => { p' with path := path.pop.push (.mk k (b :: cs)) }
  | _, _ => { p' with path := path }

/-- Closes open blocks until `depth` blocks remain. -/
def closeTo (p : BlockParser) (depth : Nat) : BlockParser :=
  go p.path.size p
where
  go : Nat → BlockParser → BlockParser
    | 0, p => p
    | n + 1, p => if p.path.size > depth && p.path.size > 1 then go n p.closeTip else p

/-- Closes every open block but the document. -/
def closeAll (p : BlockParser) : BlockParser := p.closeTo 1

/-- Marks the list at a position of the path loose. -/
def markLoose (p : BlockParser) (i : Nat) : BlockParser :=
  match p.path[i]? with
  | some (.mk (.list m _) cs) => { p with path := p.path.set! i (.mk (.list m true) cs) }
  | _ => p

/-- The position of the innermost open container. -/
def innermostContainer (p : BlockParser) : Nat :=
  go p.path.size (p.path.size - 1)
where
  go : Nat → Nat → Nat
    | 0, i => i
    | n + 1, i =>
      match p.path[i]? with
      | some b => if b.kind.isContainer || i == 0 then i else go n (i - 1)
      | none => if i == 0 then 0 else go n (i - 1)

/-- A line with content follows: a blank line since the last one makes the list around
the innermost open item loose. A list whose items all closed counts as closed. -/
def contentFollows (p : BlockParser) : BlockParser :=
  if !p.blankSeen then p else
  let c := p.innermostContainer
  let c := if (p.path[c]?.map (·.kind.isList)).getD false && c > 0 then c - 1 else c
  let p := if c > 0 then p.markLoose (c - 1) else p
  { p with blankSeen := false }

end BlockParser

namespace LineStep

/-- The kind of the innermost open block. -/
def tipKind (s : LineStep) : BlockKind := s.p.tip.kind

/-- The kind of the block the line's content goes to. -/
def containerKind (s : LineStep) : BlockKind :=
  ((s.p.path[s.container]?).map (·.kind)).getD .document

/-- Closes the blocks the line left unmatched. -/
def closeUnmatched (s : LineStep) : LineStep :=
  if s.allClosed then s
  else { s with p := s.p.closeTo (s.lastMatched + 1), allClosed := true,
                container := min s.container s.lastMatched }

/-- Opens a block inside the innermost block that can hold it. -/
def addChild (s : LineStep) (k : BlockKind) : LineStep :=
  let p := go s.p.path.size s.p
  let p := { p with path := p.path.push (.mk k []) }
  { s with p, container := p.path.size - 1 }
where
  go : Nat → BlockParser → BlockParser
    | 0, p => p
    | n + 1, p => if p.tip.kind.canContain k || p.path.size ≤ 1 then p else go n p.closeTip

/-- Adds the rest of the line to the innermost block. -/
def addLine (s : LineStep) : LineStep :=
  let rest := s.l.rest
  let kind := match s.tipKind with
    | .paragraph t => .paragraph (t ++ rest ++ "\n")
    | .fenced c n o info t => .fenced c n o info (t ++ rest ++ (if s.l.hasEnding then "\n" else ""))
    | .indented lines => .indented (lines.push (rest, s.l.hasEnding))
    | k => k
  { s with p := s.p.setTip (.mk kind s.p.tip.children) }

end LineStep

/-! ## Block starts -/

/-- An ATX heading opening: one to six `#` followed by a blank or the end of the line.
Returns the level and the characters after the `#`s. -/
def atxOpening (cs : List Char) : Option (Nat × List Char) :=
  let (hashes, rest) := cs.span (· == '#')
  if hashes.length ≥ 1 && hashes.length ≤ 6 && (rest.isEmpty || isSpaceOrTab rest.head!) then
    some (hashes.length, rest)
  else none

/-- The text of an ATX heading: without its closing sequence of `#`s when blanks precede
it (or it is all there is), and without surrounding blanks. -/
def atxContent (cs : List Char) : String :=
  let trimmed := (cs.reverse.dropWhile isSpaceOrTab)
  let withoutHashes := trimmed.dropWhile (· == '#')
  let content :=
    if withoutHashes.length == trimmed.length then trimmed
    else match withoutHashes with
      | [] => []
      | c :: _ => if isSpaceOrTab c then withoutHashes else trimmed
  String.ofList ((content.dropWhile isSpaceOrTab).reverse.dropWhile isSpaceOrTab)

/-- A code fence opening: three or more backticks with no backtick after them, or three
or more tildes. Returns the fence character, its length and the rest of the line. -/
def fenceOpening (cs : List Char) : Option (Char × Nat × List Char) :=
  match cs with
  | c :: _ =>
    if c == '`' || c == '~' then
      let (run, rest) := cs.span (· == c)
      if run.length ≥ 3 && (c == '~' || !rest.contains '`') then some (c, run.length, rest) else none
    else none
  | [] => none

/-- A closing fence of at least `length` characters `c`, then only blanks. -/
def isClosingFence (c : Char) (length : Nat) (cs : List Char) : Bool :=
  let (run, rest) := cs.span (· == c)
  run.length ≥ length && rest.all isSpaceOrTab

/-- A setext underline: `=`s or `-`s, then only blanks. Returns the heading level. -/
def setextLevel (cs : List Char) : Option Nat :=
  match cs with
  | c :: _ =>
    if c == '=' || c == '-' then
      let (_, rest) := cs.span (· == c)
      if rest.all isSpaceOrTab then some (if c == '=' then 1 else 2) else none
    else none
  | [] => none

/-- A thematic break: three or more of one of `*`, `-`, `_`, with only blanks between and
after them. -/
def isThematicBreak (cs : List Char) : Bool :=
  match cs with
  | c :: _ =>
    (c == '*' || c == '-' || c == '_') && cs.all (fun d => d == c || isSpaceOrTab d) &&
      (cs.filter (· == c)).length ≥ 3
  | [] => false

/-- The characters that may start a block. -/
def maybeSpecial (c : Char) : Bool :=
  "#`~*+_=<>0123456789-".toList.contains c

namespace LineStep

/-- A list marker at the look-ahead position, and the line after the marker and the
blanks that belong to it. An ordered marker has one to nine digits; an item that
interrupts a paragraph must not be blank, and if ordered must start at 1. -/
def listMarker (s : LineStep) : Option (ListMarker × LineCursor) :=
  let l := s.l
  if l.indent ≥ 4 then none else
  let rest := l.suffix l.nextNonspace
  let inParagraph := s.containerKind.isParagraph
  let parsed : Option (Bool × Char × Nat × Nat) :=
    match rest with
    | c :: _ =>
      if c == '-' || c == '+' || c == '*' then some (false, c, 1, 1)
      else
        let (digits, after) := rest.span Char.isDigit
        match after with
        | d :: _ =>
          if digits.length ≥ 1 && digits.length ≤ 9 && (d == '.' || d == ')') then
            let n := digits.foldl (fun a x => 10 * a + (x.toNat - 48)) 0
            if inParagraph && n != 1 then none else some (true, d, digits.length + 1, n)
          else none
        | [] => none
    | [] => none
  match parsed with
  | none => none
  | some (ordered, symbol, markerLen, _) =>
    let next := l.at? (l.nextNonspace + markerLen)
    if !(next.isNone || next == some ' ' || next == some '\t') then none
    else if inParagraph && (l.suffix (l.nextNonspace + markerLen)).all isSyntaxBlank then none
    else
      let l := (l.skipToNonspace).advance markerLen true
      let startCol := l.column
      let startOffset := l.offset
      let startPartial := l.partialTab
      -- consume blanks, at most five columns' worth
      let spaced := spaces 8 l startCol
      let blankItem := (spaced.at? spaced.offset).isNone
      let after := spaced.column - startCol
      if after ≥ 5 || after < 1 || blankItem then
        let back := { spaced with column := startCol, offset := startOffset, partialTab := startPartial }
        let back := if (back.at? back.offset).any isSpaceOrTab then back.advance 1 true else back
        some (⟨ordered, symbol, l.indent, markerLen + 1⟩, back)
      else some (⟨ordered, symbol, l.indent, markerLen + after⟩, spaced)
where
  /-- Consumes one column at a time while the next character is a blank and fewer than
  five columns were consumed. -/
  spaces : Nat → LineCursor → Nat → LineCursor
    | 0, l, _ => l
    | n + 1, l, startCol =>
      let l := l.advance 1 true
      if l.column - startCol < 5 && (l.at? l.offset).any isSpaceOrTab then spaces n l startCol else l

/-- The outcome of trying a block start: nothing, a container (keep trying), or a leaf
(stop). -/
inductive Start where
  | none
  | container (s : LineStep)
  | leaf (s : LineStep)

/-- Tries the block starts in order at the look-ahead position. -/
def tryStarts (s : LineStep) : Start :=
  let l := s.l
  let rest := l.suffix l.nextNonspace
  let next := l.at? l.nextNonspace
  -- block quote
  if !l.indented && next == some '>' then
    let l := (l.skipToNonspace).advance 1 false
    let l := if (l.at? l.offset).any isSpaceOrTab then l.advance 1 true else l
    let s := { s with l }.closeUnmatched
    let s := { s with p := s.p.contentFollows }
    .container (s.addChild .quote)
  else
  -- ATX heading
  match (if l.indented then Option.none else atxOpening rest) with
  | some (level, after) =>
    let s := { s with l := l.toEnd }.closeUnmatched
    let s := { s with p := s.p.contentFollows }
    .leaf (s.addChild (.heading level (atxContent after)))
  | Option.none =>
  -- fenced code
  match (if l.indented then Option.none else fenceOpening rest) with
  | some (c, n, after) =>
    let info := unescape ((String.ofList after).trimAscii.toString.toList)
    let s := { s with l := l.toEnd }.closeUnmatched
    let s := { s with p := s.p.contentFollows }
    .leaf (s.addChild (.fenced c n l.indent info ""))
  | Option.none =>
  -- HTML block
  let lazyParagraph := !s.allClosed && !l.blank && s.tipKind.isParagraph
  match (if l.indented then Option.none
      else htmlBlockStart rest (s.containerKind.isParagraph || lazyParagraph)) with
  | some kind =>
    let s := s.closeUnmatched
    let s := { s with p := s.p.contentFollows }
    .leaf (s.addChild (.html kind))
  | Option.none =>
  -- setext heading
  let setext : Option Start :=
    if l.indented then Option.none else
    match s.containerKind, setextLevel rest with
    | .paragraph text, some level =>
      let s := s.closeUnmatched
      let (defs, remaining) := takeRefDefs text.length text.toList []
      let p := s.p.addRefs defs
      if remaining.isEmpty then
        -- the paragraph was all definitions: the line is no underline
        some (.none)
      else
        let p := p.setTip (.mk (.heading level (String.ofList remaining)) p.tip.children)
        some (.leaf { s with p, l := l.toEnd })
    | _, _ => Option.none
  match setext with
  | some (.leaf s') => .leaf s'
  | _ =>
  -- thematic break
  if !l.indented && isThematicBreak rest then
    let s := { s with l := l.toEnd }.closeUnmatched
    let s := { s with p := s.p.contentFollows }
    .leaf (s.addChild .rule)
  else
  -- list item
  match (if !l.indented || s.containerKind.isList then s.listMarker else Option.none) with
  | some (m, l') =>
    let s := { s with l := l' }.closeUnmatched
    let s :=
      match s.tipKind with
      | .list tm _ =>
        if tm.sameList m then
          -- a new item of the open list: a blank line before it loosens the list
          let p := if s.p.blankSeen then s.p.markLoose (s.p.path.size - 1) else s.p
          { s with p := { p with blankSeen := false } }
        else
          let s := { s with p := s.p.contentFollows }
          let s := s.addChild (.list m false)
          { s with p := { s.p with blankSeen := false } }
      | _ =>
        let s := s.addChild (.list m false)
        { s with p := { s.p with blankSeen := false } }
    .container (s.addChild (.item m s.p.lineNo))
  | Option.none =>
  -- indented code
  if l.indented && !s.tipKind.isParagraph && !l.blank then
    let s := { s with l := l.advance 4 true }.closeUnmatched
    let s := { s with p := s.p.contentFollows }
    .leaf (s.addChild (.indented #[]))
  else .none

/-- Tries block starts until a leaf starts or nothing does (at most `fuel` times). -/
def starts : Nat → LineStep → LineStep × Bool
  | 0, s => (s, false)
  | fuel + 1, s =>
    let s := { s with l := s.l.scanBlank }
    let l := s.l
    if !l.indented && !((l.at? l.nextNonspace).any maybeSpecial) then
      ({ s with l := l.skipToNonspace }, false)
    else
      match s.tryStarts with
      | .container s' => starts fuel s'
      | .leaf s' => (s', true)
      | .none => ({ s with l := s.l.skipToNonspace }, false)

end LineStep

namespace BlockParser

/-- Matches the line against the open blocks from the document inwards. Returns the
line step and whether a closing fence used up the line. -/
def continueBlocks (p : BlockParser) (l : LineCursor) : LineStep × Bool :=
  go (p.path.size - 1) 1 l
where
  go : Nat → Nat → LineCursor → LineStep × Bool
    | 0, i, l => (⟨p, l, i - 1, i - 1, i - 1 == p.path.size - 1⟩, false)
    | fuel + 1, i, l =>
      match p.path[i]? with
      | none => (⟨p, l, i - 1, i - 1, i - 1 == p.path.size - 1⟩, false)
      | some b =>
        let l := l.scanBlank
        let fail := (⟨p, l, i - 1, i - 1, false⟩, false)
        match b.kind with
        | .quote =>
          if !l.indented && l.at? l.nextNonspace == some '>' then
            let l := (l.skipToNonspace).advance 1 false
            let l := if (l.at? l.offset).any isSpaceOrTab then l.advance 1 true else l
            go fuel (i + 1) l
          else fail
        | .item m _ =>
          if l.blank then
            -- an item that has held nothing yet ends at a blank line
            if b.children.isEmpty && p.path.size ≤ i + 1 then fail else go fuel (i + 1) l.skipToNonspace
          else if l.indent ≥ m.markerOffset + m.padding then
            go fuel (i + 1) (l.advance (m.markerOffset + m.padding) true)
          else fail
        | .list .. => go fuel (i + 1) l
        | .fenced c n offset _ _ =>
          if l.indent ≤ 3 && l.at? l.nextNonspace == some c &&
              isClosingFence c n (l.suffix l.nextNonspace) then
            -- the closing fence ends the block and the line
            let p' := (p.closeTo (i + 1)).closeTip
            (⟨p', l.toEnd, i - 1, i - 1, true⟩, true)
          else
            go fuel (i + 1) (skipFenceIndent offset l)
        | .indented _ =>
          if l.indent ≥ 4 then go fuel (i + 1) (l.advance 4 true)
          else if l.blank then go fuel (i + 1) l.skipToNonspace
          else fail
        | .html kind =>
          if l.blank && (kind == 6 || kind == 7) then fail else go fuel (i + 1) l
        | .paragraph _ => if l.blank then fail else go fuel (i + 1) l
        | _ => fail
  /-- Skips up to `n` blanks of a fence's indentation. -/
  skipFenceIndent : Nat → LineCursor → LineCursor
    | 0, l => l
    | n + 1, l => if (l.at? l.offset).any isSpaceOrTab then skipFenceIndent n (l.advance 1 true) else l

/-- Reads one line. -/
def addLine (p : BlockParser) (chars : Array Char) (hasEnding : Bool) : BlockParser :=
  let p := { p with lineNo := p.lineNo + 1 }
  let (s, done) := p.continueBlocks (LineCursor.ofLine chars hasEnding)
  if done then s.p else
  -- a paragraph's further lines keep the blanks after their containers' markers: code
  -- spans keep them, and text drops them after each line ending
  let afterContainers := s.l
  let matchedLeaf := !s.containerKind.isParagraph && s.containerKind.acceptsLines
  let (s, leafStarted) := if matchedLeaf then (s, false) else s.starts (chars.size + 2)
  let fenceOpened := leafStarted && match s.tipKind with
    | .fenced .. => true
    | _ => false
  -- the opening fence's line holds only the fence and its info string
  if fenceOpened then s.p else
  if !s.allClosed && !s.l.blank && s.tipKind.isParagraph then
    -- a lazy continuation of the open paragraph
    let s := { s with l := afterContainers }
    (s.addLine).p
  else
    let s := s.closeUnmatched
    let k := s.containerKind
    if s.l.blank then
      -- remember the blank line, unless it belongs to a quote or to code, or it is the
      -- rest of the line that starts an empty item
      let remember := match k with
        | .item _ startLine => startLine != s.p.lineNo
        | .list .. => true
        | _ => false
      let s := { s with p := { s.p with blankSeen := s.p.blankSeen || remember } }
      if k.acceptsLines then
        let s := (s.addLine)
        s.p
      else s.p
    else if k.acceptsLines then
      let s := if k.isParagraph then { s with l := afterContainers } else { s with p := s.p.contentFollows }
      let s := s.addLine
      match k with
      | .html kind =>
        if kind ≥ 1 && kind ≤ 5 && htmlBlockEnds kind (s.l.suffix s.l.offset) then s.p.closeTip else s.p
      | _ => s.p
    else if s.l.offset < chars.size then
      let s := { s with p := s.p.contentFollows }
      let s := s.addChild (.paragraph "")
      let s := { s with l := s.l.scanBlank.skipToNonspace }
      (s.addLine).p
    else s.p

/-- The document of a text: every line read, every block closed. -/
def parse (s : String) : Block × List (String × String) :=
  let p := (splitLines s).foldl (fun p (cs, e) => p.addLine cs e) start
  let p := p.closeAll
  match p.tip with
  | .mk k cs => (.mk k cs.reverse, p.refs)

end BlockParser

end DocBridge.Markdown
