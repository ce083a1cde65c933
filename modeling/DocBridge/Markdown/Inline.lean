import DocBridge.Markdown.Html
import DocBridge.Text.Blank
import DocBridge.Text.Punctuation

/-!
# Markdown inlines

The inline content of a paragraph or heading: text, code spans, HTML, line breaks,
emphasis, strong emphasis, strikethrough, links and images.

The text is read left to right into pieces: finished inlines, runs of delimiter
characters (`*`, `_`, `~`) that may open or close emphasis, and opening brackets that
may start a link. A closing bracket looks for the nearest opening bracket and, when a
destination or a defined label follows, turns everything after that bracket into a link
(or an image), resolving the emphasis inside it first; a link deactivates the brackets
before it, as links do not nest. At the end, emphasis is resolved over what is left:
each closing run is matched with the nearest earlier opening run of the same character
it may pair with, the runs losing one or two characters per match.

A run may open when it is followed by a character that is not white space and, for `_`
and a single `~`, is preceded by white space or punctuation; it may close by the same
rule with before and after exchanged. `*` may also open inside a word when no
punctuation follows, and `~~` anywhere next to a non-blank. A run of three or more
tildes is plain text, and tildes pair only with a run of the same length.
-/

namespace DocBridge.Markdown

/-- An inline element. -/
inductive Inline where
  | text (s : String)
  | code (s : String)
  | html (s : String)
  | softBreak
  | hardBreak
  | emph (children : List Inline)
  | strong (children : List Inline)
  | strike (children : List Inline)
  | link (dest : String) (children : List Inline)
  | image (dest : String) (children : List Inline)
  deriving Repr, Inhabited

/-- A piece of inline content while it is read. -/
inductive Piece where
  /-- A finished inline. -/
  | node (n : Inline)
  /-- A run of a delimiter character: what is left of it, its length as written, and
  whether it may open and close emphasis. -/
  | delim (c : Char) (count written : Nat) (canOpen canClose : Bool)
  /-- An opening bracket (`[`, or `![` for an image), whether it may still start a link,
  where its label starts in the text, and whether another bracket followed it. -/
  | bracket (image : Bool) (active : Bool) (labelStart : Nat) (bracketAfter : Bool)
  deriving Repr, Inhabited

namespace Piece

/-- The inline a piece stands for once nothing more can happen to it. -/
def literal : Piece → Inline
  | .node n => n
  | .delim c count _ _ _ => .text (String.ofList (List.replicate count c))
  | .bracket image _ _ _ => .text (if image then "![" else "[")

/-- A delimiter run that may still close. -/
def isCloser : Piece → Bool
  | .delim _ count _ _ canClose => canClose && count > 0
  | _ => false

end Piece

/-! ## Emphasis -/

/-- Whether the delimiter run `opener` may pair with the run `closer`: the same
character, an opener that may open, and for `*` and `_` the rule of three (when either
may both open and close, their lengths must not add up to a multiple of three unless
both are multiples of three); tildes pair only with tildes of the same length. -/
def pairs (opener closer : Piece) : Bool :=
  match opener, closer with
  | .delim c n w o oc, .delim c' _ w' co _ =>
    c == c' && o && n > 0 &&
      (if c == '~' then w == w'
       else !((oc || co) && (w + w') % 3 == 0 && !(w % 3 == 0 && w' % 3 == 0)))
  | _, _ => false

/-- The position of the nearest opener before `i` that pairs with the closer at `i`. -/
def findOpener (ps : Array Piece) (closer : Piece) : Nat → Option Nat
  | 0 => none
  | i + 1 => if pairs ps[i]! closer then some i else findOpener ps closer i

/-- Wraps the pieces strictly between an opener and a closer into one inline, taking
`use` characters from each run. -/
def wrap (ps : Array Piece) (oi ci : Nat) : Array Piece × Nat :=
  match ps[oi]!, ps[ci]! with
  | .delim c n w o oc, .delim c' n' w' co cc =>
    let use := if c == '~' then min n n' else if n ≥ 2 && n' ≥ 2 then 2 else 1
    let inner := ((ps.extract (oi + 1) ci).toList.map Piece.literal)
    let node : Inline :=
      if c == '~' then .strike inner else if use == 2 then .strong inner else .emph inner
    let opener := Piece.delim c (n - use) w o oc
    let closer := Piece.delim c' (n' - use) w' co cc
    let before := ps.extract 0 oi
    let after := ps.extract (ci + 1) ps.size
    let left := if n - use == 0 then before else before.push opener
    let mid := left.push (.node node)
    -- the closer stays where it is when characters of it are left
    if n' - use == 0 then (mid ++ after, mid.size)
    else ((mid.push closer) ++ after, mid.size)
  | _, _ => (ps, ci + 1)

/-- Resolves emphasis over the pieces, closers from left to right; `fuel` bounds the
steps, each of which removes characters of a run or moves past a piece. -/
def resolveEmphasis : Nat → Array Piece → Nat → Array Piece
  | 0, ps, _ => ps
  | fuel + 1, ps, i =>
    if h : i < ps.size then
      let p := ps[i]
      if p.isCloser then
        match findOpener ps p i with
        | some oi =>
          let (ps', next) := wrap ps oi i
          resolveEmphasis fuel ps' next
        | none =>
          -- a run that can neither close here nor open later is plain text
          let ps' := match p with
            | .delim _ _ _ false _ => ps.set i (.node p.literal)
            | _ => ps
          resolveEmphasis fuel ps' (i + 1)
      else resolveEmphasis fuel ps (i + 1)
    else ps

/-- The inlines of a list of pieces, emphasis resolved. -/
def finishPieces (ps : Array Piece) : List Inline :=
  let total := ps.foldl (fun n p => match p with
    | .delim _ count _ _ _ => n + count + 1
    | _ => n + 1) 1
  ((resolveEmphasis (2 * total + 2) ps 0).toList.map Piece.literal)

/-! ## Code spans

The text of a code span is read from the pieces its lines are cut into. A line that ends
in two or more blanks, or in a backslash, ends in a hard break that holds those
characters; any other line ends in a soft break, a single trailing blank left out of the
line's text. A backslash before ASCII punctuation belongs to no piece.

The first line is taken as written up to its line ending; every further piece is taken as
its range says, and each line ending becomes a space. One space is stripped from each end
when both ends are blank (a space or a line ending) and the text is not all spaces; a line
ending stripped that way gives no space.
-/

/-- A piece of a code span's text: text, or a line break from `start` to its line's end. -/
inductive CodePiece where
  | text (start stop : Nat)
  | lineBreak (start lineEnd : Nat)
  deriving Repr, Inhabited

/-- Where a piece starts. -/
def CodePiece.start : CodePiece → Nat
  | .text a _ => a
  | .lineBreak a _ => a

/-- The text pieces of `[start, stop)`, cut at each escaping backslash. -/
def textPieces (raw : Array Char) (start stop : Nat) : List CodePiece :=
  go (stop + 1 - start) start start []
where
  /-- Scans from `i`, the current piece starting at `first`. -/
  go : Nat → Nat → Nat → List CodePiece → List CodePiece
    | 0, _, _, acc => acc.reverse
    | fuel + 1, first, i, acc =>
      if i ≥ stop then (if first < stop then .text first stop :: acc else acc).reverse
      else if raw[i]! == '\\' && i + 1 < stop && Text.isAsciiPunctuation raw[i + 1]! then
        go fuel (i + 1) (i + 2) (if first < i then .text first i :: acc else acc)
      else go fuel first (i + 1) acc

/-- The pieces of a code span's text, line by line. -/
def codePieces (raw : Array Char) : List CodePiece :=
  let ends := (List.range raw.size).filter fun i => raw[i]! == '\n'
  let starts := 0 :: ends.map (· + 1)
  let lines := starts.zip (ends.map some ++ [none])
  lines.flatMap fun (ls, le?) =>
    match le? with
    | none => textPieces raw ls raw.size
    | some le =>
      let line := (raw.extract ls le).toList.reverse
      let backslashes := (line.takeWhile (· == '\\')).length
      let blanks := (line.takeWhile isSpaceOrTab).length
      if backslashes % 2 == 1 then textPieces raw ls (le - 1) ++ [.lineBreak (le - 1) le]
      else if blanks ≥ 2 then textPieces raw ls (le - blanks) ++ [.lineBreak (le - blanks) le]
      else textPieces raw ls (le - blanks) ++ [.lineBreak le le]

/-- The text of a code span from what stands between its backtick runs. -/
def codeText (raw : Array Char) : String :=
  let slice (a b : Nat) : String := String.ofList (raw.extract a b).toList
  let edge (c : Option Char) : Bool := c == some ' ' || c == some '\n'
  if !raw.contains '\n' then
    if raw.all (· == ' ') then slice 0 raw.size
    else if raw[0]? == some ' ' && raw.back? == some ' ' then slice 1 (raw.size - 1)
    else slice 0 raw.size
  else
    let strip := edge raw[0]? && edge raw.back?
    let spanStart := if strip then 1 else 0
    let spanEnd := if strip && spanStart < raw.size then raw.size - 1 else raw.size
    let rec go : List CodePiece → Option String → Nat → Bool → Option String × Nat
      | [], buf, ss, _ => (buf, ss)
      | p :: rest, buf, ss, first =>
        match p with
        | .lineBreak start le =>
          if strip && first then
            go rest buf (match rest with
              | q :: _ => min spanEnd q.start
              | [] => spanEnd) false
          else if strip && rest.isEmpty then (buf, ss)
          else
            let line := match buf with
              | none => slice ss le
              | some b => b ++ slice start le
            go rest (some (line ++ " ")) ss false
        | .text a b =>
          match buf with
          | some t => go rest (some (t ++ slice a (if rest.isEmpty then spanEnd else b))) ss false
          | none => go rest none ss false
    match go (codePieces raw) none spanStart true with
    | (some t, _) => t
    | (none, ss) => slice ss spanEnd

/-! ## Reading -/

/-- The state of reading inline text: the text, the position, the pieces so far, text
not yet made a piece, and the link reference definitions. -/
structure InlineReader where
  subject : Array Char
  pos : Nat := 0
  pieces : Array Piece := #[]
  pending : String := ""
  refs : List (String × String)
  deriving Inhabited

namespace InlineReader

/-- The character at a position. -/
def at? (r : InlineReader) (i : Nat) : Option Char := r.subject[i]?

/-- The text from a position on. -/
def suffix (r : InlineReader) (i : Nat) : List Char := (r.subject.extract i r.subject.size).toList

/-- Turns pending text into a piece. -/
def flush (r : InlineReader) : InlineReader :=
  if r.pending.isEmpty then r
  else { r with pieces := r.pieces.push (.node (.text r.pending)), pending := "" }

/-- Adds a piece. -/
def push (r : InlineReader) (p : Piece) : InlineReader :=
  let r := r.flush
  { r with pieces := r.pieces.push p }

/-- Adds text. -/
def addText (r : InlineReader) (s : String) : InlineReader := { r with pending := r.pending ++ s }

/-- The character before a position, if any. -/
def before? (r : InlineReader) (i : Nat) : Option Char := if i == 0 then none else r.at? (i - 1)

/-- Whether a character is white space for flanking; the ends of the text count as
white space. -/
def blankAt (c : Option Char) : Bool :=
  match c with
  | none => true
  | some c => Text.isBlank c

/-- Whether a character is punctuation for flanking. -/
def punctAt (c : Option Char) : Bool :=
  match c with
  | none => false
  | some c => Text.isPunctuation c

/-- A delimiter run of `c` at the position. -/
def delimRun (r : InlineReader) (c : Char) : InlineReader :=
  let n := ((r.suffix r.pos).takeWhile (· == c)).length
  let prev := r.before? r.pos
  let next := r.at? (r.pos + n)
  let canOpen :=
    if next.isNone || blankAt next then false
    else if prev.isNone then true
    else if c == '*' && !punctAt next then true
    else if c == '~' && n > 1 then true
    else blankAt prev || punctAt prev
  let canClose :=
    if prev.isNone || blankAt prev then false
    else if next.isNone then true
    else if c == '*' && !punctAt prev then true
    else if c == '~' && n > 1 then true
    else blankAt next || punctAt next
  let r' := { r with pos := r.pos + n }
  if c == '~' && n > 2 then r'.addText (String.ofList (List.replicate n c))
  else if canOpen || canClose then r'.push (.delim c n n canOpen canClose)
  else r'.addText (String.ofList (List.replicate n c))

/-- A code span at a run of backticks: up to the next run of the same length, its text as
`codeText` gives it. Without a closing run the backticks are text. -/
def codeSpan (r : InlineReader) : InlineReader :=
  let rest := r.suffix r.pos
  let n := (rest.takeWhile (· == '`')).length
  let body := rest.drop n
  match closing n body.length body [] with
  | some (content, after) =>
    { (r.push (.node (.code (codeText content.toArray)))) with pos := r.subject.size - after.length }
  | none => { r.addText (String.ofList (List.replicate n '`')) with pos := r.pos + n }
where
  /-- The content before the next run of exactly `n` backticks, and the text after it. -/
  closing (n : Nat) : Nat → List Char → List Char → Option (List Char × List Char)
    | 0, _, _ => none
    | _, [], _ => none
    | fuel + 1, c :: cs, acc =>
      if c == '`' then
        let run := (c :: cs).takeWhile (· == '`')
        let after := (c :: cs).drop run.length
        if run.length == n then some (acc.reverse, after)
        else closing n fuel after (run.reverse ++ acc)
      else closing n fuel cs (c :: acc)

/-- A line ending: a hard break after two or more spaces, otherwise a soft break; the
spaces before it and the blanks after it are dropped. -/
def newline (r : InlineReader) : InlineReader :=
  let chars := r.pending.toList
  let trailing := (chars.reverse.takeWhile (· == ' ')).length
  let hard := trailing ≥ 2
  let r := { r with pending := String.ofList (chars.take (chars.length - trailing)) }
  let r := r.push (if hard then .node .hardBreak else .node .softBreak)
  let skip := ((r.suffix (r.pos + 1)).takeWhile isSpaceOrTab).length
  { r with pos := r.pos + 1 + skip }

/-- A URI scheme: a letter, then 1 to 31 letters, digits, `+`, `.` or `-`. -/
def schemeLength (cs : List Char) : Option Nat :=
  match cs with
  | c :: rest =>
    if isAsciiAlpha c then
      let more := (rest.takeWhile fun d => isAsciiAlnum d || d == '+' || d == '.' || d == '-').length
      if more ≥ 1 && more ≤ 31 then some (more + 1) else none
    else none
  | [] => none

/-- An autolink after its `<`: an absolute URI or an email address, then `>`. Returns the
destination, the text, and the characters after the `>`. -/
def autolink (cs : List Char) : Option (String × String × List Char) :=
  let uri : Option (String × String × List Char) := do
    let n ← schemeLength cs
    let after := cs.drop n
    match after with
    | ':' :: _ =>
      let (body, rest) := cs.span fun c => !(c == '>' || c == '<' || c.val ≤ 0x20)
      match rest with
      | '>' :: rest' => some (String.ofList body, String.ofList body, rest')
      | _ => none
    | _ => none
  match uri with
  | some r => some r
  | none =>
    let isLocal (c : Char) := isAsciiAlnum c || ".!#$%&'*+/=?^_`\x7b|\x7d~-".toList.contains c
    let (user, rest) := cs.span isLocal
    match rest with
    | '@' :: domain =>
      let (dom, rest') := domain.span fun c => isAsciiAlnum c || c == '-' || c == '.'
      let labels := dom.splitBy fun _ b => b != '.'
      let parts := (String.ofList dom).splitOn "."
      let labelOk := parts.all fun p =>
        let q := p.toList
        !q.isEmpty && q.length ≤ 63 && q.head? != some '-' && q.getLast? != some '-'
      match rest' with
      | '>' :: after =>
        if !user.isEmpty && !labels.isEmpty && labelOk then
          let email := String.ofList (user ++ '@' :: dom)
          some ("mailto:" ++ email, email, after)
        else none
      | _ => none
    | _ => none

/-- The characters after the position of a list of characters that ends the text. -/
def posOf (r : InlineReader) (rest : List Char) : Nat := r.subject.size - rest.length

/-- What follows a closing bracket: an inline destination in parentheses, or a label
that names a definition. Returns the destination and the position after what was read. -/
def linkTarget (r : InlineReader) (labelStart closeAt : Nat) (bracketAfter : Bool) :
    Option (String × Nat) :=
  let after := r.suffix (closeAt + 1)
  let inline : Option (String × Nat) :=
    match after with
    | '(' :: rest =>
      let rest := skipSpaceOneLine rest
      let dest : Option (String × List Char) :=
        match rest with
        | ')' :: _ => some ("", rest)
        | _ => scanDestination rest
      match dest with
      | none => none
      | some (d, afterDest) =>
        let afterBlank := skipSpaceOneLine afterDest
        let afterTitle :=
          if afterBlank.length < afterDest.length then
            match scanTitle afterBlank with
            | some (_, t) => t
            | none => afterBlank
          else afterBlank
        match skipSpaceOneLine afterTitle with
        | ')' :: rest' => some (d, r.posOf rest')
        | _ => none
    | _ => none
  match inline with
  | some t => some t
  | none =>
    let label : Option (String × Nat) :=
      match after with
      | '[' :: rest =>
        match scanLabel rest with
        | some (l, rest') => some (l, r.posOf rest')
        | none =>
          match rest with
          | ']' :: rest' => if bracketAfter then none
            else some (String.ofList (r.subject.extract labelStart closeAt).toList, r.posOf rest')
          | _ => none
      | _ =>
        if bracketAfter then none
        else some (String.ofList (r.subject.extract labelStart closeAt).toList, closeAt + 1)
    match label with
    | some (l, next) =>
      match r.refs.find? (·.1 == normalizeLabel l) with
      | some (_, d) => some (d, next)
      | none => none
    | none => none

/-- The position of the nearest opening bracket among the pieces. -/
def lastBracket (ps : Array Piece) : Nat → Option Nat
  | 0 => none
  | i + 1 =>
    match ps[i]! with
    | .bracket .. => some i
    | _ => lastBracket ps i

/-- A closing bracket at the position. -/
def closeBracket (r : InlineReader) : InlineReader :=
  let r := r.flush
  match lastBracket r.pieces r.pieces.size with
  | none => { r.addText "]" with pos := r.pos + 1 }
  | some b =>
    match r.pieces[b]! with
    | .bracket image active labelStart bracketAfter =>
      let literal := r.pieces.set! b (r.pieces[b]!.literal |> .node)
      if !active then { r with pieces := literal, pending := "]", pos := r.pos + 1 }
      else
        match r.linkTarget labelStart r.pos bracketAfter with
        | some (dest, next) =>
          let inner := finishPieces (r.pieces.extract (b + 1) r.pieces.size)
          let node := if image then Inline.image dest inner else Inline.link dest inner
          let pieces := (r.pieces.extract 0 b).push (.node node)
          -- links do not nest: the brackets before a link can no longer start one
          let pieces :=
            if image then pieces
            else pieces.map fun p => match p with
              | .bracket false _ ls ba => .bracket false false ls ba
              | p => p
          { r with pieces, pos := next }
        | none => { r with pieces := literal, pending := "]", pos := r.pos + 1 }
    | _ => { r.addText "]" with pos := r.pos + 1 }

/-- Marks the open brackets as followed by another bracket. -/
def markBracketAfter (ps : Array Piece) : Array Piece :=
  ps.map fun p => match p with
    | .bracket i a ls _ => .bracket i a ls true
    | p => p

/-- Whether a character may start something other than plain text. -/
def isSpecial (c : Char) : Bool :=
  c == '\n' || c == '`' || c == '[' || c == ']' || c == '\\' || c == '!' || c == '<' ||
    c == '&' || c == '*' || c == '_' || c == '~'

/-- Reads one step at the position. -/
def step (r : InlineReader) : InlineReader :=
  match r.at? r.pos with
  | none => r
  | some c =>
    if c == '\n' then r.newline
    else if c == '\\' then
      match r.at? (r.pos + 1) with
      | some '\n' =>
        let r := r.push (.node .hardBreak)
        let skip := ((r.suffix (r.pos + 2)).takeWhile isSpaceOrTab).length
        { r with pos := r.pos + 2 + skip }
      | some d =>
        if Text.isAsciiPunctuation d then { r.addText (String.singleton d) with pos := r.pos + 2 }
        else { r.addText "\\" with pos := r.pos + 1 }
      | none => { r.addText "\\" with pos := r.pos + 1 }
    else if c == '`' then r.codeSpan
    else if c == '*' || c == '_' || c == '~' then r.delimRun c
    else if c == '[' then
      let r := { r with pieces := markBracketAfter r.pieces }
      { r.push (.bracket false true (r.pos + 1) false) with pos := r.pos + 1 }
    else if c == '!' && r.at? (r.pos + 1) == some '[' then
      let r := { r with pieces := markBracketAfter r.pieces }
      { r.push (.bracket true true (r.pos + 2) false) with pos := r.pos + 2 }
    else if c == ']' then r.closeBracket
    else if c == '<' then
      let rest := r.suffix (r.pos + 1)
      match autolink rest with
      | some (dest, txt, after) =>
        { r.push (.node (.link dest [.text txt])) with pos := r.posOf after }
      | none =>
        match scanInlineHtml rest with
        | some after =>
          let html := String.ofList (r.subject.extract r.pos (r.posOf after)).toList
          { r.push (.node (.html html)) with pos := r.posOf after }
        | none => { r.addText "<" with pos := r.pos + 1 }
    else if c == '&' then
      match scanEntity (r.suffix (r.pos + 1)) with
      | some (s, after) => { r.addText s with pos := r.posOf after }
      | none => { r.addText "&" with pos := r.pos + 1 }
    else
      let run := (r.suffix r.pos).takeWhile fun d => !isSpecial d
      let run := if run.isEmpty then [c] else run
      { r.addText (String.ofList run) with pos := r.pos + run.length }

/-- Reads until the end of the text; every step moves forward, so the length of the text
bounds the steps. -/
def run : Nat → InlineReader → InlineReader
  | 0, r => r
  | fuel + 1, r => if r.pos < r.subject.size then run fuel r.step else r

end InlineReader

/-- The inlines of a paragraph's or heading's text, its leading blanks and its trailing
blanks and line endings dropped. -/
def parseInlines (refs : List (String × String)) (text : String) : List Inline :=
  let chars := (text.toList.dropWhile isSpaceOrTab).reverse.dropWhile fun c => c == ' ' || c == '\t' || c == '\n'
  let chars := chars.reverse
  let r : InlineReader := { subject := chars.toArray, refs }
  let r := (InlineReader.run (chars.length + 1) r).flush
  finishPieces r.pieces

end DocBridge.Markdown
