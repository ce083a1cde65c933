import DocBridge.Token

/-!
# Markdown events

A parsed Markdown document as a flat stream of events: a start and an end event around
every block and every inline span, and events for text, code spans, HTML, line breaks and
rules in between. Adjacent text events are merged before the stream is read
(`Event.mergeText`), so a piece of text split by the parser reaches the reader whole,
while HTML between two texts keeps them apart.

`Token.ofEvents` reads a stream into tokens: block events become block tokens, the inline
events between two block events are grouped into one `inline` token, the text of a code
block is gathered into one code token, and HTML, images' own start and end, and anything
else with no token are dropped.
-/

namespace DocBridge.Markdown

/-- What a start or end event opens or closes. -/
inductive Tag where
  | paragraph
  | heading (level : Nat)
  | quote
  /-- A code block: fenced with its info string, or indented (`none`). -/
  | codeBlock (info : Option String)
  | htmlBlock
  | list (ordered : Bool)
  | item
  | emphasis
  | strong
  | strike
  | link (dest : String)
  | image (dest : String)
  deriving Repr, Inhabited, DecidableEq

/-- One event of a parsed document. -/
inductive Event where
  | start (tag : Tag)
  | stop (tag : Tag)
  | text (s : String)
  | code (s : String)
  | html (s : String)
  | inlineHtml (s : String)
  | softBreak
  | hardBreak
  | rule
  deriving Repr, Inhabited, DecidableEq

/-- Prepends an event to a stream whose texts are merged, joining two texts. -/
def Event.consMerged : Event → List Event → List Event
  | .text a, .text b :: rest => .text (a ++ b) :: rest
  | e, rest => e :: rest

/-- The stream with every run of adjacent texts joined into one text. -/
def Event.mergeText (es : List Event) : List Event :=
  es.foldr Event.consMerged []

/-- A token stream being read from events: the tokens so far, the inline tokens of the
open block, and the code block being gathered (its info string and text). -/
structure TokenBuilder where
  tokens : Array Token := #[]
  inline : Array Token := #[]
  code : Option (Option String × String) := none
  deriving Inhabited

namespace TokenBuilder

/-- Closes the pending inline group. -/
def flush (b : TokenBuilder) : TokenBuilder :=
  if b.inline.isEmpty then b
  else { b with tokens := b.tokens.push (.inline b.inline.toList), inline := #[] }

/-- A block token, after the pending inline group. -/
def block (b : TokenBuilder) (t : Token) : TokenBuilder :=
  let b := b.flush
  { b with tokens := b.tokens.push t }

/-- An inline token. -/
def add (b : TokenBuilder) (t : Token) : TokenBuilder :=
  { b with inline := b.inline.push t }

/-- Ends the code block being gathered. -/
def finishCode (b : TokenBuilder) : TokenBuilder :=
  match b.code with
  | some (some info, content) => { b with code := none, tokens := b.tokens.push (.fence info content) }
  | some (none, content) => { b with code := none, tokens := b.tokens.push (.codeBlock content) }
  | none => b

/-- The token a start event gives. -/
def start (b : TokenBuilder) : Tag → TokenBuilder
  | .paragraph => b.block .paragraphOpen
  | .heading level => b.block (.headingOpen level)
  | .quote => b.block .quoteOpen
  | .codeBlock info => { b.flush with code := some (info, "") }
  | .list true => b.block .orderedListOpen
  | .list false => b.block .bulletListOpen
  | .item => b.block .itemOpen
  | .emphasis => b.add .emOpen
  | .strong => b.add .strongOpen
  | .strike => b.add .strikeOpen
  | .link dest => b.add (.linkOpen dest)
  | .htmlBlock | .image _ => b

/-- The token an end event gives. -/
def stop (b : TokenBuilder) : Tag → TokenBuilder
  | .paragraph => b.block .paragraphClose
  | .heading _ => b.block .headingClose
  | .quote => b.block .quoteClose
  | .list true => b.block .orderedListClose
  | .list false => b.block .bulletListClose
  | .item => b.block .itemClose
  | .emphasis => b.add .emClose
  | .strong => b.add .strongClose
  | .strike => b.add .strikeClose
  | .link _ => b.add .linkClose
  | .codeBlock _ | .htmlBlock | .image _ => b

/-- Reads one event. Inside a code block only its text and its end count. -/
def step (b : TokenBuilder) (e : Event) : TokenBuilder :=
  match b.code with
  | some (info, content) =>
    match e with
    | .text s => { b with code := some (info, content ++ s) }
    | .stop (.codeBlock _) => b.finishCode
    | _ => b
  | none =>
    match e with
    | .start t => b.start t
    | .stop t => b.stop t
    | .text s => b.add (.text s)
    | .code s => b.add (.codeInline s)
    | .softBreak => b.add .softBreak
    | .hardBreak => b.add .hardBreak
    | .rule => b.block .rule
    | .html _ | .inlineHtml _ => b

/-- The tokens read, with the last inline group and code block closed. -/
def finish (b : TokenBuilder) : List Token :=
  b.flush.finishCode.tokens.toList

end TokenBuilder

end DocBridge.Markdown

namespace DocBridge

/-- The tokens of an event stream, its adjacent texts merged first. -/
def Token.ofEvents (es : List Markdown.Event) : List Token :=
  ((Markdown.Event.mergeText es).foldl Markdown.TokenBuilder.step {}).finish

end DocBridge
