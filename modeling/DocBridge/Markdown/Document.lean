import DocBridge.Markdown.Block
import DocBridge.Markdown.Inline
import DocBridge.Markdown.Event

/-!
# From Markdown text to tokens

A document is read in two passes: the block structure first (`BlockParser.parse`), which
also collects the link reference definitions, then the inline content of every
paragraph and heading (`parseInlines`). The tree is then written out as a stream of
events, start and end events around the children of each block and inline, and the
events become tokens (`Token.ofEvents`).

A paragraph directly inside an item of a tight list has no events of its own: its
inlines stand in the item. A code block gives one text event with its content.
-/

namespace DocBridge.Markdown

mutual

/-- The events of an inline. -/
def Inline.events : Inline → List Event
  | .text s => [.text s]
  | .code s => [.code s]
  | .html s => [.inlineHtml s]
  | .softBreak => [.softBreak]
  | .hardBreak => [.hardBreak]
  | .emph cs => .start .emphasis :: inlineEvents cs ++ [.stop .emphasis]
  | .strong cs => .start .strong :: inlineEvents cs ++ [.stop .strong]
  | .strike cs => .start .strike :: inlineEvents cs ++ [.stop .strike]
  | .link d cs => .start (.link d) :: inlineEvents cs ++ [.stop (.link d)]
  | .image d cs => .start (.image d) :: inlineEvents cs ++ [.stop (.image d)]

/-- The events of a sequence of inlines. -/
def inlineEvents : List Inline → List Event
  | [] => []
  | i :: is => i.events ++ inlineEvents is

end

mutual

/-- The events of a block; `tight` says the block stands directly in an item of a tight
list. -/
def Block.events (refs : List (String × String)) (tight : Bool) : Block → List Event
  | .mk (.paragraph text) _ =>
    let inner := inlineEvents (parseInlines refs text)
    if tight then inner else .start .paragraph :: inner ++ [.stop .paragraph]
  | .mk (.heading level text) _ =>
    .start (.heading level) :: inlineEvents (parseInlines refs text) ++ [.stop (.heading level)]
  | .mk .rule _ => [.rule]
  | .mk (.code info text) _ =>
    .start (.codeBlock info) :: (if text.isEmpty then [] else [.text text]) ++ [.stop (.codeBlock info)]
  | .mk (.html _) _ => [.start .htmlBlock, .stop .htmlBlock]
  | .mk .quote cs => .start .quote :: blockEvents refs false cs ++ [.stop .quote]
  | .mk (.list m loose) cs =>
    .start (.list m.ordered) :: blockEvents refs (!loose) cs ++ [.stop (.list m.ordered)]
  | .mk (.item ..) cs => .start .item :: blockEvents refs tight cs ++ [.stop .item]
  | .mk _ cs => blockEvents refs false cs

/-- The events of a sequence of blocks. -/
def blockEvents (refs : List (String × String)) (tight : Bool) : List Block → List Event
  | [] => []
  | b :: bs => b.events refs tight ++ blockEvents refs tight bs

end

/-- The events of a Markdown document, adjacent text merged. -/
def events (s : String) : List Event :=
  let (doc, refs) := BlockParser.parse s
  Event.mergeText (doc.events refs false)

/-- The tokens of a Markdown document. -/
def tokenize (s : String) : List Token := Token.ofEvents (events s)

end DocBridge.Markdown
