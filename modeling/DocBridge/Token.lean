import DocBridge.Text.Blank

/-!
# Tokens

A token stream is the flat form of a Markdown document that the compiler reads: block
tokens open and close headings, paragraphs, lists, items, quotes and tables, leaf tokens
carry code blocks and rules, and an `inline` token groups the inline tokens of one block.

`Token.name` gives each token its wire tag. A stream is blank (`Token.blankList`) when it
holds no visible text and no code block or rule, and a blank stream compiles to nothing.
-/

namespace DocBridge

/-- One token of a Markdown document. -/
inductive Token where
  /-- A heading of the given level starts. -/
  | headingOpen (level : Nat)
  | headingClose
  | paragraphOpen
  | paragraphClose
  /-- Plain text. -/
  | text (content : String)
  /-- An inline code span. -/
  | codeInline (content : String)
  | strongOpen
  | strongClose
  | emOpen
  | emClose
  | strikeOpen
  | strikeClose
  /-- A link to `href` starts. -/
  | linkOpen (href : String)
  | linkClose
  | bulletListOpen
  | bulletListClose
  | orderedListOpen
  | orderedListClose
  | itemOpen
  | itemClose
  /-- A line break that reads as a space. -/
  | softBreak
  /-- A forced line break. -/
  | hardBreak
  /-- A fenced code block with its info string. -/
  | fence (info content : String)
  /-- An indented code block. -/
  | codeBlock (content : String)
  /-- A thematic break. -/
  | rule
  | quoteOpen
  | quoteClose
  | tableOpen
  | tableClose
  | rowOpen
  | rowClose
  | cellOpen
  | cellClose
  /-- The inline tokens of one block. -/
  | inline (children : List Token)
  deriving Repr, Inhabited

namespace Token

/-- The wire tag of a token. -/
def name : Token → String
  | .headingOpen _ => "heading_open"
  | .headingClose => "heading_close"
  | .paragraphOpen => "paragraph_open"
  | .paragraphClose => "paragraph_close"
  | .text _ => "text"
  | .codeInline _ => "code_inline"
  | .strongOpen => "strong_open"
  | .strongClose => "strong_close"
  | .emOpen => "em_open"
  | .emClose => "em_close"
  | .strikeOpen => "s_open"
  | .strikeClose => "s_close"
  | .linkOpen _ => "link_open"
  | .linkClose => "link_close"
  | .bulletListOpen => "bullet_list_open"
  | .bulletListClose => "bullet_list_close"
  | .orderedListOpen => "ordered_list_open"
  | .orderedListClose => "ordered_list_close"
  | .itemOpen => "list_item_open"
  | .itemClose => "list_item_close"
  | .softBreak => "softbreak"
  | .hardBreak => "hardbreak"
  | .fence _ _ => "fence"
  | .codeBlock _ => "code_block"
  | .rule => "hr"
  | .quoteOpen => "blockquote_open"
  | .quoteClose => "blockquote_close"
  | .tableOpen => "table_open"
  | .tableClose => "table_close"
  | .rowOpen => "tr_open"
  | .rowClose => "tr_close"
  | .cellOpen => "td_open"
  | .cellClose => "td_close"
  | .inline _ => "inline"

mutual

/-- A token shows nothing: text of white space only, or a structural token. Code blocks
and rules always show. -/
def isBlank : Token → Bool
  | .text s => Text.allBlank s
  | .codeInline s => Text.allBlank s
  | .fence _ _ => false
  | .codeBlock _ => false
  | .rule => false
  | .inline children => blankList children
  | _ => true

/-- Every token of the stream is blank. -/
def blankList : List Token → Bool
  | [] => true
  | t :: ts => isBlank t && blankList ts

end

mutual

/-- The tokens with every inline group replaced by its children, depth first. -/
def flatten : List Token → List Token
  | [] => []
  | t :: ts => flattenOne t ++ flatten ts

/-- One token with its inline group, if it is one, replaced by its children. -/
def flattenOne : Token → List Token
  | .inline children => flatten children
  | t => [t]

end

end Token

end DocBridge
