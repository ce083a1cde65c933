import DocBridge.Edit.Style

/-!
# The formatting in effect

Inline markup opens and closes marks: bold, italic, strikethrough and links. The marks
form a stack, innermost first. Closing a kind removes the innermost mark of that kind,
which need not be the innermost mark of all, so marks closed out of order or never
opened do no harm. The format in effect has each flag set when some mark of its kind is
open, and the link of the innermost link mark.

A format turns into at most two text styles: its decoration (the flags, with the code
treatment for code) and its link, which always travels in an operation of its own.
-/

namespace DocBridge

/-- The kind of an inline mark. -/
inductive MarkKind where
  | bold
  | italic
  | strike
  | link
  deriving DecidableEq, Repr, Inhabited

/-- An open inline mark. -/
inductive Mark where
  | bold
  | italic
  | strike
  | link (url : String)
  deriving DecidableEq, Repr, Inhabited

/-- The kind of a mark. -/
def Mark.kind : Mark → MarkKind
  | .bold => .bold
  | .italic => .italic
  | .strike => .strike
  | .link _ => .link

/-- The inline formatting of a piece of text. -/
structure InlineFormat where
  bold : Bool := false
  italic : Bool := false
  strike : Bool := false
  code : Bool := false
  link : Option String := none
  deriving DecidableEq, Repr, Inhabited

namespace InlineFormat

/-- The format of code and nothing else. -/
def codeOnly : InlineFormat := { code := true }

/-- A format with nothing set. -/
def isPlain (f : InlineFormat) : Bool := f == {}

/-- The decoration of a format: its flags as a text style, none when no flag is set. -/
def decoration (f : InlineFormat) : Option TextStyle :=
  if f.bold || f.italic || f.strike || f.code then
    some { bold := f.bold, italic := f.italic, strikethrough := f.strike, monospace := f.code }
  else none

end InlineFormat

/-- The open marks, innermost first. -/
abbrev MarkStack := List Mark

namespace MarkStack

/-- Opens a mark. -/
def push (s : MarkStack) (m : Mark) : MarkStack := m :: s

/-- Removes the innermost mark of a kind; `none` when no mark of that kind is open. -/
def pop? : MarkStack → MarkKind → Option MarkStack
  | [], _ => none
  | m :: ms, k => if m.kind == k then some ms else (pop? ms k).map (m :: ·)

/-- Removes the innermost mark of a kind, if there is one. -/
def pop (s : MarkStack) (k : MarkKind) : MarkStack := (s.pop? k).getD s

/-- The url of the innermost link mark. -/
def innermostLink : MarkStack → Option String
  | [] => none
  | .link url :: _ => some url
  | _ :: ms => innermostLink ms

/-- The format in effect. -/
def snapshot (s : MarkStack) : InlineFormat where
  bold := s.any (·.kind == .bold)
  italic := s.any (·.kind == .italic)
  strike := s.any (·.kind == .strike)
  link := innermostLink s

end MarkStack

end DocBridge
