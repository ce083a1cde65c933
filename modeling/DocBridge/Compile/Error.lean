/-!
# Why a compilation fails

Two faults of structure (a heading opened inside a heading, a list item outside any
list) and two of the offsets (a start index of zero, an offset past the 64-bit range).
-/

namespace DocBridge

/-- Why a token stream does not compile. -/
inductive CompileError where
  /-- A heading opened while another heading is still open. -/
  | headingInHeading
  /-- A list item opened with no list open. -/
  | itemOutsideList
  /-- Document offsets start at 1. -/
  | startIndexZero
  /-- An offset passed the largest 64-bit word. -/
  | offsetOverflow
  deriving DecidableEq, Repr, Inhabited

namespace CompileError

/-- A fault of the stream's structure rather than of its offsets. -/
def isStructural : CompileError → Bool
  | .headingInHeading | .itemOutsideList => true
  | _ => false

/-- The message of an error. -/
def message : CompileError → String
  | .headingInHeading =>
    "Structural violation at heading_open: heading opened while another heading is still open"
  | .itemOutsideList => "Structural violation at list_item_open: list item outside of any list"
  | .startIndexZero => "Markdown compilation failed: start index must be at least 1"
  | .offsetOverflow => "Markdown compilation failed: document offset overflow"

end CompileError

end DocBridge
