import DocBridge.Span
import DocBridge.Edit.Style

/-!
# Edit operations

One edit of the target document, addressed by absolute offsets that hold only when the
insertions run in the order they were made. Each operation may name the tab it targets.
An insertion has a location; every other operation a range.
-/

namespace DocBridge

/-- A span of a tab, or of the document body when no tab is named. -/
structure Range where
  span : Span
  tabId : Option String
  deriving DecidableEq, Repr, Inhabited

/-- One edit of the document. -/
inductive EditOperation where
  /-- Inserts `text` at offset `index`. -/
  | insertText (index : Nat) (text : String) (tabId : Option String)
  /-- Sets a text style on a range. -/
  | updateTextStyle (range : Range) (style : TextStyle)
  /-- Sets a paragraph style on the paragraphs of a range. -/
  | updateParagraphStyle (range : Range) (style : ParagraphStyle)
  /-- Turns the paragraphs of a range into list items. -/
  | createBulletRange (range : Range) (preset : BulletPreset)
  /-- Deletes a range. -/
  | deleteContentRange (range : Range)
  deriving DecidableEq, Repr, Inhabited

namespace EditOperation

/-- The tab an operation targets. -/
def tabId : EditOperation → Option String
  | .insertText _ _ t => t
  | .updateTextStyle r _ => r.tabId
  | .updateParagraphStyle r _ => r.tabId
  | .createBulletRange r _ => r.tabId
  | .deleteContentRange r => r.tabId

/-- The range of an operation other than an insertion. -/
def range? : EditOperation → Option Range
  | .insertText .. => none
  | .updateTextStyle r _ => some r
  | .updateParagraphStyle r _ => some r
  | .createBulletRange r _ => some r
  | .deleteContentRange r => some r

end EditOperation

end DocBridge
