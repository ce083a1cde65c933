/-!
# Unicode white space

The characters with the Unicode property White_Space, and the trims that remove them
from either end of a text. Trimming is how document runs, headings and cells lose their
surrounding blanks, and how a font family is normalised before it is compared.
-/

namespace DocBridge.Text

/-- A character with the Unicode property White_Space: the ASCII blanks and line
breaks, NEXT LINE, NO-BREAK SPACE, OGHAM SPACE MARK, the spaces U+2000 to U+200A, the
line and paragraph separators, NARROW NO-BREAK SPACE, MEDIUM MATHEMATICAL SPACE and
IDEOGRAPHIC SPACE. -/
def isBlank (c : Char) : Bool :=
  let n := c.val
  (0x09 ≤ n && n ≤ 0x0D) || n == 0x20 || n == 0x85 || n == 0xA0 || n == 0x1680 ||
    (0x2000 ≤ n && n ≤ 0x200A) || n == 0x2028 || n == 0x2029 || n == 0x202F ||
    n == 0x205F || n == 0x3000

/-- Drops white space from the front of a list of characters. -/
def dropBlank (cs : List Char) : List Char :=
  cs.dropWhile isBlank

/-- The text without white space at its start. -/
def trimStart (s : String) : String :=
  String.ofList (dropBlank s.toList)

/-- The text without white space at its end. -/
def trimEnd (s : String) : String :=
  String.ofList (dropBlank s.toList.reverse).reverse

/-- The text without white space at either end. -/
def trim (s : String) : String :=
  trimEnd (trimStart s)

/-- A text that is empty once trimmed: it holds white space only. -/
def allBlank (s : String) : Bool :=
  s.toList.all isBlank

theorem isBlank_of_isWhitespace (c : Char) (h : c.isWhitespace = true) : isBlank c = true := by
  simp only [Char.isWhitespace, Bool.or_eq_true, decide_eq_true_eq] at h
  simp only [isBlank, Bool.or_eq_true, Bool.and_eq_true, beq_iff_eq, decide_eq_true_eq]
  rcases h with ((h | h) | h) | h <;> subst h <;> decide

end DocBridge.Text
