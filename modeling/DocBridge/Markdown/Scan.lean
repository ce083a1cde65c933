import DocBridge.Markdown.Entity
import DocBridge.Text.Punctuation
import DocBridge.Text.CaseFold

/-!
# Scanning pieces of Markdown text

The small grammars that blocks and inlines share: character references, backslash
escapes, link labels, link destinations and link titles. Each scanner takes the
characters that follow and returns what it read together with the characters after it,
or `none` when the text does not start with such a piece.
-/

namespace DocBridge.Markdown

/-- A space or a tab. -/
def isSpaceOrTab (c : Char) : Bool := c == ' ' || c == '\t'

/-- A line ending character. -/
def isLineEnding (c : Char) : Bool := c == '\n' || c == '\r'

/-- A blank in the sense of Markdown syntax: space, tab, line ending, form feed or
vertical tab. -/
def isSyntaxBlank (c : Char) : Bool :=
  c == ' ' || c == '\t' || c == '\n' || c == '\r' || c.val == 12 || c.val == 11

/-- An ASCII letter. -/
def isAsciiAlpha (c : Char) : Bool := ('a' ≤ c && c ≤ 'z') || ('A' ≤ c && c ≤ 'Z')

/-- An ASCII letter or digit. -/
def isAsciiAlnum (c : Char) : Bool := isAsciiAlpha c || c.isDigit

/-- A hexadecimal digit. -/
def isHexDigit (c : Char) : Bool :=
  c.isDigit || ('a' ≤ c && c ≤ 'f') || ('A' ≤ c && c ≤ 'F')

/-- The value of a hexadecimal digit. -/
def hexDigitValue (c : Char) : Nat :=
  if c.isDigit then c.toNat - 48 else if 'a' ≤ c && c ≤ 'f' then c.toNat - 87 else c.toNat - 55

/-- The character of a numeric reference: the replacement character for zero, for a
surrogate and for anything past the last code point. -/
def codePointChar (n : Nat) : Char :=
  if n == 0 || (0xD800 ≤ n && n < 0xE000) || n > 0x10FFFF then Char.ofNat 0xFFFD
  else Char.ofNat n

/-- Takes up to `limit` leading characters that satisfy `p`. -/
def takeUpTo (p : Char → Bool) : Nat → List Char → List Char × List Char
  | 0, cs => ([], cs)
  | _, [] => ([], [])
  | n + 1, c :: cs =>
    if p c then
      let (a, b) := takeUpTo p n cs
      (c :: a, b)
    else ([], c :: cs)

/-- A character reference after its `&`: `#` and one to seven decimal digits, `#x` and one
to six hexadecimal digits, or a name HTML5 defines, each closed by a semicolon. -/
def scanEntity (cs : List Char) : Option (String × List Char) :=
  match cs with
  | '#' :: x :: rest =>
    if x == 'x' || x == 'X' then
      let (ds, after) := takeUpTo isHexDigit 6 rest
      match after with
      | ';' :: after' =>
        if ds.isEmpty then none
        else some (String.singleton (codePointChar (ds.foldl (fun n d => 16 * n + hexDigitValue d) 0)), after')
      | _ => none
    else
      let (ds, after) := takeUpTo Char.isDigit 7 (x :: rest)
      match after with
      | ';' :: after' =>
        if ds.isEmpty then none
        else some (String.singleton (codePointChar (ds.foldl (fun n d => 10 * n + (d.toNat - 48)) 0)), after')
      | _ => none
  | c :: rest =>
    if isAsciiAlpha c then
      let (name, after) := takeUpTo isAsciiAlnum 31 (c :: rest)
      match after with
      | ';' :: after' => (entity? (String.ofList name)).map (·, after')
      | _ => none
    else none
  | [] => none

/-- Resolves backslash escapes of ASCII punctuation and character references. -/
def unescape (cs : List Char) : String :=
  go cs.length cs ""
where
  go : Nat → List Char → String → String
    | 0, _, acc => acc
    | _, [], acc => acc
    | n + 1, '\\' :: c :: rest, acc =>
      if Text.isAsciiPunctuation c then go n rest (acc.push c) else go n (c :: rest) (acc.push '\\')
    | n + 1, '&' :: rest, acc =>
      match scanEntity rest with
      | some (s, after) => go n after (acc ++ s)
      | none => go n rest (acc.push '&')
    | n + 1, c :: rest, acc => go n rest (acc.push c)

/-- Skips spaces and tabs, and at most one line ending among them. -/
def skipSpaceOneLine (cs : List Char) : List Char :=
  let cs := cs.dropWhile isSpaceOrTab
  match cs with
  | '\r' :: '\n' :: rest => rest.dropWhile isSpaceOrTab
  | '\n' :: rest => rest.dropWhile isSpaceOrTab
  | '\r' :: rest => rest.dropWhile isSpaceOrTab
  | _ => cs

/-- A link label after its `[`: up to 999 characters with no unescaped bracket, at least
one of them not blank, then `]`. Returns the raw label. -/
def scanLabel (cs : List Char) : Option (String × List Char) :=
  go 1000 cs []
where
  go : Nat → List Char → List Char → Option (String × List Char)
    | 0, _, _ => none
    | _, [], _ => none
    | _ + 1, ']' :: rest, acc =>
      let label := acc.reverse
      if label.all isSyntaxBlank then none else some (String.ofList label, rest)
    | _, '[' :: _, _ => none
    | n + 1, '\\' :: c :: rest, acc =>
      if c == '[' || c == ']' || c == '\\' then go n rest (c :: '\\' :: acc)
      else go n (c :: rest) ('\\' :: acc)
    | n + 1, c :: rest, acc => go n rest (c :: acc)

/-- A link destination: in angle brackets with no line ending or unescaped `<` or `>`,
or a non-empty run of characters other than blanks and controls whose unescaped
parentheses balance (at most 32 deep). Returns the destination with escapes resolved. -/
def scanDestination (cs : List Char) : Option (String × List Char) :=
  match cs with
  | '<' :: rest => angled rest.length rest []
  | _ => bare cs.length cs [] 0
where
  angled : Nat → List Char → List Char → Option (String × List Char)
    | 0, _, _ => none
    | _, [], _ => none
    | _ + 1, '>' :: rest, acc => some (unescape acc.reverse, rest)
    | _, '<' :: _, _ => none
    | n + 1, '\\' :: c :: rest, acc =>
      if Text.isAsciiPunctuation c then angled n rest (c :: '\\' :: acc) else angled n (c :: rest) ('\\' :: acc)
    | n + 1, c :: rest, acc => if isLineEnding c then none else angled n rest (c :: acc)
  bare : Nat → List Char → List Char → Nat → Option (String × List Char)
    | 0, cs, acc, depth => finish cs acc depth
    | _, [], acc, depth => finish [] acc depth
    | n + 1, '\\' :: c :: rest, acc, depth =>
      if Text.isAsciiPunctuation c then bare n rest (c :: '\\' :: acc) depth
      else bare n (c :: rest) ('\\' :: acc) depth
    | n + 1, '(' :: rest, acc, depth =>
      if depth ≥ 32 then none else bare n rest ('(' :: acc) (depth + 1)
    | n + 1, ')' :: rest, acc, depth =>
      if depth == 0 then finish (')' :: rest) acc depth else bare n rest (')' :: acc) (depth - 1)
    | n + 1, c :: rest, acc, depth =>
      if c.val ≤ 0x20 || c.val == 0x7F then finish (c :: rest) acc depth
      else bare n rest (c :: acc) depth
  finish (rest acc : List Char) (depth : Nat) : Option (String × List Char) :=
    if acc.isEmpty || depth != 0 then none else some (unescape acc.reverse, rest)

/-- A link title: in double quotes, single quotes or parentheses, with escapes; it may
span lines but not hold a blank line. Returns the title with escapes resolved. -/
def scanTitle (cs : List Char) : Option (String × List Char) :=
  match cs with
  | '"' :: rest => go '"' rest.length rest []
  | '\'' :: rest => go '\'' rest.length rest []
  | '(' :: rest => go ')' rest.length rest []
  | _ => none
where
  go (close : Char) : Nat → List Char → List Char → Option (String × List Char)
    | 0, _, _ => none
    | _, [], _ => none
    | n + 1, '\\' :: c :: rest, acc =>
      if Text.isAsciiPunctuation c then go close n rest (c :: '\\' :: acc)
      else go close n (c :: rest) ('\\' :: acc)
    | n + 1, c :: rest, acc =>
      if c == close then some (unescape acc.reverse, rest)
      else if close == ')' && c == '(' then none
      else if c == '\n' && (rest.dropWhile isSpaceOrTab).head? == some '\n' then none
      else go close n rest (c :: acc)

/-- A label as it is matched: case folded, its inner white space collapsed to one space,
and trimmed. -/
def normalizeLabel (s : String) : String :=
  let words := (s.toList.splitBy fun a b => isSyntaxBlank a == isSyntaxBlank b).filter
    fun w => !w.all isSyntaxBlank
  " ".intercalate (words.map fun w => String.ofList (w.flatMap Text.foldChar))

end DocBridge.Markdown
