import DocBridge.Markdown.Scan

/-!
# A line of Markdown being read

Block structure is decided line by line, and inside a line by columns: a tab moves to
the next multiple of four. A `LineCursor` is a line with a read position given both as
a character offset and as a column. A tab may be consumed in part, when a container's
indentation ends inside it; the part left over is then read as spaces.

`LineCursor.scanBlank` looks ahead over spaces and tabs and records where the next
other character is, how far it is indented from the read position, and whether the
line is blank from there on.
-/

namespace DocBridge.Markdown

/-- A line with a read position. -/
structure LineCursor where
  chars : Array Char
  /-- The line ended with a line ending (the last line of a text may not). -/
  hasEnding : Bool
  offset : Nat := 0
  column : Nat := 0
  /-- The tab at `offset` was consumed in part. -/
  partialTab : Bool := false
  nextNonspace : Nat := 0
  nextNonspaceColumn : Nat := 0
  indent : Nat := 0
  blank : Bool := false
  deriving Inhabited

namespace LineCursor

/-- Indentation of four columns or more makes code. -/
def codeIndent : Nat := 4

/-- A line at its start. -/
def ofLine (chars : Array Char) (hasEnding : Bool) : LineCursor := { chars, hasEnding }

/-- The character at a position. -/
def at? (l : LineCursor) (i : Nat) : Option Char := l.chars[i]?

/-- The characters from a position to the end of the line. -/
def suffix (l : LineCursor) (i : Nat) : List Char := (l.chars.extract i l.chars.size).toList

/-- Looks ahead over spaces and tabs from the read position. -/
def scanBlank (l : LineCursor) : LineCursor :=
  go l.chars.size l.offset l.column
where
  go : Nat → Nat → Nat → LineCursor
    | fuel + 1, i, col =>
      match l.chars[i]? with
      | some ' ' => go fuel (i + 1) (col + 1)
      | some '\t' => go fuel (i + 1) (col + (4 - col % 4))
      | some _ => finish i col false
      | none => finish i col true
    | 0, i, col => finish i col (l.chars[i]?).isNone
  finish (i col : Nat) (blank : Bool) : LineCursor :=
    { l with nextNonspace := i, nextNonspaceColumn := col, indent := col - l.column, blank }

/-- The look-ahead found indentation of four columns or more. -/
def indented (l : LineCursor) : Bool := l.indent ≥ codeIndent

/-- Moves the read position to the next character that is not a space or tab. -/
def skipToNonspace (l : LineCursor) : LineCursor :=
  { l with offset := l.nextNonspace, column := l.nextNonspaceColumn, partialTab := false }

/-- Moves the read position by `count` characters, or by `count` columns when `columns`
is set, in which case a tab may be consumed in part. -/
def advance (l : LineCursor) (count : Nat) (columns : Bool) : LineCursor :=
  go count count l
where
  /-- Each step consumes at least one of `count`, so `count` steps suffice. -/
  go : Nat → Nat → LineCursor → LineCursor
    | 0, _, l => l
    | _, 0, l => l
    | fuel + 1, count, l =>
      match l.chars[l.offset]? with
      | none => l
      | some '\t' =>
        let toTab := 4 - l.column % 4
        if columns then
          let partialTab := toTab > count
          let step := if partialTab then count else toTab
          let offset := if partialTab then l.offset else l.offset + 1
          go fuel (count - step) { l with partialTab := partialTab, column := l.column + step, offset := offset }
        else
          let next := { l with partialTab := false, column := l.column + toTab, offset := l.offset + 1 }
          go fuel (count - 1) next
      | some _ =>
        go fuel (count - 1) { l with partialTab := false, offset := l.offset + 1, column := l.column + 1 }

/-- Moves the read position to the end of the line. -/
def toEnd (l : LineCursor) : LineCursor :=
  { l with offset := l.chars.size, partialTab := false }

/-- The text from the read position on, a tab consumed in part given as the spaces left of
it. -/
def rest (l : LineCursor) : String :=
  if l.partialTab then
    String.ofList (List.replicate (4 - l.column % 4) ' ') ++ String.ofList (l.suffix (l.offset + 1))
  else String.ofList (l.suffix l.offset)

end LineCursor

/-- A text cut into lines, each with whether a line ending closed it. A line ending is a
line feed, a carriage return, or both in that order; a character NUL becomes the
replacement character. -/
def splitLines (s : String) : List (Array Char × Bool) :=
  go s.length s.toList #[] []
where
  go : Nat → List Char → Array Char → List (Array Char × Bool) → List (Array Char × Bool)
    | 0, _, cur, acc => (if cur.isEmpty then acc else (cur, false) :: acc).reverse
    | _, [], cur, acc => (if cur.isEmpty then acc else (cur, false) :: acc).reverse
    | n + 1, '\r' :: '\n' :: rest, cur, acc => go n rest #[] ((cur, true) :: acc)
    | n + 1, '\r' :: rest, cur, acc => go n rest #[] ((cur, true) :: acc)
    | n + 1, '\n' :: rest, cur, acc => go n rest #[] ((cur, true) :: acc)
    | n + 1, c :: rest, cur, acc =>
      go n rest (cur.push (if c.val == 0 then Char.ofNat 0xFFFD else c)) acc

end DocBridge.Markdown
