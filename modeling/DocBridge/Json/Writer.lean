import DocBridge.Json.Value

/-!
# Writing JSON

Two layouts of one value: `Json.compact` writes no blank at all, and `Json.pretty` puts
every member and item on its own line, indented by two spaces per level, with a blank
after each colon and `[]` or `{}` for an empty container.

A string escapes the quote, the backslash and the control characters below U+0020:
backspace, tab, line feed, form feed and carriage return by their short forms, the others
as `\u00XX` with lower-case hexadecimal digits. Every other character is written as
itself. Integers are written in full and doubles in the float layout of
`Decimal.toFloatText`.
-/

namespace DocBridge

namespace Json

/-- A lower-case hexadecimal digit. -/
def hexDigit (n : Nat) : Char :=
  if n < 10 then Char.ofNat (48 + n) else Char.ofNat (87 + n)

/-- The escaped form of one character inside a string. -/
def escapeChar (c : Char) : String :=
  if c == '"' then "\\\""
  else if c == '\\' then "\\\\"
  else if c == '\n' then "\\n"
  else if c == '\t' then "\\t"
  else if c == '\r' then "\\r"
  else if c.val == 8 then "\\b"
  else if c.val == 12 then "\\f"
  else if c.val < 0x20 then
    "\\u00" ++ String.singleton (hexDigit (c.val.toNat / 16)) ++
      String.singleton (hexDigit (c.val.toNat % 16))
  else String.singleton c

/-- A string in quotes, escaped. -/
def quote (s : String) : String :=
  "\"" ++ String.join (s.toList.map escapeChar) ++ "\""

/-- The text of a number. -/
def numberText : JsonNumber → String
  | .unsigned n => toString n
  | .signed n => toString n
  | .float f => (Decimal.ofFloat f).toFloatText

mutual

/-- The value on one line with no blanks. -/
def compact : Json → String
  | .null => "null"
  | .bool b => if b then "true" else "false"
  | .number n => numberText n
  | .string s => quote s
  | .array items => "[" ++ compactItems items ++ "]"
  | .object members => "\x7b" ++ compactMembers members ++ "\x7d"

/-- Items separated by commas. -/
def compactItems : List Json → String
  | [] => ""
  | [j] => compact j
  | j :: js => compact j ++ "," ++ compactItems js

/-- Members separated by commas. -/
def compactMembers : List (String × Json) → String
  | [] => ""
  | [(k, v)] => quote k ++ ":" ++ compact v
  | (k, v) :: ms => quote k ++ ":" ++ compact v ++ "," ++ compactMembers ms

end

/-- Two spaces per level. -/
def indent (level : Nat) : String := String.ofList (List.replicate (2 * level) ' ')

mutual

/-- The value laid out over lines, its nested lines indented from `level`. -/
def prettyAt (level : Nat) : Json → String
  | .array [] => "[]"
  | .object [] => "\x7b\x7d"
  | .array items => "[\n" ++ prettyItems (level + 1) items ++ "\n" ++ indent level ++ "]"
  | .object members =>
    "\x7b\n" ++ prettyMembers (level + 1) members ++ "\n" ++ indent level ++ "\x7d"
  | j => compact j

/-- Items one per line at `level`. -/
def prettyItems (level : Nat) : List Json → String
  | [] => ""
  | [j] => indent level ++ prettyAt level j
  | j :: js => indent level ++ prettyAt level j ++ ",\n" ++ prettyItems level js

/-- Members one per line at `level`. -/
def prettyMembers (level : Nat) : List (String × Json) → String
  | [] => ""
  | [(k, v)] => indent level ++ quote k ++ ": " ++ prettyAt level v
  | (k, v) :: ms => indent level ++ quote k ++ ": " ++ prettyAt level v ++ ",\n" ++
      prettyMembers level ms

end

/-- The value laid out over lines with two-space indentation. -/
def pretty (j : Json) : String := prettyAt 0 j

end Json

end DocBridge
