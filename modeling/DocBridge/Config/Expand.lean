import DocBridge.Text.Blank
import DocBridge.Text.Punctuation
import DocBridge.Text.Escaped

/-!
# Expanding variables in a setting

A setting may name environment variables the way a shell does: `$NAME`, `${NAME}`, or
`${NAME:-default}` for a default used when the variable is unset or empty. `$$` stands for
one `$`, and a `$` before anything that cannot start a name stays as it is, as does `${`
with no closing brace.

A variable that is unset, with no default, makes the whole expansion fail; the caller
then keeps the setting as written.
-/

namespace DocBridge.Config

/-- A character of a variable name: a letter, a digit or an underscore. Above ASCII,
letters and digits are told apart from the rest by what they are not: white space,
punctuation, symbols, controls, format characters and attaching marks. -/
def isNameChar (c : Char) : Bool :=
  c.isAlphanum || c == '_' ||
    (c.val ≥ 0x80 && !Text.isBlank c && !Text.isPunctuation c && !Text.isEscapedInQuotes c)

/-- The position of a substring in a list of characters. -/
def findSub (pattern : List Char) : List Char → Option Nat
  | [] => if pattern.isEmpty then some 0 else none
  | c :: cs =>
    if pattern.isPrefixOf (c :: cs) then some 0 else (findSub pattern cs).map (· + 1)

/-- Expands the variables of a text, reading them with `lookup`; `fuel` bounds the steps,
each of which consumes at least one character. -/
def expandChars (lookup : String → Option String) : Nat → List Char → List Char → Option String
  | 0, _, acc => some (String.ofList acc.reverse)
  | _ + 1, [], acc => some (String.ofList acc.reverse)
  | fuel + 1, c :: cs, acc =>
    if c != '$' then expandChars lookup fuel cs (c :: acc)
    else
      match cs with
      | '{' :: body =>
        match body.findIdx? (· == '}') with
        | some close =>
          let inside := body.take close
          let rest := body.drop (close + 1)
          -- a default needs a name before it
          let (name, default) := match findSub [':', '-'] inside with
            | some i => if i == 0 then (inside, none) else (inside.take i, some (inside.drop (i + 2)))
            | none => (inside, none)
          match lookup (String.ofList name), default with
          | some v, _ =>
            if v.isEmpty then
              match default with
              | some d => expandChars lookup fuel rest (d.reverse ++ acc)
              | none => expandChars lookup fuel rest acc
            else expandChars lookup fuel rest (v.toList.reverse ++ acc)
          | none, some d => expandChars lookup fuel rest (d.reverse ++ acc)
          | none, none => none
        | none => expandChars lookup fuel body ('{' :: '$' :: acc)
      | d :: more =>
        if isNameChar d then
          let (name, rest) := (d :: more).span isNameChar
          match lookup (String.ofList name) with
          | some v => expandChars lookup fuel rest (v.toList.reverse ++ acc)
          | none => none
        else if d == '$' then expandChars lookup fuel more ('$' :: acc)
        else expandChars lookup fuel (d :: more) ('$' :: acc)
      | [] => some (String.ofList ('$' :: acc).reverse)

/-- A text with its variables expanded, or nothing when one is unset. -/
def expand (lookup : String → Option String) (s : String) : Option String :=
  expandChars lookup (s.length + 1) s.toList []

end DocBridge.Config
