import DocBridge.Toml.Scalar

/-!
# Reading a TOML document

A document is read line by line. A line is empty, a comment, a table header (`[a.b]`
or `[[a.b]]`) or a key with its value (`a.b = value`), each optionally followed by a
comment. Values are scalars, arrays (which may span lines and hold comments, and may end
in a comma) and inline tables (on one line, without a trailing comma).

Keys go into the table of the last header. A key that already has a value, a table
defined twice, and a header or key that reaches into a value or an inline table make the
document invalid (see `Toml.Value`).
-/

namespace DocBridge.Toml

/-- A comment after its `#`, up to the line ending: the text from the line ending on. -/
def comment (cs : List Char) : Option (List Char) :=
  let (body, rest) := cs.span fun c => c != '\n' && c != '\r'
  if body.all isTextChar then some rest else none

/-- The end of a line: blanks, an optional comment, then a line ending or the end of the
text. Returns the text of the next line. -/
def endOfLine (cs : List Char) : Option (List Char) := do
  let cs := cs.dropWhile isBlank
  let cs ← match cs with
    | '#' :: r => comment r
    | _ => some cs
  match cs with
  | [] => some []
  | _ => lineEnding? cs

/-- Blanks, comments and line endings, as may stand between the elements of an array. -/
def arraySpace : Nat → List Char → Option (List Char)
  | 0, cs => some cs
  | fuel + 1, cs =>
    let cs := cs.dropWhile isBlank
    match cs with
    | '#' :: r => do
      let r ← comment r
      match r with
      | [] => some []
      | _ => arraySpace fuel (← lineEnding? r)
    | '\n' :: _ | '\r' :: _ => do arraySpace fuel (← lineEnding? cs)
    | _ => some cs

/-- The result of `Except` as an option. -/
def ok : Except Unit α → Option α
  | .ok a => some a
  | .error _ => none

mutual

/-- A value; `fuel` bounds the nesting and the steps. -/
def value : Nat → List Char → Option (Value × List Char)
  | 0, _ => none
  | fuel + 1, cs =>
    match cs with
    | '"' :: _ | '\'' :: _ => (string cs).map fun (s, r) => (.string s, r)
    | '[' :: rest => array fuel rest []
    | '{' :: rest => inlineTable fuel rest [] true
    | _ =>
      let (tok, rest) := token cs
      if tok.isEmpty then none else (scalar tok).map fun v => (v, rest)

/-- The rest of an array after its `[` and the elements read so far. -/
def array : Nat → List Char → List Value → Option (Value × List Char)
  | 0, _, _ => none
  | fuel + 1, cs, acc => do
    let cs ← arraySpace (cs.length + 1) cs
    match cs with
    | ']' :: rest => some (.array acc.reverse, rest)
    | _ =>
      let (v, rest) ← value fuel cs
      let rest ← arraySpace (rest.length + 1) rest
      match rest with
      | ',' :: rest' => array fuel rest' (v :: acc)
      | ']' :: rest' => some (.array (v :: acc).reverse, rest')
      | _ => none

/-- The rest of an inline table after its `{` and the members read so far; `first` says
no member has been read. -/
def inlineTable : Nat → List Char → Entries → Bool → Option (Value × List Char)
  | 0, _, _, _ => none
  | fuel + 1, cs, entries, first => do
    let cs := cs.dropWhile isBlank
    match first, cs with
    | true, '}' :: rest => some (.table .inline [], rest)
    | _, _ =>
      let (k, r) ← key (cs.length + 1) cs
      let r ← match r.dropWhile isBlank with
        | '=' :: r => some (r.dropWhile isBlank)
        | _ => none
      let (v, r) ← value fuel r
      let entries ← ok (setDotted k v entries)
      match r.dropWhile isBlank with
      | ',' :: r' => inlineTable fuel r' entries false
      | '}' :: r' => some (.table .inline entries, r')
      | _ => none

end

/-- The tables read so far and the path of the last header. -/
structure Reader where
  root : Entries := []
  current : List String := []
  deriving Inhabited

/-- Reads one line; returns the text of the next. -/
def Reader.line (st : Reader) (cs : List Char) : Option (Reader × List Char) := do
  let cs := cs.dropWhile isBlank
  match cs with
  | [] => some (st, [])
  | '#' :: _ | '\n' :: _ | '\r' :: _ => pure (st, ← endOfLine cs)
  | '[' :: '[' :: rest =>
    let (k, r) ← key (rest.length + 1) (rest.dropWhile isBlank)
    match r.dropWhile isBlank with
    | ']' :: ']' :: r' =>
      let root ← ok (appendTable k st.root)
      pure ({ root, current := k }, ← endOfLine r')
    | _ => none
  | '[' :: rest =>
    let (k, r) ← key (rest.length + 1) (rest.dropWhile isBlank)
    match r.dropWhile isBlank with
    | ']' :: r' =>
      let root ← ok (defineTable k st.root)
      pure ({ root, current := k }, ← endOfLine r')
    | _ => none
  | _ =>
    let (k, r) ← key (cs.length + 1) cs
    let r ← match r.dropWhile isBlank with
      | '=' :: r => some (r.dropWhile isBlank)
      | _ => none
    let (v, r) ← value (r.length + 1) r
    let root ← ok (setKey st.current k v st.root)
    pure ({ st with root }, ← endOfLine r)

/-- Reads lines until the end of the text; each line takes at least one character. -/
def Reader.run : Nat → Reader → List Char → Option Reader
  | 0, _, _ => none
  | fuel + 1, st, cs =>
    match cs with
    | [] => some st
    | _ => do
      let (st', rest) ← st.line cs
      if rest.length < cs.length then Reader.run fuel st' rest else none

/-- The root table of a TOML document, or nothing when it is not valid TOML. A byte order
mark at the start is skipped. -/
def parse (s : String) : Option Entries :=
  let cs := match s.toList with
    | '\uFEFF' :: rest => rest
    | cs => cs
  (Reader.run (cs.length + 1) {} cs).map (·.root)

end DocBridge.Toml
