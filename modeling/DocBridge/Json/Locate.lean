import DocBridge.Json.Reader

/-!
# Where a value stands in a JSON text

Reading a value from JSON text reports an error about a value at a line and a column:
before the value, after it, after the key of the member that holds it, or just past its
first character. `Json.locate` finds that place for the value at a path of element and
member indices, in a text known to be valid JSON.

A column counts the bytes read on the line, so a place before the first character of a
line is column 0.
-/

namespace DocBridge

namespace Json

/-- Where at a value a place is wanted. -/
inductive Place where
  | before
  | after
  /-- After the key of the member, and the blanks after it. -/
  | afterKey
  /-- After the value and what a list reads next: blanks, then its closing bracket, or a
  comma and the blanks after it. -/
  | afterElement
  /-- Just past the value's first character. -/
  | firstChar
  deriving Repr, Inhabited, DecidableEq

/-- Moves past one value, starting after any blanks before it. -/
def skipValue (c : Cursor) : Cursor :=
  match readValue (2 * c.rest.length + 2) (maxDepth + 1) c with
  | .ok (c', _) => c'
  | .error _ => c

/-- Moves past `n` elements of an array and the commas after them. -/
def skipElements : Nat → Cursor → Cursor
  | 0, c => c.skipBlank
  | n + 1, c =>
    let c := (skipValue c).skipBlank
    match c.peek with
    | some ',' => skipElements n c.bump
    | _ => c

/-- Moves past a member's key and its colon, to the blanks before its value; also returns
the place right after the key and the blanks that follow it. -/
def skipKey (c : Cursor) : Cursor × Cursor :=
  let c := c.skipBlank
  let afterKey := match c.bump.string with
    | .ok (c', _) => c'.skipBlank
    | .error _ => c
  match afterKey.peek with
  | some ':' => (afterKey.bump, afterKey)
  | _ => (afterKey, afterKey)

/-- Moves past `n` members of an object and the commas after them. -/
def skipMembers : Nat → Cursor → Cursor
  | 0, c => c.skipBlank
  | n + 1, c =>
    let c := (skipValue (skipKey c).1).skipBlank
    match c.peek with
    | some ',' => skipMembers n c.bump
    | _ => c

/-- Moves to the start of the value at a path (outermost index first), and, when the last
step enters an object member, the place after that member's key. -/
def descend : List Nat → Cursor → Cursor → Cursor × Cursor
  | [], c, key => (c.skipBlank, key)
  | i :: is, c, key =>
    let c := c.skipBlank
    match c.peek with
    | some '[' => descend is (skipElements i c.bump) key
    | some '{' =>
      let (value, afterKey) := skipKey (skipMembers i c.bump)
      descend is value afterKey
    | _ => (c, key)

/-- The line and column of a place at the value at a path, in a JSON text. -/
def locate (text : String) (path : List Nat) (place : Place) : Nat × Nat :=
  let start := Cursor.ofString text
  let (c, key) := descend path start start
  let pos (c : Cursor) : Nat × Nat := (c.line, c.column)
  match place with
  | .before => pos c
  | .after => pos (skipValue c)
  | .afterKey => pos key
  | .afterElement =>
    let c := (skipValue c).skipBlank
    match c.peek with
    | some ']' => pos c.bump
    | some ',' => pos c.bump.skipBlank
    | _ => pos c
  | .firstChar =>
    match c.rest with
    | '\n' :: _ => (c.line + 1, 0)
    | _ :: _ => (c.line, c.column + 1)
    | [] => pos c

end Json

end DocBridge
