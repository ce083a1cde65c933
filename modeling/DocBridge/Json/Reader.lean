import DocBridge.Json.Value

/-!
# Reading JSON text

A cursor walks the characters of a JSON text and knows its line and its column, the
column counting the UTF-8 bytes read on the line. Every failure is a `JsonError`: a kind
of fault and the line and column where reading stopped.

The lexical pieces (blanks, strings, numbers, the words `true`, `false`, `null`) are
separate functions because a streaming decoder of a document uses them as well.
Numbers follow the rules of the common 64-bit reading: a non-negative integer that fits
64 bits is unsigned, a negative one that fits is signed, and everything else — a
fraction, an exponent, `-0`, or an integer too large — becomes a double, computed as the
significand times or divided by a power of ten. Digits beyond the 64-bit significand only
scale it.
-/

namespace DocBridge

/-- What went wrong while reading JSON text, or while decoding a value from it. -/
inductive JsonFault where
  | eofInList
  | eofInObject
  | eofInString
  | eofInValue
  | expectedColon
  | expectedListCommaOrEnd
  | expectedObjectCommaOrEnd
  | expectedIdent
  | expectedValue
  | invalidEscape
  | invalidNumber
  | numberOutOfRange
  | invalidCodePoint
  | controlCharacter
  | keyMustBeString
  | loneLeadingSurrogate
  | trailingComma
  | trailingCharacters
  | endOfHexEscape
  | recursionLimit
  /-- A fault of the decoded shape, with its own text. -/
  | message (text : String)
  deriving Repr, Inhabited

/-- The text of a fault. -/
def JsonFault.text : JsonFault → String
  | .eofInList => "EOF while parsing a list"
  | .eofInObject => "EOF while parsing an object"
  | .eofInString => "EOF while parsing a string"
  | .eofInValue => "EOF while parsing a value"
  | .expectedColon => "expected `:`"
  | .expectedListCommaOrEnd => "expected `,` or `]`"
  | .expectedObjectCommaOrEnd => "expected `,` or `\x7d`"
  | .expectedIdent => "expected ident"
  | .expectedValue => "expected value"
  | .invalidEscape => "invalid escape"
  | .invalidNumber => "invalid number"
  | .numberOutOfRange => "number out of range"
  | .invalidCodePoint => "invalid unicode code point"
  | .controlCharacter => "control character (\\u0000-\\u001F) found while parsing a string"
  | .keyMustBeString => "key must be a string"
  | .loneLeadingSurrogate => "lone leading surrogate in hex escape"
  | .trailingComma => "trailing comma"
  | .trailingCharacters => "trailing characters"
  | .endOfHexEscape => "unexpected end of hex escape"
  | .recursionLimit => "recursion limit exceeded"
  | .message t => t

/-- A fault and where it was found; line 0 means no place is known. -/
structure JsonError where
  fault : JsonFault
  line : Nat
  column : Nat
  deriving Repr, Inhabited

/-- The text of an error, with its place when it has one. -/
def JsonError.text (e : JsonError) : String :=
  if e.line == 0 then e.fault.text
  else e.fault.text ++ " at line " ++ toString e.line ++ " column " ++ toString e.column

/-- A place in JSON text: what is left to read, and the line and byte column read so far. -/
structure Cursor where
  rest : List Char
  line : Nat := 1
  column : Nat := 0
  deriving Inhabited

namespace Cursor

/-- A cursor at the start of a text. -/
def ofString (s : String) : Cursor := { rest := s.toList }

/-- The next character, if any. -/
def peek (c : Cursor) : Option Char := c.rest.head?

/-- Reads one character. -/
def bump (c : Cursor) : Cursor :=
  match c.rest with
  | [] => c
  | ch :: rest =>
    if ch == '\n' then { rest, line := c.line + 1, column := 0 }
    else { rest, line := c.line, column := c.column + ch.utf8Size }

/-- An error at the place read so far. -/
def fail (c : Cursor) (f : JsonFault) : JsonError := ⟨f, c.line, c.column⟩

/-- An error at the place just past the next byte. -/
def failPeek (c : Cursor) (f : JsonFault) : JsonError :=
  match c.rest with
  | [] => ⟨f, c.line, c.column⟩
  | '\n' :: _ => ⟨f, c.line + 1, 0⟩
  | _ :: _ => ⟨f, c.line, c.column + 1⟩

/-- A JSON blank: space, line feed, carriage return or tab. -/
def isBlank (ch : Char) : Bool := ch == ' ' || ch == '\n' || ch == '\r' || ch == '\t'

/-- Skips blanks. -/
def skipBlank (c : Cursor) : Cursor :=
  go c.rest.length c
where
  go : Nat → Cursor → Cursor
    | 0, c => c
    | n + 1, c =>
      match c.peek with
      | some ch => if isBlank ch then go n c.bump else c
      | none => c

/-- Skips blanks and returns the next character. -/
def peekValue (c : Cursor) : Cursor × Option Char :=
  let c := c.skipBlank
  (c, c.peek)

/-- Reads the remaining letters of a word such as `true`; the first was already read. -/
def expectWord (c : Cursor) : List Char → Except JsonError Cursor
  | [] => .ok c
  | w :: ws =>
    match c.rest with
    | [] => .error (c.fail .eofInValue)
    | ch :: _ => if ch == w then expectWord c.bump ws else .error (c.bump.fail .expectedIdent)

/-- The value of a hexadecimal digit. -/
def hexValue (ch : Char) : Option Nat :=
  if '0' ≤ ch && ch ≤ '9' then some (ch.toNat - 48)
  else if 'a' ≤ ch && ch ≤ 'f' then some (ch.toNat - 87)
  else if 'A' ≤ ch && ch ≤ 'F' then some (ch.toNat - 55)
  else none

/-- Reads four hexadecimal digits. -/
def hex4 (c : Cursor) : Except JsonError (Cursor × Nat) :=
  go 4 c 0
where
  go : Nat → Cursor → Nat → Except JsonError (Cursor × Nat)
    | 0, c, acc => .ok (c, acc)
    | n + 1, c, acc =>
      match c.rest with
      | [] => .error (c.fail .eofInString)
      | ch :: _ =>
        match hexValue ch with
        | some v => go n c.bump (acc * 16 + v)
        | none => .error (c.bump.fail .invalidEscape)

/-- Reads the rest of an escape after its backslash, appending the character it stands for. -/
def escape (c : Cursor) (acc : List Char) : Except JsonError (Cursor × List Char) :=
  match c.rest with
  | [] => .error (c.fail .eofInString)
  | ch :: _ =>
    let c := c.bump
    if ch == '"' then .ok (c, '"' :: acc)
    else if ch == '\\' then .ok (c, '\\' :: acc)
    else if ch == '/' then .ok (c, '/' :: acc)
    else if ch == 'b' then .ok (c, Char.ofNat 8 :: acc)
    else if ch == 'f' then .ok (c, Char.ofNat 12 :: acc)
    else if ch == 'n' then .ok (c, '\n' :: acc)
    else if ch == 'r' then .ok (c, '\r' :: acc)
    else if ch == 't' then .ok (c, '\t' :: acc)
    else if ch == 'u' then
      match hex4 c with
      | .error e => .error e
      | .ok (c, n) =>
        if 0xDC00 ≤ n && n < 0xE000 then .error (c.fail .loneLeadingSurrogate)
        else if 0xD800 ≤ n && n < 0xDC00 then
          match c.rest with
          | '\\' :: 'u' :: _ =>
            match hex4 c.bump.bump with
            | .error e => .error e
            | .ok (c, m) =>
              if 0xDC00 ≤ m && m < 0xE000 then
                .ok (c, Char.ofNat (0x10000 + (n - 0xD800) * 0x400 + (m - 0xDC00)) :: acc)
              else .error (c.fail .loneLeadingSurrogate)
          | _ :: _ => .error (c.fail .loneLeadingSurrogate)
          | [] => .error (c.fail .eofInString)
        else .ok (c, Char.ofNat n :: acc)
    else .error (c.fail .invalidEscape)

/-- Reads a string whose opening quote was already read. -/
def string (c : Cursor) : Except JsonError (Cursor × String) :=
  go c.rest.length c []
where
  go : Nat → Cursor → List Char → Except JsonError (Cursor × String)
    | 0, c, _ => .error (c.fail .eofInString)
    | n + 1, c, acc =>
      match c.rest with
      | [] => .error (c.fail .eofInString)
      | ch :: _ =>
        if ch == '"' then .ok (c.bump, String.ofList acc.reverse)
        else if ch == '\\' then
          match escape c.bump acc with
          | .ok (c, acc) => go n c acc
          | .error e => .error e
        else if ch.val < 0x20 then .error (c.bump.fail .controlCharacter)
        else go n c.bump (ch :: acc)

/-- The value of a decimal digit character. -/
def digitValue (ch : Char) : Option Nat :=
  if '0' ≤ ch && ch ≤ '9' then some (ch.toNat - 48) else none

/-- The largest unsigned 64-bit integer. -/
def u64Max : Nat := Nat.pow 2 64 - 1

/-- `10^k` as a double, for `k ≤ 308`. -/
def pow10 (k : Nat) : Float := Float.ofScientific 1 false k

/-- The double `significand · 10^exponent` as a product or quotient of the significand with
one power of ten, stepping by `1e308` below that; `none` when it overflows. -/
def floatOfParts (positive : Bool) (significand : Nat) (exponent : Int) : Option Float :=
  go 8 (Float.ofNat significand) exponent
where
  go : Nat → Float → Int → Option Float
    | 0, f, _ => some (if positive then f else -f)
    | n + 1, f, e =>
      if e.natAbs ≤ 308 then
        if e ≥ 0 then
          let g := f * pow10 e.toNat
          if g.isInf then none else some (if positive then g else -g)
        else
          let g := f / pow10 e.natAbs
          some (if positive then g else -g)
      else if f == 0 then some (if positive then f else -f)
      else if e ≥ 0 then none
      else go n (f / pow10 308) (e + 308)

/-- Reads digits while they fit: `(cursor, significand, digits dropped)`. -/
def digits (c : Cursor) (sig : Nat) (after : Bool) : Cursor × Nat × Int × Bool :=
  go c.rest.length c sig 0 false
where
  go : Nat → Cursor → Nat → Int → Bool → Cursor × Nat × Int × Bool
    | 0, c, sig, e, overflow => (c, sig, e, overflow)
    | n + 1, c, sig, e, overflow =>
      match c.peek.bind digitValue with
      | none => (c, sig, e, overflow)
      | some d =>
        if overflow || sig * 10 + d > u64Max then
          -- further digits scale an integer part, and are dropped after the point
          go n c.bump sig (if after then e else e + 1) true
        else go n c.bump (sig * 10 + d) (if after then e - 1 else e) overflow

/-- Reads an exponent after `e`, and builds the double. -/
def exponentPart (c : Cursor) (positive : Bool) (sig : Nat) (start : Int) :
    Except JsonError (Cursor × Float) :=
  let c := c.bump
  let (c, negExp) :=
    match c.peek with
    | some '+' => (c.bump, false)
    | some '-' => (c.bump, true)
    | _ => (c, false)
  match c.rest with
  | [] => .error (c.fail .eofInValue)
  | ch :: _ =>
    match digitValue ch with
    | none => .error (c.bump.fail .invalidNumber)
    | some d =>
      let (c', exp, overflow) := expDigits c.bump.rest.length c.bump d false
      if overflow then
        if sig != 0 && !negExp then .error (c'.fail .numberOutOfRange)
        else .ok (c', if positive then 0.0 else -0.0)
      else
        let e := if negExp then start - exp else start + exp
        match floatOfParts positive sig e with
        | some f => .ok (c', f)
        | none => .error (c'.fail .numberOutOfRange)
where
  /-- Exponent digits; `true` once the exponent passes the signed 32-bit range. -/
  expDigits : Nat → Cursor → Nat → Bool → Cursor × Nat × Bool
    | 0, c, e, overflow => (c, e, overflow)
    | n + 1, c, e, overflow =>
      match c.peek.bind digitValue with
      | none => (c, e, overflow)
      | some d =>
        if overflow || e * 10 + d > Nat.pow 2 31 - 1 then expDigits n c.bump e true
        else expDigits n c.bump (e * 10 + d) overflow

/-- Builds the double of a number without an exponent, or reads its exponent. -/
def finishFloat (c : Cursor) (positive : Bool) (sig : Nat) (e : Int) :
    Except JsonError (Cursor × Float) :=
  match c.peek with
  | some 'e' | some 'E' => exponentPart c positive sig e
  | _ =>
    match floatOfParts positive sig e with
    | some f => .ok (c, f)
    | none => .error (c.fail .numberOutOfRange)

/-- Reads a fraction after the point. -/
def fraction (c : Cursor) (positive : Bool) (sig : Nat) (e : Int) :
    Except JsonError (Cursor × Float) :=
  let c := c.bump
  match c.peek.bind digitValue with
  | none =>
    match c.rest with
    | [] => .error (c.failPeek .eofInValue)
    | _ => .error (c.failPeek .invalidNumber)
  | some _ =>
    let (c, sig, e2, _) := digits c sig true
    finishFloat c positive sig (e + e2)

/-- Reads a number whose sign, if any, was already read. -/
def number (c : Cursor) (positive : Bool) : Except JsonError (Cursor × JsonNumber) :=
  match c.rest with
  | [] => .error (c.fail .invalidNumber)
  | ch :: _ =>
    let c := c.bump
    match digitValue ch with
    | none => .error (c.fail .invalidNumber)
    | some d =>
      let (c, sig, e, overflow) :=
        if d == 0 then (c, 0, (0 : Int), false) else digits c d false
      if d == 0 && (c.peek.bind digitValue).isSome then .error (c.failPeek .invalidNumber)
      else
        let asFloat (r : Except JsonError (Cursor × Float)) :
            Except JsonError (Cursor × JsonNumber) :=
          r.map fun (c, f) => (c, .float f)
        match c.peek with
        | some '.' => asFloat (fraction c positive sig e)
        | some 'e' | some 'E' => asFloat (exponentPart c positive sig e)
        | _ =>
          if overflow then asFloat (finishFloat c positive sig e)
          else if positive then .ok (c, .unsigned sig)
          else if sig == 0 || sig > Nat.pow 2 63 then
            .ok (c, .float (if sig == 0 then -0.0 else -(Float.ofNat sig)))
          else .ok (c, .signed (-(sig : Int)))

end Cursor

/-- The deepest nesting of arrays and objects a reader accepts. -/
def maxDepth : Nat := 127

namespace Json

mutual

/-- Reads one value after blanks; `depth` is the nesting still allowed. -/
def readValue : Nat → Nat → Cursor → Except JsonError (Cursor × Json)
  | 0, _, c => .error (c.fail .eofInValue)
  | fuel + 1, depth, c =>
    let (c, next) := c.peekValue
    match next with
    | none => .error (c.failPeek .eofInValue)
    | some 'n' => (c.bump.expectWord "ull".toList).map (·, .null)
    | some 't' => (c.bump.expectWord "rue".toList).map (·, .bool true)
    | some 'f' => (c.bump.expectWord "alse".toList).map (·, .bool false)
    | some '"' => (c.bump.string).map fun (c, s) => (c, .string s)
    | some '-' => (c.bump.number false).map fun (c, n) => (c, .number n)
    | some '[' =>
      match depth with
      | 0 => .error (c.failPeek .recursionLimit)
      | depth + 1 =>
        let c := c.bump
        match c.peekValue with
        | (c, some ']') => .ok (c.bump, .array [])
        | (c, _) => readItems fuel depth c []
    | some '{' =>
      match depth with
      | 0 => .error (c.failPeek .recursionLimit)
      | depth + 1 =>
        let c := c.bump
        match c.peekValue with
        | (c, some '}') => .ok (c.bump, .object [])
        | (c, _) => readMembers fuel depth c []
    | some ch =>
      if ('0' ≤ ch && ch ≤ '9') then (c.number true).map fun (c, n) => (c, .number n)
      else .error (c.failPeek .expectedValue)

/-- Reads array items from the first one on, and the closing bracket. -/
def readItems : Nat → Nat → Cursor → List Json → Except JsonError (Cursor × Json)
  | 0, _, c, _ => .error (c.fail .eofInList)
  | fuel + 1, depth, c, acc =>
    match readValue fuel depth c with
    | .error e => .error e
    | .ok (c, v) =>
      match c.peekValue with
      | (c, some ',') =>
        match c.bump.peekValue with
        | (c, some ']') => .error (c.failPeek .trailingComma)
        | (c, _) => readItems fuel depth c (v :: acc)
      | (c, some ']') => .ok (c.bump, .array (v :: acc).reverse)
      | (c, some _) => .error (c.failPeek .expectedListCommaOrEnd)
      | (c, none) => .error (c.failPeek .eofInList)

/-- Reads object members from the first one on, and the closing brace. -/
def readMembers : Nat → Nat → Cursor → List (String × Json) → Except JsonError (Cursor × Json)
  | 0, _, c, _ => .error (c.fail .eofInObject)
  | fuel + 1, depth, c, acc =>
    match c.peekValue with
    | (c, some '"') =>
      match c.bump.string with
      | .error e => .error e
      | .ok (c, key) =>
        match c.peekValue with
        | (c, some ':') =>
          match readValue fuel depth c.bump with
          | .error e => .error e
          | .ok (c, v) =>
            match c.peekValue with
            | (c, some ',') =>
              match c.bump.peekValue with
              | (c, some '}') => .error (c.failPeek .trailingComma)
              | (c, _) => readMembers fuel depth c ((key, v) :: acc)
            | (c, some '}') => .ok (c.bump, .object ((key, v) :: acc).reverse)
            | (c, some _) => .error (c.failPeek .expectedObjectCommaOrEnd)
            | (c, none) => .error (c.failPeek .eofInObject)
        | (c, some _) => .error (c.failPeek .expectedColon)
        | (c, none) => .error (c.failPeek .eofInObject)
    | (c, some _) => .error (c.failPeek .keyMustBeString)
    | (c, none) => .error (c.failPeek .eofInValue)

end

/-- Reads the value at the start of a JSON text, and the cursor after it. -/
def parseFirst (s : String) : Except JsonError (Json × Cursor) :=
  let c := Cursor.ofString s
  (readValue (2 * c.rest.length + 2) maxDepth c).map fun (c, v) => (v, c)

/-- The error for what follows the value of a JSON text, if anything but blanks does. -/
def trailing (c : Cursor) : Option JsonError :=
  match c.peekValue with
  | (_, none) => none
  | (c, some _) => some (c.failPeek .trailingCharacters)

/-- Reads a whole JSON text: one value and nothing after it but blanks. -/
def parse (s : String) : Except JsonError Json :=
  match parseFirst s with
  | .error e => .error e
  | .ok (v, c) =>
    match trailing c with
    | none => .ok v
    | some e => .error e

end Json

end DocBridge
