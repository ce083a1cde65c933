import DocBridge.Toml.Value

/-!
# TOML scalars

Readers for the pieces of a TOML line: keys, strings, numbers, booleans and dates. Each
takes the characters from where the piece starts and returns what it read with the
characters after it, or nothing when the text is not such a piece.

* Strings come basic (`"..."`, with escapes), literal (`'...'`), and in a multi-line form
  of each (`"""..."""`, `'''...'''`), where a line ending right after the opening
  delimiter is dropped and, in the basic form, a backslash at the end of a line drops
  the blanks and line endings after it. No control character but the tab may appear.
* An integer is decimal with an optional sign and no leading zero, or hexadecimal, octal
  or binary after `0x`, `0o` or `0b`; underscores may stand between digits. It must fit
  in 64 bits, signed.
* A float has a fraction, an exponent or both, or is `inf` or `nan`, with an optional sign.
* A date-time is an RFC 3339 date, time, local date-time or offset date-time.
-/

namespace DocBridge.Toml

/-- A space or a tab. -/
def isBlank (c : Char) : Bool := c == ' ' || c == '\t'

/-- A character that may appear in a string or comment: a tab, or no control character. -/
def isTextChar (c : Char) : Bool := c == '\t' || (c.val ≥ 0x20 && c.val != 0x7f)

/-- A character of a bare key. -/
def isBareChar (c : Char) : Bool := c.isAlphanum || c == '_' || c == '-'

/-- A decimal digit's value. -/
def digitValue (c : Char) : Nat := c.toNat - '0'.toNat

/-- A hexadecimal digit's value, if it is one. -/
def hexValue (c : Char) : Option Nat :=
  if c.isDigit then some (digitValue c)
  else if 'a' ≤ c && c ≤ 'f' then some (c.toNat - 'a'.toNat + 10)
  else if 'A' ≤ c && c ≤ 'F' then some (c.toNat - 'A'.toNat + 10)
  else none

/-- The value of exactly `n` hexadecimal digits, and the rest. -/
def hexDigits : Nat → List Char → Nat → Option (Nat × List Char)
  | 0, cs, acc => some (acc, cs)
  | n + 1, c :: cs, acc => do hexDigits n cs (acc * 16 + (← hexValue c))
  | _ + 1, [], _ => none

/-- A character from its code point, when it is a Unicode scalar value. -/
def scalarChar (n : Nat) : Option Char :=
  if n < 0xd800 || (0xdfff < n && n < 0x110000) then some (Char.ofNat n) else none

/-- An escape after a backslash: the character and the rest. -/
def escape : List Char → Option (Char × List Char)
  | 'b' :: cs => some ('\x08', cs)
  | 't' :: cs => some ('\t', cs)
  | 'n' :: cs => some ('\n', cs)
  | 'f' :: cs => some ('\x0c', cs)
  | 'r' :: cs => some ('\r', cs)
  | '"' :: cs => some ('"', cs)
  | '\\' :: cs => some ('\\', cs)
  | 'u' :: cs => do
    let (n, rest) ← hexDigits 4 cs 0
    pure (← scalarChar n, rest)
  | 'U' :: cs => do
    let (n, rest) ← hexDigits 8 cs 0
    pure (← scalarChar n, rest)
  | _ => none

/-- A line ending: a line feed, or a carriage return and a line feed. -/
def lineEnding? : List Char → Option (List Char)
  | '\n' :: cs => some cs
  | '\r' :: '\n' :: cs => some cs
  | _ => none

/-- The rest of a basic string after its opening quote; `fuel` bounds the steps. -/
def basicString : Nat → List Char → List Char → Option (String × List Char)
  | 0, _, _ => none
  | _ + 1, [], _ => none
  | _ + 1, '"' :: cs, acc => some (String.ofList acc.reverse, cs)
  | fuel + 1, '\\' :: cs, acc => do
    let (c, rest) ← escape cs
    basicString fuel rest (c :: acc)
  | fuel + 1, c :: cs, acc => if isTextChar c then basicString fuel cs (c :: acc) else none

/-- The rest of a literal string after its opening quote. -/
def literalString : List Char → List Char → Option (String × List Char)
  | [], _ => none
  | '\'' :: cs, acc => some (String.ofList acc.reverse, cs)
  | c :: cs, acc => if isTextChar c then literalString cs (c :: acc) else none

/-- Drops blanks and line endings. -/
def dropBlankLines : List Char → List Char
  | c :: cs => if isBlank c || c == '\n' then dropBlankLines cs
    else if c == '\r' then match cs with
      | '\n' :: rest => dropBlankLines rest
      | _ => c :: cs
    else c :: cs
  | [] => []

/-- After a backslash in a multi-line basic string: blanks, then a line ending, drop all
blanks and line endings that follow. -/
def lineEndingBackslash (cs : List Char) : Option (List Char) :=
  match lineEnding? (cs.dropWhile isBlank) with
  | some _ => some (dropBlankLines cs)
  | none => none

/-- The closing delimiter of a multi-line string: a run of three to five quotes, the
first up to two of them part of the content. Returns those and the rest. -/
def closingQuotes (q : Char) (cs : List Char) : Option (List Char × List Char) :=
  let run := (cs.takeWhile (· == q)).length
  if 3 ≤ run && run ≤ 5 then some (List.replicate (run - 3) q, cs.drop run)
  else none

/-- The rest of a multi-line basic string, after its opening quotes and the line ending
that may follow them. `fuel` bounds the steps. -/
def multiBasic : Nat → List Char → List Char → Option (String × List Char)
  | 0, _, _ => none
  | _ + 1, [], _ => none
  | fuel + 1, c :: cs, acc =>
    if c == '"' then
      match closingQuotes '"' (c :: cs) with
      | some (extra, rest) => some (String.ofList (acc.reverse ++ extra), rest)
      | none =>
        -- one or two quotes, or more than five: the first is content
        if ((c :: cs).takeWhile (· == '"')).length > 5 then none
        else multiBasic fuel cs (c :: acc)
    else if c == '\\' then
      match lineEndingBackslash cs with
      | some rest => multiBasic fuel rest acc
      | none => do
        let (e, rest) ← escape cs
        multiBasic fuel rest (e :: acc)
    else if c == '\n' then multiBasic fuel cs ('\n' :: acc)
    else if c == '\r' then
      match cs with
      | '\n' :: rest => multiBasic fuel rest ('\n' :: '\r' :: acc)
      | _ => none
    else if isTextChar c then multiBasic fuel cs (c :: acc)
    else none

/-- The rest of a multi-line literal string, after its opening quotes and the line ending
that may follow them. -/
def multiLiteral : Nat → List Char → List Char → Option (String × List Char)
  | 0, _, _ => none
  | _ + 1, [], _ => none
  | fuel + 1, c :: cs, acc =>
    if c == '\'' then
      match closingQuotes '\'' (c :: cs) with
      | some (extra, rest) => some (String.ofList (acc.reverse ++ extra), rest)
      | none =>
        if ((c :: cs).takeWhile (· == '\'')).length > 5 then none
        else multiLiteral fuel cs (c :: acc)
    else if c == '\n' then multiLiteral fuel cs ('\n' :: acc)
    else if c == '\r' then
      match cs with
      | '\n' :: rest => multiLiteral fuel rest ('\n' :: '\r' :: acc)
      | _ => none
    else if isTextChar c then multiLiteral fuel cs (c :: acc)
    else none

/-- Drops the line ending right after a multi-line string's opening delimiter. -/
def dropFirstLineEnding (cs : List Char) : List Char := (lineEnding? cs).getD cs

/-- A string of any of the four forms. -/
def string (cs : List Char) : Option (String × List Char) :=
  match cs with
  | '"' :: '"' :: '"' :: rest => multiBasic (rest.length + 1) (dropFirstLineEnding rest) []
  | '"' :: rest => basicString (rest.length + 1) rest []
  | '\'' :: '\'' :: '\'' :: rest => multiLiteral (rest.length + 1) (dropFirstLineEnding rest) []
  | '\'' :: rest => literalString rest []
  | _ => none

/-- A single-line string, as keys use. -/
def keyString (cs : List Char) : Option (String × List Char) :=
  match cs with
  | '"' :: '"' :: '"' :: _ | '\'' :: '\'' :: '\'' :: _ => none
  | '"' :: rest => basicString (rest.length + 1) rest []
  | '\'' :: rest => literalString rest []
  | _ => none

/-- One part of a key: bare, or a single-line string. -/
def simpleKey (cs : List Char) : Option (String × List Char) :=
  match cs with
  | c :: _ =>
    if isBareChar c then
      let (bare, rest) := cs.span isBareChar
      some (String.ofList bare, rest)
    else keyString cs
  | [] => none

/-- A dotted key: parts separated by dots, with blanks allowed around each dot. -/
def key : Nat → List Char → Option (List String × List Char)
  | 0, _ => none
  | fuel + 1, cs => do
    let (k, rest) ← simpleKey cs
    match rest.dropWhile isBlank with
    | '.' :: more =>
      let (ks, rest') ← key fuel (more.dropWhile isBlank)
      pure (k :: ks, rest')
    | _ => pure ([k], rest)

/-! ## Numbers -/

/-- Digits with single underscores between them: the digits, if the text is that. -/
def separatedDigits (isDigit : Char → Bool) (cs : List Char) : Option (List Char) :=
  match cs with
  | [] => none
  | c :: _ =>
    if !isDigit c then none
    else if cs.getLast? == some '_' then none
    else
      let parts := cs.splitOn '_'
      if parts.all fun p => !p.isEmpty && p.all isDigit then some (parts.flatten) else none

/-- The value of digits in a base. -/
def digitsValue (base : Nat) (ds : List Char) : Nat :=
  ds.foldl (fun n c => n * base + ((hexValue c).getD 0)) 0

/-- The bounds of a 64-bit signed integer. -/
def fitsInt64 (n : Int) : Bool := -(Int.pow 2 63) ≤ n && n < Int.pow 2 63

/-- An integer, from the whole of a token. -/
def integer (cs : List Char) : Option Int :=
  let based (base : Nat) (ok : Char → Bool) (ds : List Char) : Option Int := do
    let digits ← separatedDigits ok ds
    let n : Int := digitsValue base digits
    if fitsInt64 n then some n else none
  match cs with
  | '0' :: 'x' :: ds => based 16 (fun c => (hexValue c).isSome) ds
  | '0' :: 'o' :: ds => based 8 (fun c => '0' ≤ c && c ≤ '7') ds
  | '0' :: 'b' :: ds => based 2 (fun c => c == '0' || c == '1') ds
  | _ =>
    let (negative, body) := match cs with
      | '+' :: ds => (false, ds)
      | '-' :: ds => (true, ds)
      | ds => (false, ds)
    match body with
    | ['0'] => some 0
    | '0' :: _ => none
    | _ => do
      let digits ← separatedDigits Char.isDigit body
      let n : Int := if negative then -(digitsValue 10 digits : Int) else digitsValue 10 digits
      if fitsInt64 n then some n else none

/-- A decimal integer part of a float: no leading zero but a lone one. -/
def floatIntegerPart (cs : List Char) : Bool :=
  let body := match cs with
    | '+' :: ds | '-' :: ds => ds
    | ds => ds
  match body with
  | ['0'] => true
  | '0' :: _ => false
  | _ => (separatedDigits Char.isDigit body).isSome

/-- An exponent after its `e`: an optional sign, then digits. -/
def exponentPart (cs : List Char) : Bool :=
  let body := match cs with
    | '+' :: ds | '-' :: ds => ds
    | ds => ds
  (separatedDigits Char.isDigit body).isSome

/-- Whether a whole token is a float. -/
def isFloat (cs : List Char) : Bool :=
  let body := match cs with
    | '+' :: ds | '-' :: ds => ds
    | ds => ds
  if body == "inf".toList || body == "nan".toList then true
  else
    let (mantissa, exponent) := cs.span fun c => c != 'e' && c != 'E'
    let (whole, fraction) := mantissa.span (· != '.')
    let wholeOk := floatIntegerPart whole
    let fractionOk := match fraction with
      | [] => true
      | _ :: ds => (separatedDigits Char.isDigit ds).isSome
    let exponentOk := match exponent with
      | [] => true
      | _ :: ds => exponentPart ds
    wholeOk && fractionOk && exponentOk && !(fraction.isEmpty && exponent.isEmpty)

/-! ## Dates and times -/

/-- Exactly `n` decimal digits: their value. -/
def fixedDigits (n : Nat) (cs : List Char) : Option (Nat × List Char) :=
  let ds := cs.take n
  if ds.length == n && ds.all Char.isDigit then some (digitValue10 ds, cs.drop n) else none
where
  /-- The value of decimal digits. -/
  digitValue10 (ds : List Char) : Nat := ds.foldl (fun n c => n * 10 + digitValue c) 0

/-- Whether a year is a leap year. -/
def isLeap (y : Nat) : Bool := y % 4 == 0 && (y % 100 != 0 || y % 400 == 0)

/-- The days in a month. -/
def daysIn (y m : Nat) : Nat :=
  if m == 2 then (if isLeap y then 29 else 28)
  else if m == 4 || m == 6 || m == 9 || m == 11 then 30 else 31

/-- A full date `YYYY-MM-DD`. -/
def fullDate (cs : List Char) : Option (List Char) := do
  let (y, r) ← fixedDigits 4 cs
  let r ← match r with
    | '-' :: r => some r
    | _ => none
  let (m, r) ← fixedDigits 2 r
  let r ← match r with
    | '-' :: r => some r
    | _ => none
  let (d, r) ← fixedDigits 2 r
  if 1 ≤ m && m ≤ 12 && 1 ≤ d && d ≤ daysIn y m then some r else none

/-- A time `HH:MM:SS` with an optional fraction of a second. -/
def partialTime (cs : List Char) : Option (List Char) := do
  let (h, r) ← fixedDigits 2 cs
  let r ← match r with
    | ':' :: r => some r
    | _ => none
  let (m, r) ← fixedDigits 2 r
  let r ← match r with
    | ':' :: r => some r
    | _ => none
  let (s, r) ← fixedDigits 2 r
  let r ← match r with
    | '.' :: r =>
      let (ds, rest) := r.span Char.isDigit
      if ds.isEmpty then none else some rest
    | r => some r
  if h ≤ 23 && m ≤ 59 && s ≤ 60 then some r else none

/-- A time offset: `Z` or a signed `HH:MM`. -/
def timeOffset (cs : List Char) : Option (List Char) :=
  match cs with
  | 'Z' :: r | 'z' :: r => some r
  | '+' :: r | '-' :: r => do
    let (h, r) ← fixedDigits 2 r
    let r ← match r with
      | ':' :: r => some r
      | _ => none
    let (m, r) ← fixedDigits 2 r
    if h ≤ 23 && m ≤ 59 then some r else none
  | _ => none

/-- Whether a whole token is a date, a time or a date-time. -/
def isDateTime (cs : List Char) : Bool :=
  match fullDate cs with
  | some [] => true
  | some (sep :: r) =>
    if sep == 'T' || sep == 't' || sep == ' ' then
      match partialTime r with
      | some [] => true
      | some rest => timeOffset rest == some []
      | none => false
    else false
  | none => partialTime cs == some []

/-- A character that may be part of a number or date token. -/
def isTokenChar (c : Char) : Bool :=
  c.isAlphanum || c == '_' || c == '+' || c == '-' || c == '.' || c == ':'

/-- The token of a number, boolean or date at the start of a value: the characters it may
hold, and, after a full date, a blank and the time that follows it. -/
def token (cs : List Char) : List Char × List Char :=
  let (tok, rest) := cs.span isTokenChar
  match fullDate tok, rest with
  | some [], ' ' :: more =>
    let (time, rest') := more.span isTokenChar
    if (partialTime time).isSome then (tok ++ ' ' :: time, rest') else (tok, rest)
  | _, _ => (tok, rest)

/-- A scalar value from its token. -/
def scalar (tok : List Char) : Option Value :=
  if tok == "true".toList then some (.boolean true)
  else if tok == "false".toList then some (.boolean false)
  else if isDateTime tok then some (.datetime (String.ofList tok))
  else match integer tok with
    | some n => some (.integer n)
    | none => if isFloat tok then some (.float (String.ofList tok)) else none

end DocBridge.Toml
