import DocBridge.Markdown.Scan

/-!
# HTML in Markdown

Markdown passes HTML through, and this library drops it, so only its extent matters:
where an HTML block starts and ends, and how far a piece of inline HTML reaches. The
grammar is the one of CommonMark: tags with attributes, closing tags, comments,
processing instructions, declarations and CDATA sections.
-/

namespace DocBridge.Markdown

/-- Lower-cases ASCII letters. -/
def lowerAscii (cs : List Char) : List Char := cs.map Char.toLower

/-- `cs` starts with `p`, ignoring the case of ASCII letters. -/
def startsWithCI (cs p : List Char) : Bool :=
  (lowerAscii (cs.take p.length)) == lowerAscii p

/-- `cs` contains `p`, ignoring the case of ASCII letters. -/
def containsCI (cs p : List Char) : Bool :=
  go cs.length cs
where
  go : Nat → List Char → Bool
    | 0, _ => p.isEmpty
    | n + 1, cs => startsWithCI cs p || match cs with
      | [] => false
      | _ :: rest => go n rest

/-- `cs` contains `p`. -/
def containsSub (cs p : List Char) : Bool :=
  go cs.length cs
where
  go : Nat → List Char → Bool
    | 0, _ => p.isEmpty
    | n + 1, cs => cs.take p.length == p || match cs with
      | [] => false
      | _ :: rest => go n rest

/-- The tag names that start an HTML block of the sixth kind. -/
def blockTagNames : List String :=
  ["address", "article", "aside", "base", "basefont", "blockquote", "body", "caption",
   "center", "col", "colgroup", "dd", "details", "dialog", "dir", "div", "dl", "dt",
   "fieldset", "figcaption", "figure", "footer", "form", "frame", "frameset", "h1", "h2",
   "h3", "h4", "h5", "h6", "head", "header", "hr", "html", "iframe", "legend", "li", "link",
   "main", "menu", "menuitem", "nav", "noframes", "ol", "optgroup", "option", "p", "param",
   "search", "section", "summary", "table", "tbody", "td", "tfoot", "th", "thead", "title",
   "tr", "track", "ul"]

/-- Skips blanks in a tag, with at most one line ending among them; `none` when nothing
was skipped. -/
def tagBlank (cs : List Char) : Option (List Char) :=
  let rest := skipSpaceOneLine cs
  if rest.length < cs.length then some rest else none

/-- A tag name: an ASCII letter, then letters, digits and hyphens. -/
def scanTagName (cs : List Char) : Option (List Char × List Char) :=
  match cs with
  | c :: rest =>
    if isAsciiAlpha c then
      let (name, after) := rest.span fun d => isAsciiAlnum d || d == '-'
      some (c :: name, after)
    else none
  | [] => none

/-- An attribute value: unquoted, or in single or double quotes. -/
def scanAttrValue (cs : List Char) : Option (List Char) :=
  match cs with
  | '"' :: rest =>
    match rest.dropWhile (· != '"') with
    | '"' :: after => some after
    | _ => none
  | '\'' :: rest =>
    match rest.dropWhile (· != '\'') with
    | '\'' :: after => some after
    | _ => none
  | _ =>
    let (v, after) := cs.span fun c =>
      !(isSyntaxBlank c || c == '"' || c == '\'' || c == '=' || c == '<' || c == '>' || c == '`')
    if v.isEmpty then none else some after

/-- Attributes, each after blanks, with an optional value. -/
def scanAttributes (cs : List Char) : List Char :=
  go cs.length cs
where
  go : Nat → List Char → List Char
    | 0, cs => cs
    | n + 1, cs =>
      match tagBlank cs with
      | none => cs
      | some afterBlank =>
        match afterBlank with
        | c :: rest =>
          if isAsciiAlpha c || c == '_' || c == ':' then
            let rest := rest.dropWhile fun d => isAsciiAlnum d || d == '_' || d == '.' || d == ':' || d == '-'
            let withValue :=
              let r := (tagBlank rest).getD rest
              match r with
              | '=' :: r' =>
                let r' := (tagBlank r').getD r'
                scanAttrValue r'
              | _ => none
            match withValue with
            | some after => go n after
            | none => go n rest
          else cs
        | [] => cs

/-- An open tag after its `<`. -/
def scanOpenTag (cs : List Char) : Option (List Char) := do
  let (_, rest) ← scanTagName cs
  let rest := scanAttributes rest
  let rest := (tagBlank rest).getD rest
  match rest with
  | '/' :: '>' :: after => some after
  | '>' :: after => some after
  | _ => none

/-- A closing tag after its `</`. -/
def scanClosingTag (cs : List Char) : Option (List Char) := do
  let (_, rest) ← scanTagName cs
  let rest := (tagBlank rest).getD rest
  match rest with
  | '>' :: after => some after
  | _ => none

/-- Skips to just after the first occurrence of `p`. -/
def skipPast (p : List Char) (cs : List Char) : Option (List Char) :=
  go cs.length cs
where
  go : Nat → List Char → Option (List Char)
    | 0, _ => none
    | n + 1, cs =>
      if cs.take p.length == p then some (cs.drop p.length)
      else match cs with
        | [] => none
        | _ :: rest => go n rest

/-- A piece of inline HTML after its `<`: the characters after it. -/
def scanInlineHtml (cs : List Char) : Option (List Char) :=
  match cs with
  | '/' :: rest => scanClosingTag rest
  | '!' :: '-' :: '-' :: rest =>
    match rest with
    | '>' :: after => some after
    | '-' :: '>' :: after => some after
    | _ => skipPast "-->".toList rest
  | '!' :: '[' :: 'C' :: 'D' :: 'A' :: 'T' :: 'A' :: '[' :: rest => skipPast "]]>".toList rest
  | '!' :: c :: rest => if isAsciiAlpha c then skipPast ">".toList rest else none
  | '?' :: rest => skipPast "?>".toList rest
  | _ => scanOpenTag cs

/-- The kind (1 to 7) of HTML block a line starts, given the line from its `<` on.
Kind 7 cannot interrupt a paragraph, so `inParagraph` rules it out. -/
def htmlBlockStart (line : List Char) (inParagraph : Bool) : Option Nat :=
  match line with
  | '<' :: rest =>
    let endsName (after : List Char) : Bool :=
      match after with
      | [] => true
      | c :: _ => isSyntaxBlank c || c == '>'
    let kind1 := ["pre", "script", "style", "textarea"].any fun t =>
      startsWithCI rest t.toList && endsName (rest.drop t.length)
    if kind1 then some 1
    else if startsWithCI rest "!--".toList then some 2
    else if rest.head? == some '?' then some 3
    else if (match rest with
      | '!' :: c :: _ => isAsciiAlpha c
      | _ => false) then some 4
    else if startsWithCI rest "![CDATA[".toList then some 5
    else
      let afterSlash := match rest with
        | '/' :: r => r
        | r => r
      let kind6 := blockTagNames.any fun t =>
        startsWithCI afterSlash t.toList &&
          (match afterSlash.drop t.length with
            | [] => true
            | c :: more => isSyntaxBlank c || c == '>' || (c == '/' && more.head? == some '>'))
      if kind6 then some 6
      else if inParagraph then none
      else
        let tagEnd := match rest with
          | '/' :: r => scanClosingTag r
          | r =>
            -- the four names of the first kind open no block of the seventh kind
            if ["pre", "script", "style", "textarea"].any (fun t =>
                startsWithCI r t.toList) then none else scanOpenTag r
        match tagEnd with
        | some after => if after.all isSyntaxBlank then some 7 else none
        | none => none
  | _ => none

/-- Whether a line ends an HTML block of the given kind (1 to 5). -/
def htmlBlockEnds (kind : Nat) (line : List Char) : Bool :=
  match kind with
  | 1 => ["</pre>", "</script>", "</style>", "</textarea>"].any fun t => containsCI line t.toList
  | 2 => containsSub line "-->".toList
  | 3 => containsSub line "?>".toList
  | 4 => containsSub line ">".toList
  | 5 => containsSub line "]]>".toList
  | _ => false

end DocBridge.Markdown
