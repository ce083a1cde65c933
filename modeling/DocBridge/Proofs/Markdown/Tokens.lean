import DocBridge.Markdown.Event
import DocBridge.Proofs.Compile.Walk

/-!
# The tokens of an event stream

`Token.ofEvents` reads a parsed document's events into the compiler's tokens: block events
become block tokens, the inline events between two of them are gathered into one inline group,
a code block's text events become one code token, and HTML and images' own starts and ends are
dropped. This file says what comes out for every event stream.

`flatTokens` reads the events one by one with no grouping: the token each event stands for
(`Event.token?`), a code block standing for one token that holds the concatenation of its text
events, a fence exactly when the block is fenced. `Token.Grouped` says that the inline tokens of
a stream stand in inline groups, each group non-empty and made of inline tokens only, and no two
groups side by side. The builder keeps its tokens grouped (`Builds`), and its tokens flatten to
`flatTokens` of what it read (`foldl_step_flat`): so each group holds exactly the inline tokens
between two block tokens, in order.

`WellNestedEvents` is what a parser promises of its events: starts and ends balanced, every item
starting directly inside a list, and only text inside a code block. The walk over the open tags
runs in step with the walk `nest` over the open containers of the tokens (`foldlM_nest_flat`),
so the tokens the builder writes for such a stream are `WellNested`, the shape the compiler's
list handling needs (`finish_grouped_nested`). Merging adjacent texts keeps the events well
nested (`foldlM_nest_mergeText`), so the same holds of `Token.ofEvents`
(`ofEvents_grouped_nested`).
-/

namespace DocBridge

namespace Token

/-- A token that stands inside an inline group: text, a code span, a break, or the open or close
of emphasis, strong, strikethrough or a link. -/
def isInlineLeaf : Token → Bool
  | .text _ | .codeInline _ | .softBreak | .hardBreak | .strongOpen | .strongClose | .emOpen
  | .emClose | .strikeOpen | .strikeClose | .linkOpen _ | .linkClose => true
  | _ => false

/-- An inline group. -/
def isGroup : Token → Bool
  | .inline _ => true
  | _ => false

/-- The inline tokens of a stream stand in inline groups: no inline token stands outside a
group, every group holds one or more inline tokens and nothing else (so no group), and no two
groups stand side by side. -/
structure Grouped (T : List Token) : Prop where
  top : ∀ t ∈ T, t.isInlineLeaf = false
  groups : ∀ cs, inline cs ∈ T → cs ≠ [] ∧ ∀ c ∈ cs, c.isInlineLeaf = true
  apart : T.IsChain fun a b => ¬ (a.isGroup = true ∧ b.isGroup = true)

theorem Grouped.nil : Grouped [] := ⟨by simp, by simp, .nil⟩

/-- A token that is neither an inline token nor a group may follow any grouped stream. -/
theorem Grouped.push_block {T : List Token} {t : Token} (h : Grouped T)
    (hleaf : t.isInlineLeaf = false) (hgroup : t.isGroup = false) : Grouped (T ++ [t]) := by
  obtain ⟨htop, hgroups, happart⟩ := h
  refine ⟨fun u hu => ?_, fun cs hcs => ?_, ?_⟩
  · rcases List.mem_append.mp hu with hu | hu
    · exact htop u hu
    · rw [List.mem_singleton.mp hu]
      exact hleaf
  · rcases List.mem_append.mp hcs with hcs | hcs
    · exact hgroups cs hcs
    · rw [← List.mem_singleton.mp hcs] at hgroup
      cases hgroup
  · refine List.isChain_append.mpr ⟨happart, .singleton _, fun x _ y hy => ?_⟩
    obtain rfl := Option.mem_some_iff.mp hy
    simp [hgroup]

/-- A non-empty group of inline tokens may follow a grouped stream that does not end in a group. -/
theorem Grouped.push_group {T cs : List Token} (h : Grouped T) (hne : cs ≠ [])
    (hleaves : ∀ c ∈ cs, c.isInlineLeaf = true) (hlast : ∀ t ∈ T.getLast?, t.isGroup = false) :
    Grouped (T ++ [inline cs]) := by
  obtain ⟨htop, hgroups, happart⟩ := h
  refine ⟨fun u hu => ?_, fun ds hds => ?_, ?_⟩
  · rcases List.mem_append.mp hu with hu | hu
    · exact htop u hu
    · rw [List.mem_singleton.mp hu]
      rfl
  · rcases List.mem_append.mp hds with hds | hds
    · exact hgroups ds hds
    · obtain ⟨rfl⟩ := List.mem_singleton.mp hds
      exact ⟨hne, hleaves⟩
  · refine List.isChain_append.mpr ⟨happart, .singleton _, fun x hx y _ => ?_⟩
    simp [hlast x hx]

theorem flatten_append (xs ys : List Token) : flatten (xs ++ ys) = flatten xs ++ flatten ys := by
  induction xs with
  | nil => rfl
  | cons x xs ih => rw [List.cons_append, flatten_cons, flatten_cons, ih, List.append_assoc]

@[simp] theorem flatten_nil : flatten [] = [] := rfl

theorem flatten_singleton {t : Token} (h : t.isGroup = false) : flatten [t] = [t] := by
  cases t
  case inline => cases h
  all_goals rfl

theorem flatten_group (cs : List Token) : flatten [inline cs] = flatten cs := by
  rw [flatten_cons, flattenOne, flatten_nil, List.append_nil]

end Token

namespace Markdown

/-! ## What each event stands for -/

namespace Tag

/-- The container a start tag opens among the tokens; code blocks, HTML blocks and images open
none. -/
def container? : Tag → Option Container
  | .paragraph => some .paragraph
  | .heading _ => some .heading
  | .quote => some .quote
  | .list true => some .orderedList
  | .list false => some .bulletList
  | .item => some .item
  | .emphasis => some .em
  | .strong => some .strong
  | .strike => some .strike
  | .link _ => some .link
  | .codeBlock _ | .htmlBlock | .image _ => none

/-- The token a start event of the tag stands for. -/
def openToken? : Tag → Option Token
  | .paragraph => some .paragraphOpen
  | .heading level => some (.headingOpen level)
  | .quote => some .quoteOpen
  | .list true => some .orderedListOpen
  | .list false => some .bulletListOpen
  | .item => some .itemOpen
  | .emphasis => some .emOpen
  | .strong => some .strongOpen
  | .strike => some .strikeOpen
  | .link dest => some (.linkOpen dest)
  | .codeBlock _ | .htmlBlock | .image _ => none

/-- The token an end event of the tag stands for. -/
def closeToken? : Tag → Option Token
  | .paragraph => some .paragraphClose
  | .heading _ => some .headingClose
  | .quote => some .quoteClose
  | .list true => some .orderedListClose
  | .list false => some .bulletListClose
  | .item => some .itemClose
  | .emphasis => some .emClose
  | .strong => some .strongClose
  | .strike => some .strikeClose
  | .link _ => some .linkClose
  | .codeBlock _ | .htmlBlock | .image _ => none

/-- An end event of tag `u` ends what a start event of tag `t` started: the same kind of tag,
and for a list the same kind of list. -/
def closedBy : Tag → Tag → Bool
  | .paragraph, .paragraph | .heading _, .heading _ | .quote, .quote
  | .codeBlock _, .codeBlock _ | .htmlBlock, .htmlBlock | .item, .item
  | .emphasis, .emphasis | .strong, .strong | .strike, .strike | .link _, .link _
  | .image _, .image _ => true
  | .list a, .list b => a == b
  | _, _ => false

/-- A code block. -/
def isCode : Tag → Bool
  | .codeBlock _ => true
  | _ => false

/-- A list. -/
def isList : Tag → Bool
  | .list _ => true
  | _ => false

/-- The token a start stands for opens the tag's container. -/
theorem opens_openToken? {t : Tag} {tok : Token} (h : t.openToken? = some tok) :
    tok.opens = t.container? ∧ tok.closes = none ∧ tok.isGroup = false := by
  cases t
  case codeBlock | htmlBlock | image => cases h
  case list ordered =>
    cases ordered <;> simp only [openToken?, Option.some.injEq] at h <;> subst h <;>
      exact ⟨rfl, rfl, rfl⟩
  all_goals
    simp only [openToken?, Option.some.injEq] at h
    subst h
    exact ⟨rfl, rfl, rfl⟩

/-- The token an end stands for closes the tag's container. -/
theorem closes_closeToken? {t : Tag} {tok : Token} (h : t.closeToken? = some tok) :
    tok.opens = none ∧ tok.closes = t.container? ∧ tok.isGroup = false := by
  cases t
  case codeBlock | htmlBlock | image => cases h
  case list ordered =>
    cases ordered <;> simp only [closeToken?, Option.some.injEq] at h <;> subst h <;>
      exact ⟨rfl, rfl, rfl⟩
  all_goals
    simp only [closeToken?, Option.some.injEq] at h
    subst h
    exact ⟨rfl, rfl, rfl⟩

/-- An end that closes a start closes its container. -/
theorem container?_of_closedBy {t u : Tag} (h : t.closedBy u = true) :
    t.container? = u.container? := by
  cases t <;> cases u <;> simp_all [closedBy, container?]

/-- A list opens a list container. -/
theorem container?_of_isList {t : Tag} (h : t.isList = true) :
    ∃ k, t.container? = some k ∧ k.isList = true := by
  cases t
  case list ordered => cases ordered <;> exact ⟨_, rfl, rfl⟩
  all_goals cases h

end Tag

/-- The token an event stands for outside a code block: block events stand for block tokens and
inline events for inline tokens; HTML, the starts and ends of HTML blocks and images, and the
start and end of a code block stand for none here. -/
def Event.token? : Event → Option Token
  | .start t => t.openToken?
  | .stop t => t.closeToken?
  | .text s => some (.text s)
  | .code s => some (.codeInline s)
  | .softBreak => some .softBreak
  | .hardBreak => some .hardBreak
  | .rule => some .rule
  | .html _ | .inlineHtml _ => none

/-- The token a code block stands for: a fence with its info string when the block is fenced,
an indented code block otherwise. -/
def codeToken : Option String → String → Token
  | some info, content => .fence info content
  | none, content => .codeBlock content

@[simp] theorem isInlineLeaf_codeToken (info : Option String) (text : String) :
    (codeToken info text).isInlineLeaf = false := by
  cases info <;> rfl

@[simp] theorem isGroup_codeToken (info : Option String) (text : String) :
    (codeToken info text).isGroup = false := by
  cases info <;> rfl

@[simp] theorem opens_codeToken (info : Option String) (text : String) :
    (codeToken info text).opens = none := by
  cases info <;> rfl

@[simp] theorem closes_codeToken (info : Option String) (text : String) :
    (codeToken info text).closes = none := by
  cases info <;> rfl

/-- The text of a code block's events up to the block's end, and the events after the end: the
concatenation of the block's text events. -/
def codeBlockText : List Event → String × List Event
  | [] => ("", [])
  | .text s :: rest => (s ++ (codeBlockText rest).1, (codeBlockText rest).2)
  | .stop (.codeBlock _) :: rest => ("", rest)
  | _ :: rest => codeBlockText rest

theorem length_codeBlockText_le (es : List Event) : (codeBlockText es).2.length ≤ es.length := by
  fun_induction codeBlockText es <;> simp_all <;> omega

/-- The tokens an event stream stands for, event by event, with no grouping: a code block
stands for one token holding the concatenation of its text events, and every other event for
its `Event.token?`. -/
def flatTokens : List Event → List Token
  | [] => []
  | .start (.codeBlock info) :: rest =>
    codeToken info (codeBlockText rest).1 :: flatTokens (codeBlockText rest).2
  | e :: rest => e.token?.toList ++ flatTokens rest
termination_by es => es.length
decreasing_by
  all_goals simp only [List.length_cons]
  · have := length_codeBlockText_le rest
    omega
  · omega

/-! ## The builder -/

namespace TokenBuilder

open Token

/-- The tokens the builder has read so far, its pending inline tokens in place. -/
def flat (b : TokenBuilder) : List Token := flatten b.tokens.toList ++ flatten b.inline.toList

/-- Reads the token an event stands for outside a code block: an inline token joins the
pending group, and any other token is written after it. -/
def emit (b : TokenBuilder) : Option Token → TokenBuilder
  | some t => if t.isInlineLeaf then b.add t else b.block t
  | none => b

/-- The builder with the code block it reads closed on `text`: the block's token is written. -/
def closeCode (b : TokenBuilder) (info : Option String) (text : String) : TokenBuilder :=
  { b with code := none, tokens := b.tokens.push (codeToken info text) }

section

variable {b : TokenBuilder}

@[simp] theorem flush_code (b : TokenBuilder) : b.flush.code = b.code := by
  unfold flush
  split <;> rfl

@[simp] theorem flush_inline (b : TokenBuilder) : b.flush.inline = #[] := by
  unfold flush
  split
  · rename_i h
    exact Array.isEmpty_iff.mp h
  · rfl

theorem flush_tokens (b : TokenBuilder) :
    b.flush.tokens.toList =
      if b.inline.toList = [] then b.tokens.toList
      else b.tokens.toList ++ [Token.inline b.inline.toList] := by
  unfold flush
  by_cases h : b.inline.isEmpty
  · rw [if_pos h, if_pos (by simpa using Array.isEmpty_iff.mp h)]
  · rw [if_neg h, if_neg (by simpa using h), Array.toList_push]

theorem flush_flat (b : TokenBuilder) : b.flush.flat = b.flat := by
  rw [flat, flat, flush_tokens, flush_inline, Array.toList_empty, flatten_nil, List.append_nil]
  split
  · rename_i h
    rw [h, flatten_nil, List.append_nil]
  · rw [flatten_append, flatten_group]

theorem flush_of_inline (h : b.inline = #[]) : b.flush = b := by
  rw [flush, if_pos (Array.isEmpty_iff.mpr h)]

theorem finishCode_of_none (hc : b.code = none) : b.finishCode = b := by
  rw [finishCode, hc]

theorem finishCode_of_some {info : Option String} {c : String} (hc : b.code = some (info, c)) :
    b.finishCode = b.closeCode info c := by
  cases info <;> simp [finishCode, closeCode, codeToken, hc]

/-- Outside a code block, every event but a code block's start is read as its token. -/
theorem step_eq_emit (hc : b.code = none) {e : Event}
    (he : ∀ info, e = .start (.codeBlock info) → False) : b.step e = b.emit e.token? := by
  unfold step
  rw [hc]
  cases e
  case start t =>
    cases t
    case codeBlock info => exact (he info rfl).elim
    case list ordered => cases ordered <;> rfl
    all_goals rfl
  case stop t =>
    cases t
    case list ordered => cases ordered <;> rfl
    all_goals rfl
  all_goals rfl

/-- Outside a code block, a code block's start closes the pending group and starts reading the
block. -/
theorem step_codeStart (hc : b.code = none) (info : Option String) :
    b.step (.start (.codeBlock info)) = { b.flush with code := some (info, "") } := by
  unfold step
  rw [hc]
  rfl

section

variable {info : Option String} {c : String}

/-- Inside a code block a text adds to the block's text. -/
theorem step_code_text (hc : b.code = some (info, c)) (s : String) :
    b.step (.text s) = { b with code := some (info, c ++ s) } := by
  unfold step
  rw [hc]

/-- Inside a code block the block's end writes the block's token. -/
theorem step_code_end (hc : b.code = some (info, c)) (j : Option String) :
    b.step (.stop (.codeBlock j)) = b.closeCode info c := by
  unfold step
  rw [hc]
  exact finishCode_of_some hc

/-- Inside a code block every other event is skipped. -/
theorem step_code_other (hc : b.code = some (info, c)) {e : Event}
    (htext : ∀ s, e = .text s → False) (hstop : ∀ j, e = .stop (.codeBlock j) → False) :
    b.step e = b := by
  unfold step
  rw [hc]
  cases e
  case text s => exact (htext s rfl).elim
  case stop t =>
    cases t
    case codeBlock j => exact (hstop j rfl).elim
    all_goals rfl
  all_goals rfl

end

theorem emit_some_of_leaf {t : Token} (h : t.isInlineLeaf = true) : b.emit (some t) = b.add t := by
  rw [emit, if_pos h]

theorem emit_some_of_not_leaf {t : Token} (h : t.isInlineLeaf = false) :
    b.emit (some t) = b.block t := by
  rw [emit, if_neg (by simp [h])]

theorem emit_code (b : TokenBuilder) (o : Option Token) : (b.emit o).code = b.code := by
  cases o with
  | none => rfl
  | some t =>
    cases h : t.isInlineLeaf
    · rw [emit_some_of_not_leaf h]
      exact flush_code b
    · rw [emit_some_of_leaf h]
      rfl

/-- Reading a token adds it to what was read. -/
theorem flat_emit (b : TokenBuilder) {o : Option Token} (ho : ∀ t ∈ o, t.isGroup = false) :
    (b.emit o).flat = b.flat ++ o.toList := by
  cases o with
  | none => simp [emit]
  | some t =>
    have hflat : flatten [t] = [t] := flatten_singleton (ho t rfl)
    cases h : t.isInlineLeaf
    · rw [emit_some_of_not_leaf h]
      calc (b.block t).flat = flatten b.flush.tokens.toList ++ [t] := by
            simp [flat, block, flatten_append, hflat]
        _ = b.flush.flat ++ [t] := by simp [flat]
        _ = b.flat ++ (some t).toList := by rw [flush_flat, Option.toList_some]
    · rw [emit_some_of_leaf h]
      simp only [flat, add, Array.toList_push, flatten_append, hflat, List.append_assoc,
        Option.toList_some]

/-- The finished tokens of a builder outside a code block are what it read. -/
theorem flatten_finish (hc : b.code = none) : flatten b.finish = b.flat := by
  rw [finish, finishCode_of_none (by rw [flush_code, hc]), ← flush_flat, flat, flush_inline,
    Array.toList_empty, flatten_nil, List.append_nil]

/-- Inside a code block and with nothing pending, the builder reads the block's text up to the
block's end and writes its token; when the events end first, `finish` writes it. -/
theorem finish_foldl_code (es : List Event) {b : TokenBuilder} {info : Option String} {c : String}
    (hc : b.code = some (info, c)) (hinl : b.inline = #[]) :
    (es.foldl step b).finish =
      ((codeBlockText es).2.foldl step (b.closeCode info (c ++ (codeBlockText es).1))).finish := by
  induction es using codeBlockText.induct generalizing b c with
  | case1 =>
    rw [List.foldl_nil, codeBlockText, List.foldl_nil, String.append_empty, finish, finish,
      flush_of_inline hinl, finishCode_of_some hc, flush_of_inline (b := b.closeCode info c) hinl,
      finishCode_of_none (b := b.closeCode info c) rfl]
  | case2 s rest ih =>
    rw [List.foldl_cons, step_code_text hc, ih (b := { b with code := some (info, c ++ s) }) rfl hinl,
      codeBlockText, String.append_assoc]
    rfl
  | case3 j rest => rw [List.foldl_cons, step_code_end hc, codeBlockText, String.append_empty]
  | case4 e rest htext hstop ih =>
    rw [List.foldl_cons, step_code_other hc htext hstop, ih hc hinl,
      codeBlockText.eq_4 e rest htext hstop]

/-- What the builder keeps while it reads: its tokens are grouped, its pending tokens are inline
tokens, and outside a code block its last token is no group, so a group may follow. -/
structure Builds (b : TokenBuilder) : Prop where
  grouped : Grouped b.tokens.toList
  pending : ∀ t ∈ b.inline.toList, t.isInlineLeaf = true
  lastNotGroup : b.code = none → ∀ t ∈ b.tokens.toList.getLast?, t.isGroup = false

theorem Builds.empty : Builds {} := ⟨Grouped.nil, by simp, by simp⟩

theorem Builds.flush_grouped (h : Builds b) (hc : b.code = none) : Grouped b.flush.tokens.toList := by
  rw [flush_tokens]
  split
  · exact h.grouped
  · rename_i hne
    exact h.grouped.push_group hne h.pending (h.lastNotGroup hc)

/-- Reading the token of an event keeps the builder's invariant. -/
theorem Builds.emit (h : Builds b) (hc : b.code = none) {o : Option Token}
    (ho : ∀ t ∈ o, t.isGroup = false) : Builds (b.emit o) := by
  cases o with
  | none => exact h
  | some t =>
    cases hl : t.isInlineLeaf
    · rw [emit_some_of_not_leaf hl]
      refine ⟨?_, by simp [block], fun _ => ?_⟩
      · simpa [block] using (h.flush_grouped hc).push_block hl (ho t rfl)
      · simpa [block] using ho t rfl
    · rw [emit_some_of_leaf hl]
      refine ⟨h.grouped, fun u hu => ?_, h.lastNotGroup⟩
      simp only [add, Array.toList_push, List.mem_append, List.mem_singleton] at hu
      rcases hu with hu | rfl
      · exact h.pending u hu
      · exact hl

/-- After a code block the builder's invariant holds again: the pending group went before the
block's token. -/
theorem Builds.closeCode (h : Builds b) (hc : b.code = none) (info : Option String) (text : String) :
    Builds (TokenBuilder.closeCode { b.flush with code := some (info, "") } info text) := by
  refine ⟨?_, by simp [TokenBuilder.closeCode], fun _ => by simp [TokenBuilder.closeCode]⟩
  simpa [TokenBuilder.closeCode] using
    (h.flush_grouped hc).push_block (isInlineLeaf_codeToken info text) (isGroup_codeToken info text)

theorem Builds.finish (h : Builds b) (hc : b.code = none) : Grouped b.finish := by
  rw [TokenBuilder.finish, finishCode_of_none (by rw [flush_code, hc])]
  exact h.flush_grouped hc

end

end TokenBuilder

open TokenBuilder

theorem Event.token?_isGroup (e : Event) : ∀ t ∈ e.token?, t.isGroup = false := by
  intro t ht
  cases e
  case start tag => exact (Tag.opens_openToken? ht).2.2
  case stop tag => exact (Tag.closes_closeToken? ht).2.2
  case html | inlineHtml => cases ht
  all_goals
    obtain rfl := Option.mem_some_iff.mp ht
    rfl

/-- Reading any events from a builder outside a code block adds their tokens, event by event,
to what it read, and keeps its tokens grouped. A code block is read as a whole: its token follows
the pending group. -/
theorem foldl_step_flat (es : List Event) {b : TokenBuilder} (hb : Builds b) (hc : b.code = none) :
    Token.flatten (es.foldl step b).finish = b.flat ++ flatTokens es ∧
      Token.Grouped (es.foldl step b).finish := by
  induction es using flatTokens.induct generalizing b with
  | case1 =>
    rw [List.foldl_nil, flatTokens, List.append_nil]
    exact ⟨flatten_finish hc, hb.finish hc⟩
  | case2 info rest ih =>
    set b' := TokenBuilder.closeCode { b.flush with code := some (info, "") } info
      ("" ++ (codeBlockText rest).1) with hb'
    have hfin : ((Event.start (.codeBlock info) :: rest).foldl step b).finish =
        ((codeBlockText rest).2.foldl step b').finish := by
      rw [List.foldl_cons, step_codeStart hc]
      exact finish_foldl_code rest rfl (flush_inline b)
    have hflat' : b'.flat = b.flat ++ [codeToken info (codeBlockText rest).1] := by
      have hsingle : Token.flatten [codeToken info (codeBlockText rest).1] =
          [codeToken info (codeBlockText rest).1] :=
        Token.flatten_singleton (isGroup_codeToken info _)
      rw [hb', ← flush_flat b, String.empty_append]
      simp only [flat, TokenBuilder.closeCode, Array.toList_push, Token.flatten_append, flush_inline,
        Array.toList_empty, Token.flatten_nil, List.append_nil, hsingle]
    obtain ⟨hflat, hgrouped⟩ := ih (hb.closeCode hc info _) rfl
    rw [hfin, flatTokens, hflat, hflat', List.append_assoc, List.singleton_append]
    exact ⟨rfl, hgrouped⟩
  | case3 e rest he ih =>
    rw [List.foldl_cons, step_eq_emit hc he, flatTokens.eq_3 e rest he]
    obtain ⟨hflat, hgrouped⟩ := ih (hb.emit hc (Event.token?_isGroup e)) (by rw [emit_code, hc])
    rw [hflat, flat_emit b (Event.token?_isGroup e), List.append_assoc]
    exact ⟨rfl, hgrouped⟩

/-! ## Well-nested events give well-nested tokens -/

/-- Ends the innermost open tag with an end of tag `u`, when `u` ends it. -/
def closeTag : List Tag → Tag → Option (List Tag)
  | t :: s, u => if t.closedBy u then some s else none
  | [], _ => none

/-- One event of the walk over the open tags, innermost first. Inside a code block only text
and the block's end may come. Elsewhere a start opens its tag, an item only directly inside a
list, an end closes the innermost open tag, which it must end, and any other event leaves the
tags as they are. -/
def Event.nest (s : List Tag) (e : Event) : Option (List Tag) :=
  if s.head?.any Tag.isCode then
    match e with
    | .text _ => some s
    | .stop u => closeTag s u
    | _ => none
  else
    match e with
    | .start .item => if s.head?.any Tag.isList then some (.item :: s) else none
    | .start t => some (t :: s)
    | .stop u => closeTag s u
    | _ => some s

/-- What a parser promises of its events: every start is ended by an end of its kind, in the
reverse order of starting, every item starts directly inside a list, and a code block holds only
text. -/
def WellNestedEvents (es : List Event) : Prop :=
  es.foldlM Event.nest [] = some []

instance (es : List Event) : Decidable (WellNestedEvents es) :=
  inferInstanceAs (Decidable (_ = _))

/-- The containers of a stack of open tags, innermost first. -/
def containers (s : List Tag) : List Container := s.filterMap Tag.container?

theorem containers_cons (t : Tag) (s : List Tag) :
    containers (t :: s) = t.container?.toList ++ containers s := by
  cases h : t.container? <;> simp [containers, h]

theorem nest_text (s : List Tag) (str : String) : Event.nest s (.text str) = some s := by
  unfold Event.nest
  split <;> rfl

theorem foldlM_nest_closeToken? (t : Tag) (cs : List Container) :
    t.closeToken?.toList.foldlM nest (t.container?.toList ++ cs) = some cs := by
  cases t
  case list ordered => cases ordered <;> rfl
  all_goals rfl

/-- An end that closes the innermost open tag closes its container among the tokens. -/
theorem foldlM_nest_closeTag {s s' : List Tag} {u : Tag} (h : closeTag s u = some s') :
    (Event.stop u).token?.toList.foldlM nest (containers s) = some (containers s') := by
  match s, h with
  | t :: s, h =>
    rw [closeTag] at h
    split at h
    · rename_i hclosed
      cases h
      rw [containers_cons, Tag.container?_of_closedBy hclosed]
      exact foldlM_nest_closeToken? u _
    · cases h

theorem nest_stop (s : List Tag) (u : Tag) : Event.nest s (.stop u) = closeTag s u := by
  unfold Event.nest
  split <;> rfl

/-- Outside a code block a start other than an item's opens its tag. -/
theorem nest_start {s : List Tag} {t : Tag} (hcode : ¬ s.head?.any Tag.isCode = true)
    (ht : t ≠ .item) : Event.nest s (.start t) = some (t :: s) := by
  cases t
  case item => exact absurd rfl ht
  all_goals simp [Event.nest, hcode]

/-- Outside a code block an item opens only directly inside a list. -/
theorem nest_item {s : List Tag} (hcode : ¬ s.head?.any Tag.isCode = true) :
    Event.nest s (.start .item) = if s.head?.any Tag.isList then some (.item :: s) else none := by
  rw [Event.nest, if_neg hcode]

theorem foldlM_nest_openToken? {t : Tag} (ht : t ≠ .item) (cs : List Container) :
    t.openToken?.toList.foldlM nest cs = some (t.container?.toList ++ cs) := by
  cases t
  case item => exact absurd rfl ht
  case list ordered => cases ordered <;> rfl
  all_goals rfl

/-- An item started directly inside a list opens its container directly inside the list's. -/
theorem foldlM_nest_item {t : Tag} {s : List Tag} (hlist : t.isList = true) :
    (Event.start .item).token?.toList.foldlM nest (containers (t :: s)) =
      some (containers (.item :: t :: s)) := by
  obtain ⟨k, hk, hkl⟩ := Tag.container?_of_isList hlist
  simp only [containers_cons, hk]
  simp [Event.token?, Tag.openToken?, nest, Token.opens, Tag.container?, hkl]

/-- Every event but a code block's start moves the open containers of its token as it moves the
open tags. An item opens only directly inside a list, whose container is then innermost; inside a
code block no other event may come, and outside one the other events keep the open tags. -/
theorem foldlM_nest_token {s s' : List Tag} {e : Event}
    (he : ∀ info, e = .start (.codeBlock info) → False) (h : Event.nest s e = some s') :
    e.token?.toList.foldlM nest (containers s) = some (containers s') := by
  cases e
  case stop u => exact foldlM_nest_closeTag (nest_stop s u ▸ h)
  case text str =>
    rw [nest_text] at h
    cases h
    rfl
  case start t =>
    by_cases hcode : s.head?.any Tag.isCode = true
    · simp [Event.nest, hcode] at h
    by_cases hitem : t = .item
    · subst hitem
      rw [nest_item hcode] at h
      split at h
      · rename_i hlist
        cases h
        obtain ⟨t, s₀, rfl⟩ : ∃ t s₀, s = t :: s₀ :=
          List.exists_cons_of_ne_nil (by rintro rfl; cases hlist)
        exact foldlM_nest_item (by simpa using hlist)
      · cases h
    · rw [nest_start hcode hitem] at h
      cases h
      rw [Event.token?, foldlM_nest_openToken? hitem, containers_cons]
  all_goals
    by_cases hcode : s.head?.any Tag.isCode = true
    · simp [Event.nest, hcode] at h
    · simp [Event.nest, hcode] at h
      subst h
      rfl

/-- Inside a code block any event but a text or the block's end stops the walk. -/
theorem nest_code_other {s : List Tag} {info : Option String} {e : Event}
    (htext : ∀ str, e = .text str → False) (hstop : ∀ j, e = .stop (.codeBlock j) → False) :
    Event.nest (.codeBlock info :: s) e = none := by
  cases e
  case text str => exact (htext str rfl).elim
  case stop u =>
    cases u
    case codeBlock j => exact (hstop j rfl).elim
    all_goals rfl
  all_goals rfl

/-- Inside a code block the walk reads text up to the block's end and closes the block there,
or runs out of events inside the block. -/
theorem foldlM_nest_code (es : List Event) {s s' : List Tag} {info : Option String}
    (h : es.foldlM Event.nest (.codeBlock info :: s) = some s') :
    ((codeBlockText es).2 = [] ∧ s' = .codeBlock info :: s) ∨
      (codeBlockText es).2.foldlM Event.nest s = some s' := by
  induction es using codeBlockText.induct with
  | case1 =>
    cases h
    exact .inl ⟨rfl, rfl⟩
  | case2 str rest ih =>
    rw [List.foldlM_cons, nest_text] at h
    exact ih h
  | case3 j rest =>
    refine .inr ?_
    rw [List.foldlM_cons] at h
    simpa [Event.nest, Tag.isCode, closeTag, Tag.closedBy, codeBlockText] using h
  | case4 e rest htext hstop ih =>
    rw [List.foldlM_cons, nest_code_other htext hstop] at h
    cases h

/-- The walk over the open tags and the walk over the containers of the tokens go in step. -/
theorem foldlM_nest_flat (es : List Event) {s s' : List Tag}
    (h : es.foldlM Event.nest s = some s') :
    (flatTokens es).foldlM nest (containers s) = some (containers s') := by
  induction es using flatTokens.induct generalizing s with
  | case1 =>
    cases h
    rw [flatTokens]
    rfl
  | case2 info rest ih =>
    rw [List.foldlM_cons] at h
    by_cases hin : s.head?.any Tag.isCode = true
    · simp [Event.nest, hin] at h
    · obtain ⟨s₁, hs₁, hrest⟩ := Option.bind_eq_some_iff.mp h
      rw [nest_start (t := .codeBlock info) hin nofun] at hs₁
      cases hs₁
      rw [flatTokens, List.foldlM_cons, nest_of_neither (opens_codeToken info _) (closes_codeToken info _)]
      rcases foldlM_nest_code rest hrest with ⟨hnil, rfl⟩ | hwalk
      · rw [hnil, flatTokens, containers_cons]
        rfl
      · exact ih hwalk
  | case3 e rest he ih =>
    rw [List.foldlM_cons] at h
    obtain ⟨s₁, hs₁, hrest⟩ := Option.bind_eq_some_iff.mp h
    rw [flatTokens.eq_3 e rest he, List.foldlM_append, foldlM_nest_token he hs₁]
    exact ih hrest

/-- The builder, run on any well-nested event stream (merged or not), writes well-nested tokens
that flatten to the stream's `flatTokens` and stand grouped. -/
theorem finish_grouped_nested (es : List Event) (h : WellNestedEvents es) :
    WellNested (es.foldl step {}).finish ∧
    Token.flatten (es.foldl step {}).finish = flatTokens es ∧
    Token.Grouped (es.foldl step {}).finish := by
  obtain ⟨hflat, hgrouped⟩ := foldl_step_flat es Builds.empty rfl
  have hflat' : Token.flatten (es.foldl step {}).finish = flatTokens es := by
    rw [hflat]
    rfl
  refine ⟨?_, hflat', hgrouped⟩
  rw [WellNested, hflat']
  exact foldlM_nest_flat es h

/-! ## Merging adjacent texts

`Event.mergeText` stands for the parser's own merging of adjacent texts. All the tokens need
of it is that it joins adjacent texts and nothing else, so it changes no walk over the open
tags. -/

/-- Joining two texts changes no walk over the open tags. -/
theorem foldlM_nest_consMerged (e : Event) (m : List Event) (s : List Tag) :
    (Event.consMerged e m).foldlM Event.nest s = (e :: m).foldlM Event.nest s := by
  unfold Event.consMerged
  split
  · simp only [List.foldlM_cons, nest_text]
    rfl
  · rfl

/-- Merging adjacent texts keeps the events well nested. -/
theorem foldlM_nest_mergeText (es : List Event) {s s' : List Tag}
    (h : es.foldlM Event.nest s = some s') : (Event.mergeText es).foldlM Event.nest s = some s' := by
  induction es generalizing s with
  | nil => exact h
  | cons e es ih =>
    rw [Event.mergeText, List.foldr_cons, ← Event.mergeText, foldlM_nest_consMerged,
      List.foldlM_cons]
    rw [List.foldlM_cons] at h
    obtain ⟨s₁, hs₁, hrest⟩ := Option.bind_eq_some_iff.mp h
    exact Option.bind_eq_some_iff.mpr ⟨s₁, hs₁, ih hrest⟩

/-- The tokens of an event stream, its adjacent texts merged. When the events are well nested
(starts and ends balanced, every item starting directly inside a list, and only text inside a
code block), the tokens are well nested too: every container is closed by a token of its kind
in the reverse order of opening, and every item opens directly inside a list. For every event
stream, opening the inline groups in place gives the tokens of the merged events one by one,
each code block as one fence or indented code token holding the concatenation of its texts, a
fence exactly for a fenced block; and the inline tokens stand only in inline groups, each group
non-empty, made of inline tokens only, and no two groups side by side. So each group holds
exactly the inline tokens between two block tokens, in order. The merge keeps the events well
nested, so this is `finish_grouped_nested` on the merged events. -/
theorem ofEvents_grouped_nested (es : List Event) (h : WellNestedEvents es) :
    WellNested (Token.ofEvents es) ∧
    Token.flatten (Token.ofEvents es) = flatTokens (Event.mergeText es) ∧
    Token.Grouped (Token.ofEvents es) :=
  finish_grouped_nested (Event.mergeText es) (foldlM_nest_mergeText es h)

/-- A tight list item with two texts, followed by an indented code block. -/
theorem ofEvents_grouped_nested_item_code :
    WellNestedEvents [.start (.list false), .start .item, .text "a", .text "b", .stop .item,
      .stop (.list false), .start (.codeBlock none), .text "x", .stop (.codeBlock none)] ∧
    WellNested (Token.ofEvents [.start (.list false), .start .item, .text "a", .text "b",
      .stop .item, .stop (.list false), .start (.codeBlock none), .text "x",
      .stop (.codeBlock none)]) ∧
    Token.flatten (Token.ofEvents [.start (.list false), .start .item, .text "a", .text "b",
      .stop .item, .stop (.list false), .start (.codeBlock none), .text "x",
      .stop (.codeBlock none)]) =
      flatTokens (Event.mergeText [.start (.list false), .start .item, .text "a", .text "b",
        .stop .item, .stop (.list false), .start (.codeBlock none), .text "x",
        .stop (.codeBlock none)]) ∧
    Token.Grouped (Token.ofEvents [.start (.list false), .start .item, .text "a", .text "b",
      .stop .item, .stop (.list false), .start (.codeBlock none), .text "x",
      .stop (.codeBlock none)]) :=
  ⟨by decide, ofEvents_grouped_nested _ (by decide)⟩

end Markdown

end DocBridge
