import DocBridge.Proofs.Render.Text

/-!
# The layout of the Markdown

The writer of `render` is a line accumulator: it pushes the lines of each block, a blank line
after every block but a list item's line, a blank line to close a run of list items before the
next block, and at the end it drops the trailing line endings and adds one. This file says what
that comes to, block for block and without the accumulator.

The blocks that show are the section breaks, the tables with a row and the paragraphs with a
character that is not white space (`Block.shows`); every other block is skipped and leaves no
trace, not even the blank line that would close a run of list items. Each block that shows is
one `Piece` of Markdown (`piece`): a rule, a table's lines, or a paragraph written as a heading,
a list item's line or plain text. `layout` joins the pieces with one line ending between two
list items' lines and a blank line between any other two.

`render_eq_layout` is the result: the Markdown of a document is empty when no block shows, and
otherwise it is the layout of its pieces followed by one line ending. The invariant `LaysOut`
says what the lines of the writer hold after each block; the last step, the trimming of the
line endings, takes off the separators only, since no piece ends in a line ending
(`EndsInText`).
-/

namespace DocBridge

namespace Model

/-- Whether a block shows in the Markdown: a section break, a table with at least one row, a
paragraph with a character that is not white space. -/
def Block.shows : Block → Bool
  | .paragraph p => !Text.allBlank p.text
  | .table t => !t.rows.isEmpty
  | .sectionBreak => true

end Model

namespace Render

open Model

/-! ## Pieces and their layout -/

/-- A block's Markdown, and whether it is a list item's line: the next list item's line follows
such a piece on the next line. -/
structure Piece where
  text : String
  item : Bool

/-- The Markdown of a paragraph from the trimmed text of its runs: a heading of as many `#` as its
named style's heading level, if it has one; else the line of a list item, indented by two spaces a
nesting level and marked `1.` where the list is ordered at that level and `-` where it is not;
else the text alone. -/
def paragraphPiece (lists : ListRegistry) (p : Paragraph) : Piece :=
  let text := Text.trim (formatRuns p.runs)
  match p.namedStyle.bind NamedStyle.headingLevel with
  | some level => ⟨String.ofList (List.replicate level '#') ++ " " ++ text, false⟩
  | none =>
    match p.bullet with
    | some b =>
      ⟨String.ofList (List.replicate (2 * b.nestingLevel) ' ') ++
        (if lists.isOrdered b.listId b.nestingLevel then "1." else "-") ++ " " ++ text, true⟩
    | none => ⟨text, false⟩

/-- The lines of a table: every row between pipes, and after the first a separator row of as many
`---` cells as the first row has cells, and at least one. -/
def tableLines : List TableRow → List String
  | [] => []
  | first :: rest =>
    Writer.row (first.cells.map Writer.cellText) ::
      Writer.row (List.replicate (max first.cells.length 1) "---") ::
      rest.map fun r => Writer.row (r.cells.map Writer.cellText)

/-- The Markdown of a block. -/
def piece (lists : ListRegistry) : Block → Piece
  | .paragraph p => paragraphPiece lists p
  | .table t => ⟨"\n".intercalate (tableLines t.rows), false⟩
  | .sectionBreak => ⟨"---", false⟩

/-- What goes between two pieces: a line ending between two list items' lines, a blank line
otherwise. -/
def separator (p q : Piece) : String := if p.item && q.item then "\n" else "\n\n"

/-- Pieces one after another, with their separators. -/
def layout : List Piece → String
  | [] => ""
  | [p] => p.text
  | p :: q :: rest => p.text ++ separator p q ++ layout (q :: rest)

/-- The pieces of the blocks of a document that show, in order. -/
def pieces (d : DocumentModel) : List Piece :=
  (d.blocks.filter Block.shows).map (piece d.lists)

/-- Adding a piece after the last one puts their separator between them. -/
theorem layout_concat {p : Piece} (q : Piece) :
    ∀ {ps : List Piece}, ps.getLast? = some p → layout (ps ++ [q]) = layout ps ++ separator p q ++ q.text
  | [], h => by simp at h
  | [r], h => by
    obtain rfl : r = p := by simpa using h
    rfl
  | r :: s :: rest, h => by
    have ih := @layout_concat p q (s :: rest) (by simpa using h)
    rw [List.cons_append, List.cons_append, layout, ← List.cons_append, ih, layout]
    simp only [String.append_assoc]

/-! ## Texts that end in text -/

/-- A text that is not empty and does not end in a line ending. -/
def EndsInText (s : String) : Prop := ∃ ch, s.toList.getLast? = some ch ∧ ch ≠ '\n'

theorem EndsInText.append_left {t : String} (s : String) (h : EndsInText t) : EndsInText (s ++ t) := by
  obtain ⟨ch, hch, hne⟩ := h
  refine ⟨ch, ?_, hne⟩
  rw [String.toList_append, List.getLast?_append, hch]
  rfl

theorem EndsInText.intercalate (sep : String) :
    ∀ {ls : List String}, ls ≠ [] → (∀ l ∈ ls, EndsInText l) → EndsInText (sep.intercalate ls)
  | [], h, _ => absurd rfl h
  | [l], _, h => by simpa using h l (by simp)
  | l :: m :: rest, _, h => by
    rw [String.intercalate_cons_of_ne_nil (by simp)]
    exact (EndsInText.intercalate sep (by simp) fun x hx => h x (by simp [hx])).append_left _

/-- A layout ends in the text of its last piece. -/
theorem EndsInText.layout : ∀ {ps : List Piece}, (∀ p ∈ ps, EndsInText p.text) → ps ≠ [] →
    EndsInText (Render.layout ps)
  | [], _, h => absurd rfl h
  | [p], h, _ => h p (by simp)
  | p :: q :: rest, h, _ =>
    (EndsInText.layout (fun x hx => h x (by simp [hx])) (by simp)).append_left _

theorem isBlank_of_head?_dropWhile {l : List Char} {ch : Char}
    (h : (l.dropWhile Text.isBlank).head? = some ch) : Text.isBlank ch = false := by
  have hd := List.head?_dropWhile_not Text.isBlank l
  rw [h] at hd
  exact hd

/-- A trimmed text with a visible character ends in a character that is not white space. The last
character of a trimmed text is the first one `trimEnd` keeps from the end. -/
theorem trim_endsInText {s : String} (h : Text.visible s ≠ []) : EndsInText (Text.trim s) := by
  have hne : (Text.trim s).toList ≠ [] := by
    intro he
    rw [← Text.visible_trim, Text.visible, he] at h
    exact h rfl
  obtain ⟨ch, hch⟩ := Option.ne_none_iff_exists'.mp (mt List.getLast?_eq_none_iff.mp hne)
  have hblank : Text.isBlank ch = false := by
    rw [Text.trim, Text.trimEnd, String.toList_ofList, List.getLast?_reverse, Text.dropBlank] at hch
    exact isBlank_of_head?_dropWhile hch
  refine ⟨ch, hch, ?_⟩
  rintro rfl
  exact absurd hblank (by decide)

theorem row_endsInText (cells : List String) : EndsInText (Writer.row cells) :=
  EndsInText.append_left _ ⟨'|', by decide, by decide⟩

/-- A paragraph that shows holds a visible character once its runs are written. -/
theorem visible_formatRuns_ne_nil {p : Paragraph} (h : Text.allBlank p.text = false) :
    Text.visible (formatRuns p.runs) ≠ [] := by
  have hshown : Text.visible p.text ≠ [] := by
    obtain ⟨ch, hch, hb⟩ : ∃ ch ∈ p.text.toList, Text.isBlank ch = false := by
      simpa [Text.allBlank] using h
    exact List.ne_nil_of_mem (List.mem_filter.mpr ⟨hch, by simp [hb]⟩)
  intro he
  rw [Paragraph.text, visible_text_eq_runsShown] at hshown
  exact hshown (List.eq_nil_of_sublist_nil (he ▸ formatRuns_visible p.runs))

/-- The Markdown of every block that shows ends in text. A heading and an item's line end in the
paragraph's text, as a plain paragraph does. -/
theorem piece_endsInText (lists : ListRegistry) {b : Block} (h : b.shows = true) :
    EndsInText (piece lists b).text := by
  cases b with
  | paragraph p =>
    have hblank : Text.allBlank p.text = false := by simpa [Block.shows] using h
    have ht := trim_endsInText (visible_formatRuns_ne_nil hblank)
    rcases hl : p.namedStyle.bind NamedStyle.headingLevel with _ | level <;>
      rcases hb : p.bullet with _ | b <;> simp only [piece, paragraphPiece, hl, hb]
    · exact ht
    · exact ht.append_left _
    · exact ht.append_left _
    · exact ht.append_left _
  | table t =>
    obtain ⟨first, rest, hrows⟩ := List.exists_cons_of_ne_nil (by simpa [Block.shows] using h)
    refine EndsInText.intercalate _ (by simp [hrows, tableLines]) fun l hl => ?_
    simp only [hrows, tableLines, List.mem_cons, List.mem_map] at hl
    rcases hl with rfl | rfl | ⟨r, -, rfl⟩ <;> exact row_endsInText _
  | sectionBreak =>
    show EndsInText "---"
    exact ⟨'-', by decide, by decide⟩

/-! ## The writer's lines -/

namespace Writer

/-- The lines of a writer lay out the pieces `ps`: there are none while there is no piece, and
otherwise they join to the layout of `ps`, with a final line ending unless the last piece is a list
item's line, which the writer remembers. -/
structure LaysOut (ps : List Piece) (w : Writer) : Prop where
  nil : ps = [] → w.lines.toList = [] ∧ w.inList = false
  last : ∀ p, ps.getLast? = some p → w.lines.toList ≠ [] ∧ w.inList = p.item ∧
    "\n".intercalate w.lines.toList = Render.layout ps ++ (if p.item then "" else "\n")

theorem laysOut_start : LaysOut [] ({} : Writer) :=
  ⟨fun _ => ⟨rfl, rfl⟩, fun _ h => by simp at h⟩

theorem intercalate_concat {ls : List String} (h : ls ≠ []) (s : String) :
    "\n".intercalate (ls ++ [s]) = "\n".intercalate ls ++ "\n" ++ s := by
  rw [String.intercalate_append_of_ne_nil h (by simp), String.intercalate_singleton]

variable {ps : List Piece} {w : Writer}

@[simp] theorem endList_inList (w : Writer) : w.endList.inList = false := by
  unfold Writer.endList
  split
  · rfl
  · simp_all

/-- Closing a run of list items leaves the lines of the pieces so far with a final line ending. -/
theorem LaysOut.endList {p : Piece} (h : LaysOut ps w) (hp : ps.getLast? = some p) :
    w.endList.lines.toList ≠ [] ∧ w.endList.inList = false ∧
      "\n".intercalate w.endList.lines.toList = Render.layout ps ++ "\n" := by
  obtain ⟨hne, hin, htext⟩ := h.last p hp
  unfold Writer.endList
  split
  · rename_i hl
    rw [hin] at hl
    simp only [Array.toList_push, ne_eq, List.append_eq_nil_iff, List.cons_ne_self, and_false,
      not_false_eq_true, true_and]
    rw [intercalate_concat hne, htext, if_pos hl]
    simp
  · rename_i hl
    rw [hin] at hl
    rw [htext, if_neg hl]
    exact ⟨hne, by simpa [hin] using hl, rfl⟩

/-- A block that is not a list item's line goes on lines of its own after a blank line, and
is followed by one. For the first piece nothing was written before it. -/
theorem LaysOut.push_block {p : Piece} {ls : List String} (h : LaysOut ps w) (hp : p.item = false)
    (hls : ls ≠ []) (htext : "\n".intercalate ls = p.text) :
    LaysOut (ps ++ [p]) (w.endList.push (ls ++ [""])) := by
  refine ⟨fun he => absurd he (by simp), fun q hq => ?_⟩
  obtain rfl : p = q := by simpa using hq
  have hpush : (w.endList.push (ls ++ [""])).lines.toList = w.endList.lines.toList ++ (ls ++ [""]) := by
    simp [push]
  have hblock : "\n".intercalate (ls ++ [""]) = p.text ++ "\n" := by
    rw [intercalate_concat hls, htext, String.append_empty]
  refine ⟨by simp [hpush], by simp [push, hp], ?_⟩
  rw [hpush, if_neg (by simp [hp])]
  rcases hlast : ps.getLast? with _ | r
  · obtain ⟨hnil, hin⟩ := h.nil (List.getLast?_eq_none_iff.mp hlast)
    have hend : w.endList = w := by simp [Writer.endList, hin]
    rw [hend, hnil, List.nil_append, hblock, List.getLast?_eq_none_iff.mp hlast]
    rfl
  · obtain ⟨hne, -, hend⟩ := h.endList hlast
    rw [String.intercalate_append_of_ne_nil hne (by simp), hend, hblock, layout_concat p hlast,
      separator, if_neg (by simp [hp])]
    simp only [String.append_assoc]
    rfl

/-- A list item's line follows the line before it, and the writer remembers it. -/
theorem LaysOut.push_item {p : Piece} (h : LaysOut ps w) (hp : p.item = true) :
    LaysOut (ps ++ [p]) { w.push [p.text] with inList := true } := by
  refine ⟨fun he => absurd he (by simp), fun q hq => ?_⟩
  obtain rfl : p = q := by simpa using hq
  have hpush : ({ w.push [p.text] with inList := true } : Writer).lines.toList =
      w.lines.toList ++ [p.text] := by
    simp [push]
  refine ⟨by rw [hpush]; simp, hp.symm, ?_⟩
  rw [hpush, if_pos hp, String.append_empty]
  rcases hlast : ps.getLast? with _ | r
  · obtain ⟨hnil, -⟩ := h.nil (List.getLast?_eq_none_iff.mp hlast)
    rw [hnil, List.getLast?_eq_none_iff.mp hlast]
    simp [Render.layout]
  · obtain ⟨hne, -, htext⟩ := h.last r hlast
    rw [intercalate_concat hne, htext, layout_concat p hlast, separator]
    cases hr : r.item <;> simp [hp, String.append_assoc]

/-- A paragraph that shows is written as its piece: on a line of its own followed by a blank
line, or as a list item's line. -/
theorem paragraph_of_shows (lists : ListRegistry) (w : Writer) {p : Paragraph}
    (h : Text.allBlank p.text = false) :
    w.paragraph lists p = if (paragraphPiece lists p).item then
      { w.push [(paragraphPiece lists p).text] with inList := true }
    else w.endList.push [(paragraphPiece lists p).text, ""] := by
  rcases hl : p.namedStyle.bind NamedStyle.headingLevel with _ | level <;>
    rcases hb : p.bullet with _ | b <;> simp [Writer.paragraph, paragraphPiece, h, hl, hb]

variable (lists : ListRegistry)

/-- Each block adds its piece to the layout when it shows, and changes nothing when it does not. -/
theorem LaysOut.block (h : LaysOut ps w) (b : Block) :
    LaysOut (ps ++ ([b].filter Block.shows).map (piece lists)) (w.block lists b) := by
  cases hs : b.shows
  case false =>
    have hw : w.block lists b = w := by
      cases b with
      | paragraph p =>
        have hblank : Text.allBlank p.text = true := by simpa [Block.shows] using hs
        simp [Writer.block, Writer.paragraph, hblank]
      | table t =>
        have hrows : t.rows = [] := by simpa [Block.shows] using hs
        simp [Writer.block, Writer.table, hrows]
      | sectionBreak => simp [Block.shows] at hs
    simpa [hs, hw] using h
  case true =>
    simp only [List.filter_cons, hs, if_true, List.filter_nil, List.map_cons, List.map_nil]
    cases b with
    | paragraph p =>
      have hpiece : piece lists (.paragraph p) = paragraphPiece lists p := rfl
      rw [hpiece, Writer.block, paragraph_of_shows lists w (by simpa [Block.shows] using hs)]
      cases hi : (paragraphPiece lists p).item
      · rw [if_neg (by simp)]
        exact h.push_block hi (by simp : [(paragraphPiece lists p).text] ≠ []) (by simp)
      · rw [if_pos rfl]
        exact h.push_item hi
    | table t =>
      obtain ⟨first, rest, hrows⟩ := List.exists_cons_of_ne_nil (by simpa [Block.shows] using hs)
      have hw : w.block lists (.table t) = w.endList.push (tableLines t.rows ++ [""]) := by
        simp [Writer.block, Writer.table, hrows, tableLines]
      rw [hw]
      exact h.push_block rfl (by simp [hrows, tableLines]) rfl
    | sectionBreak =>
      have hw : w.block lists .sectionBreak = w.endList.push (["---"] ++ [""]) := rfl
      rw [hw]
      exact h.push_block rfl (by simp) (by simp [piece])

/-- The blocks written one after another add the pieces of those that show, in order. -/
theorem LaysOut.foldl_block (bs : List Block) (h : LaysOut ps w) :
    LaysOut (ps ++ (bs.filter Block.shows).map (piece lists)) (bs.foldl (Writer.block lists) w) := by
  induction bs generalizing ps w with
  | nil => simpa using h
  | cons b bs ih =>
    have hb := h.block lists b
    rw [List.foldl_cons, List.filter_cons]
    have := ih hb
    rw [List.append_assoc, ← List.map_append, ← List.filter_append] at this
    split <;> simpa [*] using this

/-- Dropping the line endings at the end of a text that ends in text, with one more line ending
or none, gives the text back. -/
theorem dropTrailing_newlines {s t : String} (hs : EndsInText s) (ht : t = "" ∨ t = "\n") :
    ((s ++ t).toList.reverse.dropWhile (· == '\n')).reverse = s.toList := by
  obtain ⟨ch, hch, hne⟩ := hs
  obtain ⟨init, hinit⟩ : ∃ init, s.toList = init ++ [ch] :=
    ⟨_, (List.dropLast_append_getLast? ch hch).symm⟩
  have hch' : (ch == '\n') = false := by simpa using hne
  rcases ht with rfl | rfl
  · simp [hinit, hch']
  · simp [String.toList_append, show "\n".toList = ['\n'] from rfl, hinit, hch']

/-- The finished Markdown: nothing when no piece was written, and otherwise the layout of the
pieces and one line ending. -/
theorem LaysOut.finish (h : LaysOut ps w) (hps : ∀ p ∈ ps, EndsInText p.text) :
    w.finish = if ps = [] then "" else Render.layout ps ++ "\n" := by
  unfold Writer.finish
  rcases hlast : ps.getLast? with _ | p
  · obtain ⟨hnil, -⟩ := h.nil (List.getLast?_eq_none_iff.mp hlast)
    rw [hnil, if_pos (List.getLast?_eq_none_iff.mp hlast)]
    rfl
  · have hne : ps ≠ [] := by simp [← List.getLast?_eq_none_iff, hlast]
    obtain ⟨-, -, htext⟩ := h.last p hlast
    have hends := EndsInText.layout hps hne
    have hbody := dropTrailing_newlines hends (t := if p.item then "" else "\n")
      (by split <;> simp)
    rw [htext, hbody, String.ofList_toList, if_neg hne]
    obtain ⟨ch, hch, -⟩ := hends
    have hnonempty : (Render.layout ps).isEmpty = false := by
      rw [Bool.eq_false_iff, ne_eq, String.isEmpty_iff, ← String.toList_inj]
      intro he
      simp [he] at hch
    rw [if_neg (by simp [hnonempty])]

end Writer

/-- The Markdown of a document is the layout of its blocks that show: the section breaks, the
tables with a row and the paragraphs with a character that is not white space, each written as a
rule, a table's lines, a heading, a list item's line or a plain text, with one line ending between
two list items' lines and a blank line between any other two. It is empty when no block shows,
and otherwise ends in exactly one line ending. -/
theorem render_eq_layout (d : DocumentModel) :
    render d = if pieces d = [] then "" else layout (pieces d) ++ "\n" := by
  have hrun := Writer.laysOut_start.foldl_block d.lists d.blocks
  rw [List.nil_append] at hrun
  refine hrun.finish fun p hp => ?_
  obtain ⟨b, hb, rfl⟩ := List.mem_map.mp hp
  exact piece_endsInText d.lists (List.mem_filter.mp hb).2

/-- Two items' lines follow each other; the blank paragraph between the second item and the plain
paragraph is skipped, and the plain paragraph still closes the list with a blank line. -/
example : render { blocks := [.paragraph { bullet := some ⟨"l", 0⟩, runs := [.plain "a"] },
    .paragraph { bullet := some ⟨"l", 1⟩, runs := [.plain "b"] },
    .paragraph { runs := [.plain " "] }, .paragraph { runs := [.plain "c"] }] } =
      "- a\n  - b\n\nc\n" := by
  decide +kernel

end Render

end DocBridge
