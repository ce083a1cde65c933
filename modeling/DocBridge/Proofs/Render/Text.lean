import DocBridge.Proofs.Text.Visible
import DocBridge.Render.Document
import Mathlib.Data.List.Flatten

/-!
# Rendering keeps the text of a document

The renderer writes Markdown around the text of a document: emphasis and code markers and a
link's target around a run, `#` before a heading, an indent and a marker before an item, pipes
between the cells of a table, rules and blank lines. It moves white space too: a run keeps its
line ending outside its markers, paragraphs and cells are trimmed, a line ending inside a cell
becomes a space, and the document loses its trailing line endings. It never drops or reorders a
character that is not white space.

`DocumentModel.text` is the text of a document: the texts of its runs, paragraph by paragraph
and, in a table, row by row and cell by cell. `formatRun_visible` says that a run's text shows
inside what the run is written as, and `Writer.block_shown` that a block adds lines that show
what the block holds (`Writer.shown`: the visible characters of the lines so far), whatever the
styles, the bullets, the list registry or the shape of a table. `render_keeps_visible_text` is
the result: the visible characters of a document's text form a subsequence of its Markdown.
-/

namespace DocBridge

namespace Model

/-- The runs of a block in reading order: a paragraph's runs, and a table's row by row and cell
by cell. -/
def Block.runs : Block → List InlineRun
  | .paragraph p => p.runs
  | .table t => t.rows.flatMap fun row => row.cells.flatMap (·.runs)
  | .sectionBreak => []

/-- The text of a document: the texts of its runs, block after block. -/
def DocumentModel.text (d : DocumentModel) : String :=
  String.join ((d.blocks.flatMap Block.runs).map (·.text))

end Model

namespace Render

open Model

/-- The visible characters of the texts of runs, in order. -/
def runsShown (rs : List InlineRun) : List Char :=
  rs.flatMap fun r => Text.visible r.text

theorem visible_text_eq_runsShown (rs : List InlineRun) :
    Text.visible (String.join (rs.map (·.text))) = runsShown rs := by
  rw [Text.visible_join, List.flatMap_map]
  rfl

/-! ## Runs and cells -/

/-- Setting a trailing line ending apart keeps what a text shows. -/
theorem visible_splitLineEnding (s : String) :
    Text.visible (splitLineEnding s).1 ++ Text.visible (splitLineEnding s).2 = Text.visible s := by
  unfold splitLineEnding
  split
  · rename_i h
    rw [Text.visible_newline, List.append_nil, Text.visible, String.toList_ofList]
    exact Text.visible_of_endsWith '\n' (by decide) h
  · rw [Text.visible_empty, List.append_nil]

/-- A run's text shows inside what the run is written as: the markers and the link's target
only stand around it. Emphasis, strikethrough, the underline tag and the link each wrap what the one
before wrote. -/
theorem formatRun_visible (r : InlineRun) :
    (Text.visible r.text).Sublist (Text.visible (formatRun r)) := by
  rcases hs : splitLineEnding r.text with ⟨body, ending⟩
  have hsplit := visible_splitLineEnding r.text
  rw [hs] at hsplit
  unfold formatRun
  rw [hs]
  dsimp -zeta only
  split
  · exact List.Sublist.refl _
  rw [← hsplit]
  split
  · rw [Text.visible_append _ ending]
    exact (Text.visible_sublist_wrap "`" body "`").append (List.Sublist.refl _)
  extract_lets emph struck under linked
  have hemph : (Text.visible body).Sublist (Text.visible emph) := by
    simp only [emph]
    split
    · exact Text.visible_sublist_wrap _ _ _
    · exact Text.visible_sublist_wrap _ _ _
    · exact Text.visible_sublist_wrap _ _ _
    · exact List.Sublist.refl _
  have hstruck : (Text.visible body).Sublist (Text.visible struck) := by
    simp only [struck]
    split
    · exact hemph.trans (Text.visible_sublist_wrap _ _ _)
    · exact hemph
  have hunder : (Text.visible body).Sublist (Text.visible under) := by
    simp only [under]
    split
    · exact hstruck.trans (Text.visible_sublist_wrap _ _ _)
    · exact hstruck
  have hlinked : (Text.visible body).Sublist (Text.visible linked) := by
    simp only [linked]
    split
    · rename_i url _
      have hwrap := Text.visible_sublist_wrap "[" under ("](" ++ url ++ ")")
      simp only [String.append_assoc] at hwrap ⊢
      exact hunder.trans hwrap
    · exact hunder
  rw [Text.visible_append]
  exact hlinked.append (List.Sublist.refl _)

theorem formatRuns_visible (rs : List InlineRun) :
    (runsShown rs).Sublist (Text.visible (formatRuns rs)) := by
  rw [formatRuns, Text.visible_join, List.flatMap_map]
  exact List.Sublist.flatMap_right rs fun r _ => formatRun_visible r

/-- A line ending inside a cell becomes a space, which shows nothing either. -/
theorem visible_map_newline (s : String) :
    Text.visible (s.map fun ch => if ch = '\n' then ' ' else ch) = Text.visible s := by
  rw [Text.visible, String.toList_map, Text.visible]
  induction s.toList with
  | nil => rfl
  | cons ch cs ih =>
    by_cases h : ch = '\n'
    · subst h
      simp [ih, show Text.isBlank ' ' = true by decide,
        show Text.isBlank '\n' = true by decide]
    · simp [List.filter_cons, ih, h]

end Render

/-! ## Lines -/

namespace Render.Writer

open Model

/-- The visible characters of the lines written so far. -/
def shown (w : Writer) : List Char :=
  w.lines.toList.flatMap Text.visible

@[simp] theorem shown_push (w : Writer) (ls : List String) :
    (w.push ls).shown = w.shown ++ ls.flatMap Text.visible := by
  simp [shown, push]

@[simp] theorem shown_with_inList (w : Writer) (b : Bool) :
    ({ w with inList := b } : Writer).shown = w.shown := rfl

@[simp] theorem shown_endList (w : Writer) : w.endList.shown = w.shown := by
  unfold endList
  split
  · simp [shown]
  · rfl

theorem cellText_visible (c : TableCell) : (runsShown c.runs).Sublist (Text.visible (cellText c)) := by
  rw [cellText, Text.visible_trim, visible_map_newline]
  exact formatRuns_visible c.runs

/-- A row shows what its cells show, between the pipes. -/
theorem row_visible (r : TableRow) :
    (runsShown (r.cells.flatMap (·.runs))).Sublist (Text.visible (row (r.cells.map cellText))) := by
  rw [row, runsShown, List.flatMap_assoc]
  refine List.Sublist.trans ?_ (Text.visible_sublist_wrap _ _ _)
  refine List.Sublist.trans ?_ (flatMap_visible_sublist_intercalate _ _)
  rw [List.flatMap_map]
  exact List.Sublist.flatMap_right r.cells fun c _ => cellText_visible c

/-- A text shows inside the lines that hold it. -/
theorem sublist_flatMap_of_mem {ls : List String} {l : String} (h : l ∈ ls) :
    (Text.visible l).Sublist (ls.flatMap Text.visible) := by
  simpa using (List.singleton_sublist.mpr h).flatMap Text.visible

variable (lists : ListRegistry)

/-- A paragraph adds lines that show its text: after the heading marks, or the item's indent and
marker, or nothing. -/
theorem paragraph_shown (w : Writer) (p : Paragraph) :
    ∃ extra, (w.paragraph lists p).shown = w.shown ++ extra ∧
      (runsShown p.runs).Sublist extra := by
  rw [← visible_text_eq_runsShown, ← Paragraph.text]
  unfold paragraph
  split
  · rename_i hblank
    exact ⟨[], by simp, by simp [Text.visible_of_allBlank hblank]⟩
  extract_lets text
  have htext : (Text.visible p.text).Sublist (Text.visible text) := by
    simp only [text, Text.visible_trim, Paragraph.text, visible_text_eq_runsShown]
    exact formatRuns_visible p.runs
  split
  · refine ⟨_, by rw [shown_push, shown_endList], htext.trans ?_⟩
    refine List.Sublist.trans ?_ (sublist_flatMap_of_mem List.mem_cons_self)
    simp
  · refine ⟨_, by rw [shown_with_inList, shown_push], htext.trans ?_⟩
    refine List.Sublist.trans ?_ (sublist_flatMap_of_mem List.mem_cons_self)
    simp
  · refine ⟨_, by rw [shown_push, shown_endList], htext.trans ?_⟩
    exact sublist_flatMap_of_mem List.mem_cons_self

/-- A table adds lines that show its cells, row by row: the separator row after the first one
adds dashes only. -/
theorem table_shown (w : Writer) (t : Table) :
    ∃ extra, (w.table t).shown = w.shown ++ extra ∧
      (runsShown ((Block.table t).runs)).Sublist extra := by
  unfold table
  split
  · rename_i hrows
    exact ⟨[], by simp, by simp [Block.runs, hrows, runsShown]⟩
  rename_i first rest hrows
  have hrest : (runsShown (rest.flatMap fun r => r.cells.flatMap (·.runs))).Sublist
      ((rest.map fun r => row (r.cells.map cellText)).flatMap Text.visible) := by
    rw [runsShown, List.flatMap_assoc, List.flatMap_map]
    exact List.Sublist.flatMap_right rest fun r _ => row_visible r
  refine ⟨_, by rw [shown_push, shown_endList], ?_⟩
  rw [Block.runs, hrows, List.flatMap_cons, runsShown, List.flatMap_append, ← runsShown,
    ← runsShown]
  simp only [List.cons_append, List.flatMap_cons, List.flatMap_append, List.flatMap_nil,
    Text.visible_empty, List.append_nil, List.nil_append]
  exact (row_visible first).append (hrest.trans (List.sublist_append_right _ _))

/-- Each block adds lines that show what it holds. -/
theorem block_shown (w : Writer) (b : Block) :
    ∃ extra, (w.block lists b).shown = w.shown ++ extra ∧ (runsShown b.runs).Sublist extra := by
  cases b with
  | paragraph p => exact paragraph_shown lists w p
  | table t => exact table_shown w t
  | sectionBreak => exact ⟨_, by rw [block, shown_push, shown_endList], by simp [Block.runs, runsShown]⟩

/-- Blocks written one after another add lines that show what they hold, in order. -/
theorem foldl_block_shown (bs : List Block) (w : Writer) :
    ∃ extra, (bs.foldl (block lists) w).shown = w.shown ++ extra ∧
      (runsShown (bs.flatMap Block.runs)).Sublist extra := by
  induction bs generalizing w with
  | nil => exact ⟨[], by simp, by simp [runsShown]⟩
  | cons b bs ih =>
    obtain ⟨e₁, h₁, hs₁⟩ := block_shown lists w b
    obtain ⟨e₂, h₂, hs₂⟩ := ih (w.block lists b)
    refine ⟨e₁ ++ e₂, by rw [List.foldl_cons, h₂, h₁, List.append_assoc], ?_⟩
    rw [List.flatMap_cons, runsShown, List.flatMap_append]
    exact hs₁.append hs₂

/-- The finished Markdown shows what its lines show: the lines are joined by line endings, and
only line endings are dropped from its end or added. -/
theorem visible_finish (w : Writer) : Text.visible w.finish = w.shown := by
  unfold finish
  extract_lets body
  have hbody : Text.visible body = w.shown := by
    simp only [body]
    rw [Text.visible, String.toList_ofList, List.filter_reverse,
      Text.filter_dropWhile fun ch h => by rw [beq_iff_eq.mp h]; decide, ← List.filter_reverse,
      List.reverse_reverse, String.toList_intercalate, show "\n".toList = ['\n'] from rfl,
      filter_intercalate (by decide), List.flatMap_map]
    rfl
  split
  · rename_i hempty
    rw [← hbody, String.isEmpty_iff.mp hempty]
  · rw [Text.visible_append, Text.visible_newline, List.append_nil, hbody]

end Render.Writer

namespace Render

open Model

/-- Rendering never drops or reorders visible text: the characters of a document's text that
are not white space form a subsequence of its Markdown, whatever its run styles, named styles,
bullets, list registry or table shapes. -/
theorem render_keeps_visible_text (d : DocumentModel) :
    (Text.visible d.text).Sublist (render d).toList := by
  obtain ⟨extra, hlines, hshown⟩ := Writer.foldl_block_shown d.lists d.blocks {}
  have hstart : ({} : Writer).shown = [] := rfl
  rw [hstart, List.nil_append] at hlines
  have hrender : Text.visible (render d) = extra := by
    rw [render, Writer.visible_finish, hlines]
  rw [DocumentModel.text, visible_text_eq_runsShown]
  refine hshown.trans ?_
  rw [← hrender]
  exact List.filter_sublist

end Render

end DocBridge
