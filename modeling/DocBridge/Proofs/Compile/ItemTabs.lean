import DocBridge.Proofs.Compile.LineStarts
import DocBridge.Proofs.Compile.BulletCoverage

/-!
# Each item's line begins with its level in tabs

An item opens a new line and inserts one tab per level of nesting there; the remote side reads
the tabs back as the item's level. The level of an item is the number of lists open around it,
less one: `itemLevels` counts the open lists along the stream, one more at each list open and
one fewer at each list close, and notes the count less one at each item. The compiler keeps the
same count in its list frames, whose levels number them from the outermost (`LevelsAgree`).

`compile_item_lines_tabbed` is the result: every item the compiler records has the level the
stream gives it, and its line starts at a line start of the inserted text and begins with that
many tabs. Only the item's first line gets them: a second paragraph of the item, a line of a code
block in it, or a heading after its tabs starts a line with no tabs of its own, and the item's
own content may begin with a tab (`item_line_tabs_counterexample`).
-/

namespace DocBridge

/-! ## Levels read off the stream -/

/-- One token of the count of open lists, with the levels of the items so far: a list open adds
one, a list close takes one away, and an item notes the count less one. -/
def levelStep (p : Nat × List Nat) : Token → Nat × List Nat
  | .bulletListOpen | .orderedListOpen => (p.1 + 1, p.2)
  | .bulletListClose | .orderedListClose => (p.1 - 1, p.2)
  | .itemOpen => (p.1, p.2 ++ [p.1 - 1])
  | _ => p

/-- The nesting level of every item of a stream, in the order the items open: the number of lists
open around it, less one. -/
def itemLevels (T : List Token) : List Nat :=
  ((Token.flatten T).foldl levelStep (0, [])).2

/-- The tokens that open or close a list. -/
def Token.isListBoundary : Token → Bool
  | .bulletListOpen | .orderedListOpen | .bulletListClose | .orderedListClose => true
  | _ => false

example : itemLevels [.bulletListOpen, .itemOpen, .bulletListOpen, .itemOpen, .itemClose,
    .bulletListClose, .itemClose, .itemOpen, .itemClose, .bulletListClose] = [0, 1, 0] := by
  decide

theorem Text.unitChars_tabs (n : Nat) : Text.unitChars (Compiler.tabs n) = List.replicate n '\t' := by
  simp [Text.unitChars, Compiler.tabs, Text.charUnits, List.flatMap_replicate]

namespace Compiler

variable {c d : Compiler} {lo : Nat}

/-! ## Where items start, and their levels -/

/-- Where each item's line starts, and its level, in the order the items opened. -/
def heads (c : Compiler) : List (Nat × Nat) :=
  c.items.toList.map fun i => (i.start, i.level)

@[simp] theorem heads_put (s : String) : (c.put s).heads = c.heads := rfl

theorem heads_setItemStop (idx n : Nat) : (c.setItemStop idx n).heads = c.heads := by
  apply List.ext_getElem?
  intro j
  simp only [heads, setItemStop, Array.toList_modify, List.getElem?_map, List.getElem?_modify]
  cases c.items.toList[j]? <;> by_cases h : idx = j <;> simp [h]

/-- Looking at a task prefix changes the preset of an item, never where it starts or its level. -/
theorem heads_takeTaskPrefix (s : String) : (c.takeTaskPrefix s).1.heads = c.heads :=
  map_items_takeTaskPrefix _ (fun _ _ _ => rfl) s

/-- A new item adds its start and its level last. -/
theorem heads_pushItem (i : ListItem) (l : List Nat) :
    ({ c with items := c.items.push i, openItems := l } : Compiler).heads =
      c.heads ++ [(i.start, i.level)] := by
  simp [heads]

theorem heads_of_insert {s : String} {sp : Span} (h : c.insert s = .ok (d, sp)) :
    d.heads = c.heads ∧ d.lists = c.lists := by
  rcases insert_cases h with rfl | rfl <;> simp

theorem heads_of_ensureLineStart (h : c.ensureLineStart = .ok d) :
    d.heads = c.heads ∧ d.lists = c.lists := by
  rcases ensureLineStart_cases h with rfl | rfl <;> simp

theorem heads_of_finishItemLine {e : Compiler} {idx n : Nat} (h : c.finishItemLine = .ok (e, n)) :
    (e.setItemStop idx n).heads = c.heads ∧ (e.setItemStop idx n).lists = c.lists := by
  rcases finishItemLine_eq_ok.mp h with ⟨-, rfl, -⟩ | ⟨-, -, rfl, -⟩
  · exact ⟨heads_setItemStop idx n, rfl⟩
  · exact ⟨(heads_setItemStop idx n).trans (heads_put _), rfl⟩

theorem heads_of_endItemLine (h : c.endItemLine = .ok d) : d.heads = c.heads ∧ d.lists = c.lists := by
  rcases endItemLine_cases h with rfl | ⟨idx, e, n, hf, rfl⟩
  · exact ⟨rfl, rfl⟩
  · exact heads_of_finishItemLine hf

/-- Every token but an item open keeps where the items start and their levels; every token but a
list open or close keeps the open lists. -/
theorem step_heads {t : Token} (hs : c.step t = .ok d) :
    (t ≠ .itemOpen → d.heads = c.heads) ∧ (t.isListBoundary = false → d.lists = c.lists) := by
  by_cases hx : ∃ str, t = .text str
  · obtain ⟨str, rfl⟩ := hx
    rw [step, addText_eq] at hs
    have hl : (c.takeTaskPrefix str).1.lists = c.lists := by rw [takeTaskPrefix_fst]
    rcases insertStyled_eq_ok.mp hs with ⟨-, rfl⟩ | ⟨-, -, rfl⟩
    · exact ⟨fun _ => heads_takeTaskPrefix str, fun _ => hl⟩
    · exact ⟨fun _ => by simpa [heads] using heads_takeTaskPrefix (c := c) str,
        fun _ => by simpa using hl⟩
  cases hl : t.isListToken
  · obtain ⟨hls, hi, -⟩ := step_items_eq hs hl fun str h => hx ⟨str, h⟩
    exact ⟨fun _ => by simp [heads, hi], fun _ => hls⟩
  cases t <;> simp only [Token.isListToken, reduceCtorEq] at hl
  case bulletListOpen | orderedListOpen =>
    obtain ⟨e, h₁, e', h₂, rfl⟩ := openList_eq_ok.mp hs
    obtain ⟨hh₁, -⟩ := heads_of_endItemLine h₁
    obtain ⟨hh₂, -⟩ := heads_of_ensureLineStart h₂
    exact ⟨fun _ => hh₂.trans hh₁, fun h => by simp [Token.isListBoundary] at h⟩
  case bulletListClose | orderedListClose =>
    simp only [step, Except.ok.injEq] at hs
    subst hs
    exact ⟨fun _ => rfl, fun h => by simp [Token.isListBoundary] at h⟩
  case itemOpen =>
    obtain ⟨frame, rest, -, e, he, e', sp, he', rfl⟩ := openItem_eq_ok.mp hs
    exact ⟨fun h => absurd rfl h, fun _ =>
      ((heads_of_insert he').2).trans (heads_of_ensureLineStart he).2⟩
  case itemClose =>
    have hpop : ({ c with openItems := c.openItems.tail } : Compiler).heads = c.heads ∧
        ({ c with openItems := c.openItems.tail } : Compiler).lists = c.lists := ⟨rfl, rfl⟩
    rcases closeItem_cases hs with ⟨-, rfl⟩ | rfl | ⟨idx, e, n, hf, rfl⟩ | he
    · exact ⟨fun _ => rfl, fun _ => rfl⟩
    · exact ⟨fun _ => rfl, fun _ => rfl⟩
    · obtain ⟨hh, hls⟩ := heads_of_finishItemLine hf
      exact ⟨fun _ => hh.trans hpop.1, fun _ => hls.trans hpop.2⟩
    · obtain ⟨hh, hls⟩ := heads_of_ensureLineStart he
      exact ⟨fun _ => hh.trans hpop.1, fun _ => hls.trans hpop.2⟩

/-! ## The compiler's count of lists -/

/-- The compiler counts the lists as the stream does: as many frames as open lists, each frame
numbered by the frames below it, and every item at the level the stream gives it. -/
structure LevelsAgree (p : Nat × List Nat) (c : Compiler) : Prop where
  depth : c.lists.length = p.1
  frames : c.lists.map ListFrame.level = (List.range c.lists.length).reverse
  levels : c.heads.map Prod.snd = p.2

theorem levelsAgree_start (o : CompileOptions) : LevelsAgree (0, []) (start o) :=
  ⟨rfl, rfl, rfl⟩

theorem reverse_range_succ (n : Nat) :
    (List.range (n + 1)).reverse = n :: (List.range n).reverse := by
  rw [List.range_succ, List.reverse_append, List.reverse_singleton, List.singleton_append]

/-- The innermost open frame is numbered by the frames below it. -/
theorem frames_cons {f : ListFrame} {rest : List ListFrame}
    (h : (f :: rest).map ListFrame.level = (List.range (f :: rest).length).reverse) :
    f.level = rest.length ∧ rest.map ListFrame.level = (List.range rest.length).reverse := by
  simpa [reverse_range_succ] using h

theorem LevelsAgree.of_keep (h : LevelsAgree p c) (hh : d.heads = c.heads)
    (hl : d.lists = c.lists) : LevelsAgree p d :=
  ⟨hl ▸ h.depth, hl ▸ h.frames, hh ▸ h.levels⟩

/-- A list opens one level below the lists already open. -/
theorem LevelsAgree.openList (h : LevelsAgree p c) {k : ListKind} (ho : c.openList k = .ok d) :
    LevelsAgree (p.1 + 1, p.2) d := by
  obtain ⟨e, h₁, e', h₂, rfl⟩ := openList_eq_ok.mp ho
  obtain ⟨hh₁, hl₁⟩ := heads_of_endItemLine h₁
  obtain ⟨hh₂, hl₂⟩ := heads_of_ensureLineStart h₂
  have hl : e'.lists = c.lists := hl₂.trans hl₁
  refine ⟨by simp [hl, h.depth], ?_, ?_⟩
  · simp only [List.map_cons, List.length_cons, hl, h.frames, reverse_range_succ]
  · show e'.heads.map Prod.snd = p.2
    rw [hh₂, hh₁]
    exact h.levels

/-- A list close drops the innermost frame. -/
theorem LevelsAgree.closeList (h : LevelsAgree p c) :
    LevelsAgree (p.1 - 1, p.2) { c with lists := c.lists.drop 1 } := by
  refine ⟨by simp [h.depth], ?_, h.levels⟩
  have hf := h.frames
  rcases hc : c.lists with _ | ⟨f, rest⟩
  · rfl
  · rw [hc] at hf
    simpa using (frames_cons hf).2

/-- An item takes the level of the innermost frame: the number of frames around it, less one. -/
theorem LevelsAgree.openItem (h : LevelsAgree p c) (ho : c.openItem = .ok d) :
    LevelsAgree (p.1, p.2 ++ [p.1 - 1]) d := by
  obtain ⟨frame, rest, hc, e, he, e', sp, he', rfl⟩ := openItem_eq_ok.mp ho
  obtain ⟨hh₁, hl₁⟩ := heads_of_ensureLineStart he
  obtain ⟨hh₂, hl₂⟩ := heads_of_insert he'
  have hframe : frame.level = p.1 - 1 := by
    have hf := h.frames
    have hd := h.depth
    rw [hc] at hf hd
    rw [(frames_cons hf).1, ← hd, List.length_cons, Nat.add_sub_cancel]
  refine ⟨by simpa [hl₂, hl₁] using h.depth, by simpa [hl₂, hl₁] using h.frames, ?_⟩
  rw [heads_pushItem, List.map_append, hh₂, hh₁, h.levels, hframe]
  rfl

/-- Every step keeps the levels of the items in agreement with the walk: opening and closing a list
and opening an item move both, and every other token keeps the lists, the items and the count. -/
theorem step_levelsAgree (h : LevelsAgree p c) {t : Token} (hs : c.step t = .ok d) :
    LevelsAgree (levelStep p t) d := by
  cases t
  case bulletListOpen | orderedListOpen => exact h.openList hs
  case bulletListClose | orderedListClose =>
    simp only [step, Except.ok.injEq] at hs
    subst hs
    exact h.closeList
  case itemOpen => exact h.openItem hs
  all_goals
    obtain ⟨hh, hl⟩ := step_heads hs
    exact h.of_keep (hh (by simp)) (hl rfl)

theorem run_levelsAgree : ∀ {ts : List Token} {p : Nat × List Nat} {c d : Compiler},
    LevelsAgree p c → ts.foldlM step c = .ok d → LevelsAgree (ts.foldl levelStep p) d
  | [], _, _, _, h, hrun => by
    simp only [List.foldlM_nil, pure_eq_ok] at hrun
    exact hrun ▸ h
  | t :: ts, _, _, _, h, hrun => by
    rw [List.foldlM_cons, bind_eq_ok] at hrun
    obtain ⟨c₁, h₁, h₂⟩ := hrun
    rw [List.foldl_cons]
    exact run_levelsAgree (step_levelsAgree h h₁) h₂

/-! ## The tabs of each item -/

/-- Every item's line begins with one tab per level. -/
def Indented (c : Compiler) : Prop :=
  ∀ q ∈ c.heads, ∀ j < q.2, insertedChar c.inserts.toList (q.1 + j) = some '\t'

theorem Indented.of_grows (h : c.Indented) (hg : Grows c d) (hh : d.heads = c.heads) :
    d.Indented := fun q hq j hj => hg.insertedChar (h q (hh ▸ hq) j hj)

/-- An item opens where `ensureLineStart` leaves the cursor and puts its tabs there. The tabs are
the text inserted right at the item's start. -/
theorem Indented.openItem (h : c.Indented) (hL : OnLines lo c) (ho : c.openItem = .ok d) :
    d.Indented := by
  obtain ⟨frame, rest, -, e, he, e', sp, he', rfl⟩ := openItem_eq_ok.mp ho
  have hge := ensureLineStart_grows he
  have hg' := insert_grows he'
  have hend : e.EndsAtCursor := (hL.ensureLineStart he).1.endsAtCursor
  intro q hq j hj
  rw [heads_pushItem, List.mem_append, List.mem_singleton] at hq
  rcases hq with hq | rfl
  · have hq' : q ∈ c.heads := by
      rwa [(heads_of_insert he').1, (heads_of_ensureLineStart he).1] at hq
    exact hg'.insertedChar (hge.insertedChar (h q hq' j hj))
  · dsimp only at hj
    rcases insert_eq_ok.mp he' with ⟨hs, -⟩ | ⟨-, -, hr⟩
    · have : frame.level = 0 := by simpa [tabs] using congrArg String.length hs
      omega
    · obtain rfl := (Prod.mk.inj hr).1
      show insertedChar (e.put (tabs frame.level)).inserts.toList (e.cursor + j) = some '\t'
      rw [insertedChar_put hend, Text.unitChars_tabs, List.getElem?_replicate, if_pos hj]

theorem step_indented (h : c.Indented) (hL : OnLines lo c) {t : Token} (hs : c.step t = .ok d) :
    d.Indented := by
  by_cases ht : t = .itemOpen
  · subst ht
    exact h.openItem hL hs
  · exact h.of_grows (step_grows hs) ((step_heads hs).1 ht)

/-- Along a run the item lines stay on line starts, with their tabs. -/
theorem run_indented {ts : List Token} (h : c.Indented) (hL : OnLines lo c)
    (hR : RangesInside lo c) (hrun : ts.foldlM step c = .ok d) : d.Indented ∧ OnLines lo d :=
  (foldlM_invariant (fun c => c.Indented ∧ OnLines lo c ∧ RangesInside lo c)
    (fun _ _ _ hb hs => ⟨step_indented hb.1 hb.2.1 hs, step_onLines hb.2.1 hb.2.2 hs,
      step_rangesInside hb.2.2 hs⟩) ⟨h, hL, hR⟩ hrun).imp id And.left

end Compiler

/-- Every list item that a compilation records has the nesting level the stream gives it (the
number of lists open around it, less one), and its line starts at a line start of the inserted
text and begins with that many tabs. -/
theorem compile_item_lines_tabbed {T : List Token} {o : CompileOptions} {ops : List EditOperation}
    (h : compile T o = .ok ops) :
    ∃ items, compiledItems T o = .ok items ∧ ∀ (k : Nat) (i : ListItem), items[k]? = some i →
      (itemLevels T)[k]? = some i.level ∧ StartsLine ops o.startIndex i.start ∧
        ∀ j < i.level, insertedChar ops (i.start + j) = some '\t' := by
  unfold compile at h
  split at h
  · cases h
  rename_i hstart
  split at h
  · rename_i hblank
    cases h
    exact ⟨[], by rw [compiledItems, if_neg hstart, if_pos hblank], fun k i hi => by simp at hi⟩
  rename_i hblank
  obtain ⟨c, hrun, rfl⟩ := map_eq_ok.mp h
  refine ⟨c.items.toList, by rw [compiledItems, if_neg hstart, if_neg hblank, hrun]; rfl, ?_⟩
  obtain ⟨hI, hL⟩ := Compiler.run_indented (fun q hq => by simp [Compiler.heads, Compiler.start] at hq)
    (Compiler.onLines_start o) (Compiler.rangesInside_start o) hrun
  have hA := Compiler.run_levelsAgree (Compiler.levelsAgree_start o) hrun
  intro k i hi
  have hhead : (i.start, i.level) ∈ c.heads := List.mem_map_of_mem (List.mem_of_getElem? hi)
  refine ⟨?_, ?_, fun j hj => ?_⟩
  · have hl := congrArg (·[k]?) hA.levels
    simpa [Compiler.heads, hi, itemLevels] using hl.symm
  · exact Compiler.startsLine_finish.mpr (hL.items (i.start, i.stop)
      (List.mem_map_of_mem (List.mem_of_getElem? hi))).1
  · rw [Compiler.insertedChar_finish_eq_inserts]
    exact hI _ hhead j hj

/-- A list nested in a list item, compiled from offset 1: the inner item's line begins with one
tab. -/
theorem compile_item_lines_tabbed_nested :
    ∃ ops, compile [.bulletListOpen, .itemOpen, .inline [.text "a"], .bulletListOpen, .itemOpen,
        .inline [.text "b"], .itemClose, .bulletListClose, .itemClose, .bulletListClose] {} = .ok ops ∧
      ∃ items, compiledItems [.bulletListOpen, .itemOpen, .inline [.text "a"], .bulletListOpen,
          .itemOpen, .inline [.text "b"], .itemClose, .bulletListClose, .itemClose,
          .bulletListClose] {} = .ok items ∧
        ∀ (k : Nat) (i : ListItem), items[k]? = some i →
          (itemLevels [.bulletListOpen, .itemOpen, .inline [.text "a"], .bulletListOpen, .itemOpen,
            .inline [.text "b"], .itemClose, .bulletListClose, .itemClose,
            .bulletListClose])[k]? = some i.level ∧ StartsLine ops 1 i.start ∧
          ∀ j < i.level, insertedChar ops (i.start + j) = some '\t' := by
  obtain ⟨ops, hops⟩ := exists_eq_ok_of_isOk (by decide +kernel : (compile [.bulletListOpen,
    .itemOpen, .inline [.text "a"], .bulletListOpen, .itemOpen, .inline [.text "b"], .itemClose,
    .bulletListClose, .itemClose, .bulletListClose] {}).isOk = true)
  exact ⟨ops, hops, compile_item_lines_tabbed hops⟩

/-! ## What else an item's line holds -/

/-- Two nested items: the outer item's text is a code span that begins with a tab, and the inner
item holds two paragraphs. -/
def tabbedItemParagraphs : List Token :=
  [.bulletListOpen, .itemOpen, .inline [.codeInline "\tx"], .bulletListOpen, .itemOpen,
    .paragraphOpen, .inline [.text "a"], .paragraphClose, .paragraphOpen, .inline [.text "b"],
    .paragraphClose, .itemClose, .bulletListClose, .itemClose, .bulletListClose]

/-- Only an item's first line gets its tabs, and the item's text may add more. In the one bullet
range `[1, 8)` of `tabbedItemParagraphs`, the outer item's line, at level 0, begins with a tab,
and the line after the newline at 6, which the inner item at level 1 opened, begins with `b`. One
run of the compiler gives the items and the insertions; the bullet range is merged from the items by
`simp`, as the kernel does not evaluate the sort of two ranges. -/
theorem item_line_tabs_counterexample :
    WellNested tabbedItemParagraphs ∧
    compiledItems tabbedItemParagraphs {} =
      .ok [⟨1, some 3, 0, .unordered, false⟩, ⟨4, some 8, 1, .unordered, true⟩] ∧
    ∃ ops, compile tabbedItemParagraphs {} = .ok ops ∧
      EditOperation.createBulletRange ⟨⟨1, 8⟩, none⟩ .unordered ∈ ops ∧
      insertedChar ops 1 = some '\t' ∧ insertedChar ops 6 = some '\n' ∧
        insertedChar ops 7 = some 'b' := by
  have hrun : ((Token.flatten tabbedItemParagraphs).foldlM Compiler.step (Compiler.start {})).map
      (fun c => (c.items.toList, c.inserts.toList)) =
      .ok ([⟨1, some 3, 0, .unordered, false⟩, ⟨4, some 8, 1, .unordered, true⟩],
        [.insertText 1 "\tx" none, .insertText 3 "\n" none, .insertText 4 "\t" none,
          .insertText 5 "a" none, .insertText 6 "\n" none, .insertText 7 "b" none,
          .insertText 8 "\n" none]) := by
    decide +kernel
  obtain ⟨c, hc, he⟩ := map_eq_ok.mp hrun
  obtain ⟨hitems, hins⟩ := Prod.mk.inj he
  have htab : c.tabId = none := (Compiler.run_grows hc).1
  refine ⟨by decide, ?_, c.finish, ?_, ?_, ?_⟩
  · rw [compiledItems, if_neg (by decide), if_neg (by decide), hc, ← hitems]
    rfl
  · rw [compile, if_neg (by decide), if_neg (by decide), hc]
    rfl
  · simp [Compiler.finish, hitems, htab, mergeBulletRanges, ListItem.span?, mergeStep, List.mergeSort]
  · simp only [Compiler.insertedChar_finish_eq_inserts, hins]
    decide

/-- A quote after the text of a tight item opens no line of its own: its paragraph continues the
item's line, right after `a` and with no newline before it. -/
theorem quoted_paragraph_joins_item_line :
    WellNested [.bulletListOpen, .itemOpen, .inline [.text "a"], .quoteOpen, .paragraphOpen,
      .inline [.text "b"], .paragraphClose, .quoteClose, .itemClose, .bulletListClose] ∧
    compile [.bulletListOpen, .itemOpen, .inline [.text "a"], .quoteOpen, .paragraphOpen,
        .inline [.text "b"], .paragraphClose, .quoteClose, .itemClose, .bulletListClose] {} =
      .ok [.insertText 1 "a" none, .insertText 2 "b" none, .insertText 3 "\n" none,
        .createBulletRange ⟨⟨1, 3⟩, none⟩ .unordered] ∧
    ¬StartsLine [.insertText 1 "a" none, .insertText 2 "b" none, .insertText 3 "\n" none,
      .createBulletRange ⟨⟨1, 3⟩, none⟩ .unordered] 1 2 := by
  refine ⟨by decide, by decide +kernel, ?_⟩
  simp only [StartsLine]
  decide

end DocBridge
