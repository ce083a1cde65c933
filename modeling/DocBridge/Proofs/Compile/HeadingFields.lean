import DocBridge.Proofs.Compile.Faults

/-!
# The fields that style headings

Three fields of the compiler's state decide the heading styles, and only closing a heading reads or
writes them: whether the first top-level heading is to become the title, whether it has, and the
heading ranges so far. `Compiler.setHeadings` sets them, and every other operation commutes with it
(`step_setHeadings`), so no other step changes them (`step_headingFields`).

`Compiler.untitle` forgets the title: it turns the request off, and reads a title range as a
top-level heading (`NamedStyle.untitle`). Closing a heading commutes with it too, since the title
it may give is a heading of level 1; so every step does, and the run and `finish`, for a state
whose insertions are text. `compile_untitle` is the result: a compilation with the title asked for
has the outcome of one without it, the same error or the same operations, up to reading the title
as `HEADING_1` (`EditOperation.untitle`).
-/

namespace DocBridge

/-! ## Styles read without the title -/

/-- The title read as a top-level heading, every other style as it is. -/
def NamedStyle.untitle : NamedStyle → NamedStyle
  | .title => .heading 1
  | s => s

namespace EditOperation

/-- The operation gives its range the title style. -/
def isTitle : EditOperation → Bool
  | .updateParagraphStyle _ (.named .title) => true
  | _ => false

/-- The operation with the title style read as a top-level heading. -/
def untitle : EditOperation → EditOperation
  | .updateParagraphStyle r (.named s) => .updateParagraphStyle r (.named s.untitle)
  | op => op

/-- The operation with the top-level heading style of the range `r` made the title. -/
def entitle (r : Range) (op : EditOperation) : EditOperation :=
  if op = .updateParagraphStyle r (.named (.heading 1)) then .updateParagraphStyle r (.named .title)
  else op

theorem untitle_of_isTitle_eq_false {op : EditOperation} (h : op.isTitle = false) :
    op.untitle = op := by
  rcases op with _ | _ | ⟨r, s | _⟩ | _ | _ <;> try rfl
  cases s <;> first | rfl | simp [isTitle] at h

@[simp] theorem isTitle_untitle (op : EditOperation) : op.untitle.isTitle = false := by
  rcases op with _ | _ | ⟨r, s | _⟩ | _ | _ <;> try rfl
  cases s <;> rfl

theorem isTitle_of_isInsert {op : EditOperation} (h : op.isInsert = true) : op.isTitle = false := by
  cases op <;> first | rfl | simp [isInsert] at h

end EditOperation

/-! ## The fields that style headings -/

namespace Compiler

/-- The state with the fields that style headings set: whether the first top-level heading is
to become the title, whether it has, and the heading ranges. -/
@[simps]
def setHeadings (f k : Bool) (r : Array (Span × NamedStyle)) (c : Compiler) : Compiler :=
  { c with titleForFirstH1 := f, titleConsumed := k, headingRanges := r }

variable {c d : Compiler} {f k : Bool} {r : Array (Span × NamedStyle)}

theorem setHeadings_self : c.setHeadings c.titleForFirstH1 c.titleConsumed c.headingRanges = c :=
  rfl

theorem insert_setHeadings (s : String) :
    (c.setHeadings f k r).insert s = (c.insert s).map fun p => (p.1.setHeadings f k r, p.2) := by
  unfold insert
  by_cases hs : s.isEmpty
  · simp [hs, Except.map]
  · simp only [setHeadings_limit, setHeadings_cursor, hs]
    cases c.limit.any (· < c.cursor + Text.units16 s) <;> rfl

theorem ensureLineStart_setHeadings :
    (c.setHeadings f k r).ensureLineStart = setHeadings f k r <$> c.ensureLineStart := by
  unfold ensureLineStart
  cases h : c.atLineStart
  · simp only [setHeadings_atLineStart, h, insert_setHeadings]
    cases c.insert "\n" <;> rfl
  · simp [h]

theorem openHeading_setHeadings (l : Nat) :
    (c.setHeadings f k r).openHeading l = setHeadings f k r <$> c.openHeading l := by
  unfold openHeading
  cases h : c.heading
  · simp [h, ensureLineStart_setHeadings]
    rfl
  · simp [h]; rfl

theorem finishItemLine_setHeadings :
    (c.setHeadings f k r).finishItemLine =
      (fun p => (p.1.setHeadings f k r, p.2)) <$> c.finishItemLine := by
  unfold finishItemLine
  cases h : c.atLineStart
  · simp only [setHeadings_atLineStart, h, insert_setHeadings, setHeadings_cursor]
    cases c.insert "\n" <;> rfl
  · simp [h]

theorem setItemStop_setHeadings (idx e : Nat) :
    (c.setHeadings f k r).setItemStop idx e = (c.setItemStop idx e).setHeadings f k r :=
  rfl

theorem endItemLine_setHeadings :
    (c.setHeadings f k r).endItemLine = setHeadings f k r <$> c.endItemLine := by
  unfold endItemLine
  simp only [setHeadings_openItems, setHeadings_items]
  rcases c.openItems with _ | ⟨idx, rest⟩
  · rfl
  · rcases hi : c.items[idx]? with _ | item
    · simp only [hi]; rfl
    · cases hs : item.stop
      · simp [hi, hs, finishItemLine_setHeadings, setItemStop_setHeadings]
      · simp [hi, hs]

theorem openList_setHeadings (kind : ListKind) :
    (c.setHeadings f k r).openList kind = setHeadings f k r <$> c.openList kind := by
  simp [openList_eq, endItemLine_setHeadings, ensureLineStart_setHeadings]
  rfl

theorem openItem_setHeadings :
    (c.setHeadings f k r).openItem = setHeadings f k r <$> c.openItem := by
  unfold openItem
  simp only [setHeadings_lists]
  rcases c.lists with _ | ⟨frame, rest⟩
  · rfl
  · simp only [ensureLineStart_setHeadings, bind_map_left, map_bind, insert_setHeadings]
    congr 1
    funext e
    cases e.insert (String.ofList (List.replicate frame.level '\t')) <;> rfl

theorem closeItem_setHeadings :
    (c.setHeadings f k r).closeItem = setHeadings f k r <$> c.closeItem := by
  have hs : ∀ rest, ({ c.setHeadings f k r with openItems := rest } : Compiler) =
      ({ c with openItems := rest } : Compiler).setHeadings f k r := fun _ => rfl
  rcases h : c.openItems with _ | ⟨idx, rest⟩
  · rw [closeItem_of_nil h, closeItem_of_nil (by simpa using h)]; rfl
  · have h' : (c.setHeadings f k r).openItems = idx :: rest := by simpa using h
    rcases hi : c.items[idx]? with _ | item
    · rw [closeItem_of_missing h hi, closeItem_of_missing h' (by simpa using hi), hs]; rfl
    · have hi' : (c.setHeadings f k r).items[idx]? = some item := by simpa using hi
      cases hstop : item.stop
      · rw [closeItem_of_open h hi hstop, closeItem_of_open h' hi' hstop, hs,
          finishItemLine_setHeadings]
        simp [setItemStop_setHeadings]
      · have he : item.stop.isSome := by simp [hstop]
        rw [closeItem_of_ended h hi he, closeItem_of_ended h' hi' he, hs,
          ensureLineStart_setHeadings]

theorem insertStyled_setHeadings (s : String) (fmt : InlineFormat) :
    (c.setHeadings f k r).insertStyled s fmt = setHeadings f k r <$> c.insertStyled s fmt := by
  unfold insertStyled
  rw [insert_setHeadings]
  cases c.insert s with
  | error e => rfl
  | ok p =>
    obtain ⟨d, sp⟩ := p
    by_cases hc : (!sp.isEmpty && !fmt.isPlain) = true <;>
      simp only [Except.map, ok_bind, hc] <;> rfl

theorem takeTaskPrefix_setHeadings (s : String) :
    (c.setHeadings f k r).takeTaskPrefix s =
      ((c.takeTaskPrefix s).1.setHeadings f k r, (c.takeTaskPrefix s).2) := by
  unfold takeTaskPrefix
  simp only [setHeadings_openItems, setHeadings_items]
  split
  · rfl
  · split
    · rfl
    · split
      · rfl
      · split
        · rfl
        · split <;> rfl

theorem addText_setHeadings (s : String) :
    (c.setHeadings f k r).addText s = setHeadings f k r <$> c.addText s := by
  rw [addText_eq, addText_eq, takeTaskPrefix_setHeadings, insertStyled_setHeadings]
  rfl

theorem codeLineStep_setHeadings (line : String) :
    (c.setHeadings f k r).codeLineStep line = setHeadings f k r <$> c.codeLineStep line := by
  unfold codeLineStep
  rw [insert_setHeadings]
  cases c.insert (codeLine line ++ "\n") <;> rfl

theorem foldlM_codeLineStep_setHeadings (lines : List String) :
    lines.foldlM codeLineStep (c.setHeadings f k r) =
      setHeadings f k r <$> lines.foldlM codeLineStep c :=
  foldlM_hom (setHeadings f k r) (fun _ line => codeLineStep_setHeadings line) lines c

theorem addCode_setHeadings (content : String) :
    (c.setHeadings f k r).addCode content = setHeadings f k r <$> c.addCode content := by
  simp only [addCode_eq, ensureLineStart_setHeadings, bind_map_left,
    foldlM_codeLineStep_setHeadings, map_bind]
  congr 1; funext e; congr 1; funext e'
  rw [insert_setHeadings]
  cases e'.insert "\n" <;> rfl

/-- Every step but a heading close neither reads nor writes the fields that style headings. -/
theorem step_setHeadings {t : Token} (ht : t ≠ .headingClose) :
    (c.setHeadings f k r).step t = setHeadings f k r <$> c.step t := by
  cases t <;> simp only [step, openHeading_setHeadings, ensureLineStart_setHeadings,
    addText_setHeadings, insertStyled_setHeadings, openList_setHeadings, openItem_setHeadings,
    closeItem_setHeadings, addCode_setHeadings, setHeadings_marks]
  case headingClose => exact absurd rfl ht
  case softBreak | hardBreak =>
    rw [insert_setHeadings]
    cases c.insert _ <;> rfl
  case rule =>
    simp only [bind_map_left, map_bind]
    congr 1; funext e
    rw [insert_setHeadings]
    cases e.insert "\n" <;> rfl
  all_goals rfl

/-- So a step other than a heading close leaves those fields as they were. -/
theorem step_headingFields {t : Token} (ht : t ≠ .headingClose) (h : c.step t = .ok d) :
    d.titleForFirstH1 = c.titleForFirstH1 ∧ d.titleConsumed = c.titleConsumed ∧
      d.headingRanges = c.headingRanges := by
  have hs := step_setHeadings (c := c) (f := c.titleForFirstH1) (k := c.titleConsumed)
    (r := c.headingRanges) ht
  rw [setHeadings_self, h] at hs
  have hd : d = d.setHeadings c.titleForFirstH1 c.titleConsumed c.headingRanges :=
    Except.ok.inj hs
  rw [hd]
  exact ⟨rfl, rfl, rfl⟩


/-! ## Forgetting the title -/

/-- The state with the title forgotten: not asked for, not taken, and a title range read as a
top-level heading. -/
def untitle (c : Compiler) : Compiler :=
  c.setHeadings false false (c.headingRanges.map fun p => (p.1, p.2.untitle))

@[simp] theorem untitle_heading : c.untitle.heading = c.heading := rfl

@[simp] theorem untitle_cursor : c.untitle.cursor = c.cursor := rfl

/-- An insertion commutes with forgetting the title: it keeps the heading ranges, so setting them
forgets the title of the result. -/
theorem insert_untitle (s : String) :
    c.untitle.insert s = (c.insert s).map fun p => (p.1.untitle, p.2) := by
  rw [untitle, insert_setHeadings]
  cases h : c.insert s with
  | error e => rfl
  | ok p =>
    obtain ⟨d, sp⟩ := p
    have hr : d.headingRanges = c.headingRanges := by
      rcases insert_cases h with rfl | rfl <;> rfl
    simp only [Except.map, untitle, hr]

/-- Recording a heading commutes with forgetting the title: the title, when taken, is a heading of
level 1. -/
theorem recordHeading_untitle (h : OpenHeading) :
    c.untitle.recordHeading h = (c.recordHeading h).untitle := by
  simp only [untitle, recordHeading, setHeadings, Bool.and_false, Bool.false_and, Bool.or_false,
    Bool.false_eq_true, if_false]
  by_cases he : (⟨h.start, c.cursor⟩ : Span).isEmpty
  · simp [he]
  · simp only [he, Bool.false_eq_true, if_false, Array.map_push]
    congr 3
    split
    · rename_i ht
      simp only [Bool.and_eq_true, beq_iff_eq] at ht
      simp [NamedStyle.untitle, ht.1.1]
    · rfl

theorem closeHeading_untitle : c.untitle.closeHeading = untitle <$> c.closeHeading := by
  cases hh : c.heading with
  | none => simp [closeHeading, hh]
  | some h =>
    rw [closeHeading_of_some (by simpa using hh), closeHeading_of_some hh, recordHeading_untitle,
      insert_untitle]
    cases (c.recordHeading h).insert "\n" <;> rfl

theorem step_untitle (t : Token) : c.untitle.step t = untitle <$> c.step t := by
  by_cases ht : t = .headingClose
  · subst ht
    exact closeHeading_untitle
  · rw [untitle, step_setHeadings ht]
    cases hs : c.step t with
    | error e => rfl
    | ok d =>
      obtain ⟨-, -, hr⟩ := step_headingFields ht hs
      simp only [Functor.map, Except.map, untitle, hr]

theorem run_untitle (ts : List Token) : ts.foldlM step c.untitle = untitle <$> ts.foldlM step c :=
  foldlM_hom untitle (fun _ t => step_untitle t) ts c

/-- Forgetting the title before finishing forgets it in the operations: the heading styles are read
without the title, and the other operations are no title. -/
theorem finish_untitle (hi : ∀ op ∈ c.inserts.toList, op.isTitle = false) :
    c.untitle.finish = c.finish.map EditOperation.untitle := by
  have hins : c.inserts.toList.map EditOperation.untitle = c.inserts.toList :=
    (List.map_congr_left fun op hop => EditOperation.untitle_of_isTitle_eq_false (hi op hop)).trans
      (List.map_id' _)
  simp only [finish, untitle, setHeadings_inserts, setHeadings_tabId, setHeadings_textRanges,
    setHeadings_headingRanges, setHeadings_ruleRanges, setHeadings_items, Array.toList_map,
    List.map_append, List.map_map, List.map_flatMap, hins]
  congr 4
  refine List.flatMap_congr fun r _ => ?_
  cases r.format.decoration <;> cases r.format.link <;> rfl

theorem start_untitle (o : CompileOptions) :
    (start o).untitle = start { o with titleForFirstH1 := false } := by
  simp [start, untitle, setHeadings]

theorem isInsert_of_mem_placeTexts {i : Nat} {tab : Option String} {ss : List String}
    {op : EditOperation} (h : op ∈ placeTexts i tab ss) : op.isInsert = true := by
  induction ss generalizing i with
  | nil => simp [placeTexts] at h
  | cons s ss ih =>
    simp only [placeTexts, List.mem_cons] at h
    rcases h with rfl | h
    · rfl
    · exact ih h

/-- A run from the first state records insertions of text and nothing else. -/
theorem run_inserts_isInsert {o : CompileOptions} {ts : List Token}
    (h : ts.foldlM step (start o) = .ok d) : ∀ op ∈ d.inserts.toList, op.isInsert = true := by
  obtain ⟨-, texts, -, hins, -⟩ := run_grows h
  intro op hop
  rw [hins] at hop
  exact isInsert_of_mem_placeTexts (by simpa [start] using hop)

end Compiler

/-- A compilation with the title not asked for has the outcome of any other compilation of the
stream, with the title read as a top-level heading. -/
theorem compile_untitle (T : List Token) (o : CompileOptions) :
    compile T { o with titleForFirstH1 := false } =
      List.map EditOperation.untitle <$> compile T o := by
  unfold compile
  simp only
  split
  · rfl
  · split
    · rfl
    · rw [← Compiler.start_untitle, Compiler.run_untitle]
      cases h : (Token.flatten T).foldlM Compiler.step (Compiler.start o) with
      | error e => rfl
      | ok d =>
        simp [Except.map, Functor.map, Compiler.finish_untitle fun op hop =>
          EditOperation.isTitle_of_isInsert (Compiler.run_inserts_isInsert h op hop)]

end DocBridge
