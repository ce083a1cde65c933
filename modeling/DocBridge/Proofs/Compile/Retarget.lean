import DocBridge.Proofs.Compile.Step

/-!
# The tab only labels the operations

Every operation of a compilation names the tab it targets, and the tab is read nowhere
else: the compiler never branches on it. `EditOperation.retab` aims an operation at
another tab and `Compiler.retab` does the same for a whole state. Each operation of the
compiler commutes with `retab`, and so does the run and `finish`. `compile_retab` is the
result: compiling for tab `t` gives the operations of any other compilation of the same
stream, each aimed at `t`, and the same errors.
-/

namespace DocBridge

/-- The operation aimed at tab `t` instead. -/
def EditOperation.retab (t : Option String) : EditOperation → EditOperation
  | .insertText i s _ => .insertText i s t
  | .updateTextStyle r s => .updateTextStyle { r with tabId := t } s
  | .updateParagraphStyle r s => .updateParagraphStyle { r with tabId := t } s
  | .createBulletRange r p => .createBulletRange { r with tabId := t } p
  | .deleteContentRange r => .deleteContentRange { r with tabId := t }

namespace Compiler

/-- The compilation aimed at tab `t` instead. -/
@[simps]
def retab (t : Option String) (c : Compiler) : Compiler :=
  { c with tabId := t, inserts := c.inserts.map (EditOperation.retab t) }

variable {c : Compiler} {t : Option String}

theorem insert_retab (s : String) :
    (c.retab t).insert s = (c.insert s).map fun p => (p.1.retab t, p.2) := by
  unfold insert
  by_cases hs : s.isEmpty
  · simp [hs, Except.map]
  · simp only [retab_limit, retab_cursor]
    by_cases ho : Within c.limit (c.cursor + Text.units16 s)
    · rw [any_lt_eq_false_iff.mpr ho]
      simp [hs, Except.map, retab, EditOperation.retab]
    · have hany : c.limit.any (· < c.cursor + Text.units16 s) = true := by
        simpa [← any_lt_eq_false_iff] using ho
      rw [hany]
      simp [hs, Except.map]

theorem ensureLineStart_retab : (c.retab t).ensureLineStart = retab t <$> c.ensureLineStart := by
  unfold ensureLineStart
  cases h : c.atLineStart
  · simp only [retab_atLineStart, h, insert_retab]
    cases c.insert "\n" <;> rfl
  · simp [h]

theorem openHeading_retab (l : Nat) : (c.retab t).openHeading l = retab t <$> c.openHeading l := by
  unfold openHeading
  cases h : c.heading
  · simp [h, ensureLineStart_retab]
    rfl
  · simp [h]; rfl

theorem finishItemLine_retab :
    (c.retab t).finishItemLine = (fun p => (p.1.retab t, p.2)) <$> c.finishItemLine := by
  unfold finishItemLine
  cases h : c.atLineStart
  · simp only [retab_atLineStart, h, insert_retab, retab_cursor]
    cases c.insert "\n" <;> rfl
  · simp [h]

theorem recordHeading_retab (h : OpenHeading) :
    (c.retab t).recordHeading h = (c.recordHeading h).retab t := rfl

theorem closeHeading_retab : (c.retab t).closeHeading = retab t <$> c.closeHeading := by
  cases hh : c.heading with
  | none => simp [closeHeading, hh]
  | some h =>
    rw [closeHeading_of_some hh, closeHeading_of_some (by simpa using hh), recordHeading_retab,
      insert_retab]
    cases (c.recordHeading h).insert "\n" <;> rfl

theorem setItemStop_retab (idx e : Nat) : (c.retab t).setItemStop idx e = (c.setItemStop idx e).retab t :=
  rfl

theorem endItemLine_retab : (c.retab t).endItemLine = retab t <$> c.endItemLine := by
  unfold endItemLine
  simp only [retab_openItems, retab_items]
  rcases c.openItems with _ | ⟨idx, rest⟩
  · rfl
  · rcases hi : c.items[idx]? with _ | item
    · simp only [hi]; rfl
    · cases hs : item.stop
      · simp [hi, hs, finishItemLine_retab, setItemStop_retab]
      · simp [hi, hs]

theorem openList_retab (k : ListKind) : (c.retab t).openList k = retab t <$> c.openList k := by
  simp [openList_eq, endItemLine_retab, ensureLineStart_retab]
  rfl

theorem openItem_retab : (c.retab t).openItem = retab t <$> c.openItem := by
  unfold openItem
  simp only [retab_lists]
  rcases c.lists with _ | ⟨frame, rest⟩
  · rfl
  · simp only [ensureLineStart_retab, bind_map_left, map_bind, insert_retab]
    congr 1
    funext e
    cases e.insert (String.ofList (List.replicate frame.level '\t')) <;> rfl

theorem closeItem_retab : (c.retab t).closeItem = retab t <$> c.closeItem := by
  have hr : ∀ rest, ({ c.retab t with openItems := rest } : Compiler) =
      ({ c with openItems := rest } : Compiler).retab t := fun _ => rfl
  rcases h : c.openItems with _ | ⟨idx, rest⟩
  · rw [closeItem_of_nil h, closeItem_of_nil (by simpa using h)]; rfl
  · have h' : (c.retab t).openItems = idx :: rest := by simpa using h
    rcases hi : c.items[idx]? with _ | item
    · rw [closeItem_of_missing h hi, closeItem_of_missing h' (by simpa using hi), hr]; rfl
    · have hi' : (c.retab t).items[idx]? = some item := by simpa using hi
      cases hs : item.stop
      · rw [closeItem_of_open h hi hs, closeItem_of_open h' hi' hs, hr, finishItemLine_retab]
        simp [setItemStop_retab]
      · have he : item.stop.isSome := by simp [hs]
        rw [closeItem_of_ended h hi he, closeItem_of_ended h' hi' he, hr, ensureLineStart_retab]

theorem insertStyled_retab (s : String) (f : InlineFormat) :
    (c.retab t).insertStyled s f = retab t <$> c.insertStyled s f := by
  unfold insertStyled
  rw [insert_retab]
  cases c.insert s with
  | error e => rfl
  | ok p =>
    obtain ⟨d, sp⟩ := p
    by_cases hc : (!sp.isEmpty && !f.isPlain) = true <;> simp only [Except.map, ok_bind, hc] <;> rfl

theorem takeTaskPrefix_retab (s : String) :
    (c.retab t).takeTaskPrefix s = ((c.takeTaskPrefix s).1.retab t, (c.takeTaskPrefix s).2) := by
  unfold takeTaskPrefix
  simp only [retab_openItems, retab_items]
  split
  · rfl
  · split
    · rfl
    · split
      · rfl
      · split
        · rfl
        · split <;> rfl

theorem addText_retab (s : String) : (c.retab t).addText s = retab t <$> c.addText s := by
  rw [addText_eq, addText_eq, takeTaskPrefix_retab, insertStyled_retab]
  rfl

theorem codeLineStep_retab (line : String) :
    (c.retab t).codeLineStep line = retab t <$> c.codeLineStep line := by
  unfold codeLineStep
  rw [insert_retab]
  cases c.insert (codeLine line ++ "\n") <;> rfl

theorem foldlM_codeLineStep_retab (lines : List String) :
    lines.foldlM codeLineStep (c.retab t) = retab t <$> lines.foldlM codeLineStep c :=
  foldlM_hom (retab t) (fun _ line => codeLineStep_retab line) lines c

theorem addCode_retab (content : String) : (c.retab t).addCode content = retab t <$> c.addCode content := by
  simp only [addCode_eq, ensureLineStart_retab, bind_map_left, foldlM_codeLineStep_retab, map_bind]
  congr 1; funext e; congr 1; funext e'
  rw [insert_retab]
  cases e'.insert "\n" <;> rfl

theorem step_retab (tok : Token) : (c.retab t).step tok = retab t <$> c.step tok := by
  cases tok <;> simp only [step, openHeading_retab, closeHeading_retab, ensureLineStart_retab,
    addText_retab, insertStyled_retab, openList_retab, openItem_retab, closeItem_retab,
    addCode_retab, retab_marks]
  case softBreak | hardBreak =>
    rw [insert_retab]
    cases c.insert _ <;> rfl
  case rule =>
    simp only [bind_map_left, map_bind]
    congr 1; funext e
    rw [insert_retab]
    cases e.insert "\n" <;> rfl
  all_goals rfl

theorem run_retab (ts : List Token) : ts.foldlM step (c.retab t) = retab t <$> ts.foldlM step c :=
  foldlM_hom (retab t) (fun _ tok => step_retab tok) ts c

/-- Finishing a state given another tab gives the operations with that tab: the insertions and the
heading, rule and bullet ranges differ only by the tab, and the text styles need a look at each
range's decoration and link. -/
theorem finish_retab : (c.retab t).finish = c.finish.map (EditOperation.retab t) := by
  simp only [finish, retab_inserts, retab_tabId, retab_textRanges, retab_headingRanges,
    retab_ruleRanges, retab_items, Array.toList_map, List.map_append, List.map_flatMap, List.map_map]
  congr 5
  funext r
  cases r.format.decoration <;> cases r.format.link <;> rfl

theorem start_retab (o : CompileOptions) : start { o with tabId := t } = (start o).retab t := by
  simp [start, retab]

end Compiler

theorem compile_retab (T : List Token) (o : CompileOptions) (t : Option String) :
    compile T { o with tabId := t } = List.map (EditOperation.retab t) <$> compile T o := by
  unfold compile
  simp only
  split
  · rfl
  · split
    · rfl
    · rw [Compiler.start_retab, Compiler.run_retab]
      cases (Token.flatten T).foldlM Compiler.step (Compiler.start o) <;>
        simp [Except.map, Functor.map, Compiler.finish_retab]

end DocBridge
