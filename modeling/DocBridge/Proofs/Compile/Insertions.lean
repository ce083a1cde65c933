import DocBridge.Proofs.Compile.Retarget

/-!
# Insertions come first, one after another

The compiler inserts text at a cursor that only moves forward and records everything else
to emit after the last insertion. `placeTexts i tab texts` is the list of insertions of
`texts` placed one after another from offset `i`. `Compiler.Grows c d` says that `d` holds
the insertions of `c` followed by such a list, of non-empty texts, starting at `c`'s cursor;
every operation of the compiler grows the state (`step_grows`), and so does a whole run.

`compile_inserts_first` is the resulting shape of every compilation (`InsertsFirst`): a run of
insertions of non-empty texts, the `k`-th at the start index plus the UTF-16 units of the
texts before it, then operations that insert nothing, all on the requested tab, and the same
operations aimed at another tab when that tab is requested instead. A replacement is the
same at offset 1, after one deletion of the old body when the body holds text.
-/

namespace DocBridge

/-- Insertions of `texts` one after another from offset `i`, on tab `tab`: each text goes
where the one before it ends. -/
def placeTexts (i : Nat) (tab : Option String) : List String → List EditOperation
  | [] => []
  | s :: ss => .insertText i s tab :: placeTexts (i + Text.units16 s) tab ss

theorem placeTexts_append (i : Nat) (tab : Option String) (ss ts : List String) :
    placeTexts i tab (ss ++ ts) =
      placeTexts i tab ss ++ placeTexts (i + (ss.map Text.units16).sum) tab ts := by
  induction ss generalizing i with
  | nil => simp [placeTexts]
  | cons s ss ih => simp [placeTexts, ih, Nat.add_assoc]

/-- The `k`-th insertion is at `i` plus the units of the texts before it. -/
theorem getElem?_placeTexts (i : Nat) (tab : Option String) (ss : List String) (k : Nat)
    (hk : k < ss.length) :
    (placeTexts i tab ss)[k]? = some (.insertText (i + ((ss.take k).map Text.units16).sum) ss[k] tab) := by
  induction ss generalizing i k with
  | nil => simp at hk
  | cons s ss ih =>
    cases k with
    | zero => simp [placeTexts]
    | succ k =>
      simp only [placeTexts, List.getElem?_cons_succ, List.getElem_cons_succ, List.take_succ_cons,
        List.map_cons, List.sum_cons]
      rw [ih (i + Text.units16 s) k (by simpa using hk)]
      simp [Nat.add_assoc]

@[simp] theorem length_placeTexts (i : Nat) (tab : Option String) (ss : List String) :
    (placeTexts i tab ss).length = ss.length := by
  induction ss generalizing i with
  | nil => rfl
  | cons s ss ih => simp [placeTexts, ih]

/-- An insertion. -/
def EditOperation.isInsert : EditOperation → Bool
  | .insertText .. => true
  | _ => false

/-- The operations insert non-empty texts one after another from offset `start` (the `k`-th
at `start` plus the UTF-16 units of the texts before it), then do anything but insert, all
on tab `tab`. -/
def InsertsFirst (start : Nat) (tab : Option String) (ops : List EditOperation) : Prop :=
  ∃ texts : List String, (∀ s ∈ texts, s ≠ "") ∧
    (∀ k (hk : k < texts.length), ops[k]? =
      some (.insertText (start + ((texts.take k).map Text.units16).sum) texts[k] tab)) ∧
    (∀ op ∈ ops.drop texts.length, op.isInsert = false) ∧
    ∀ op ∈ ops, op.tabId = tab

namespace Compiler

/-- `d` is `c` with the non-empty `texts` inserted after the insertions `c` holds, one after
another from `c`'s cursor, on the same tab. -/
def Grows (c d : Compiler) : Prop :=
  d.tabId = c.tabId ∧ ∃ texts : List String, (∀ s ∈ texts, s ≠ "") ∧
    d.inserts.toList = c.inserts.toList ++ placeTexts c.cursor c.tabId texts ∧
    d.cursor = c.cursor + (texts.map Text.units16).sum

variable {c d e : Compiler}

theorem Grows.refl (c : Compiler) : Grows c c := ⟨rfl, [], by simp, by simp [placeTexts], by simp⟩

theorem Grows.trans (h₁ : Grows c d) (h₂ : Grows d e) : Grows c e := by
  obtain ⟨ht₁, ss, hs, hi, hc⟩ := h₁
  obtain ⟨ht₂, ts, hts, hi', hc'⟩ := h₂
  refine ⟨ht₂.trans ht₁, ss ++ ts, ?_, ?_, ?_⟩
  · intro s hm
    rcases List.mem_append.mp hm with hm | hm
    · exact hs s hm
    · exact hts s hm
  · rw [hi', hi, placeTexts_append, ← hc, ht₁, List.append_assoc]
  · simp [hc', hc, Nat.add_assoc]

theorem Grows.cursor_le (h : Grows c d) : c.cursor ≤ d.cursor := by
  obtain ⟨-, ss, -, -, hc⟩ := h
  omega

theorem grows_put {s : String} (hs : s ≠ "") : Grows c (c.put s) :=
  ⟨rfl, [s], by simpa using hs, by simp [placeTexts], by simp⟩

theorem insert_grows {s : String} {sp : Span} (h : c.insert s = .ok (d, sp)) : Grows c d := by
  rcases insert_eq_ok.mp h with ⟨-, h⟩ | ⟨hs, -, h⟩
  · obtain rfl := (Prod.mk.inj h).1
    exact Grows.refl _
  · obtain rfl := (Prod.mk.inj h).1
    exact grows_put hs

theorem ensureLineStart_grows (h : c.ensureLineStart = .ok d) : Grows c d := by
  rcases ensureLineStart_eq_ok.mp h with ⟨-, rfl⟩ | ⟨-, -, rfl⟩
  · exact Grows.refl _
  · exact grows_put (by decide)

theorem finishItemLine_grows {n : Nat} (h : c.finishItemLine = .ok (d, n)) : Grows c d := by
  rcases finishItemLine_eq_ok.mp h with ⟨-, rfl, -⟩ | ⟨-, -, rfl, -⟩
  · exact Grows.refl _
  · exact grows_put (by decide)

/-- Growth looks only at the tab, the insertions and the cursor. -/
theorem Grows.congr {d' : Compiler} (h : Grows c d) (ht : d'.tabId = d.tabId)
    (hi : d'.inserts = d.inserts) (hc : d'.cursor = d.cursor) : Grows c d' := by
  obtain ⟨h₁, ss, hs, h₂, h₃⟩ := h
  exact ⟨ht.trans h₁, ss, hs, hi ▸ h₂, hc ▸ h₃⟩

theorem putStyled_grows {s : String} {f : InlineFormat} (hs : s ≠ "") : Grows c (c.putStyled s f) := by
  unfold putStyled
  split
  · exact grows_put hs
  · exact (grows_put hs).congr rfl rfl rfl

theorem insertStyled_grows {s : String} {f : InlineFormat} (h : c.insertStyled s f = .ok d) :
    Grows c d := by
  rcases insertStyled_eq_ok.mp h with ⟨-, rfl⟩ | ⟨hs, -, rfl⟩
  · exact Grows.refl _
  · exact putStyled_grows hs

theorem takeTaskPrefix_grows (s : String) : Grows c (c.takeTaskPrefix s).1 :=
  (Grows.refl c).congr (by rw [takeTaskPrefix_fst]) (by rw [takeTaskPrefix_fst]) (by rw [takeTaskPrefix_fst])

theorem endItemLine_grows (h : c.endItemLine = .ok d) : Grows c d := by
  rcases endItemLine_cases h with rfl | ⟨idx, e, n, h₁, rfl⟩
  · exact Grows.refl _
  · exact (finishItemLine_grows h₁).congr rfl rfl rfl

theorem codeLineStep_grows {line : String} (h : c.codeLineStep line = .ok d) : Grows c d := by
  obtain ⟨-, rfl⟩ := codeLineStep_eq_ok.mp h
  exact (grows_put (by simp)).congr (by simp) putCodeLine_inserts putCodeLine_cursor

theorem step_grows {t : Token} (h : c.step t = .ok d) : Grows c d := by
  cases t
  case headingOpen l =>
    obtain ⟨-, e, he, rfl⟩ := openHeading_eq_ok.mp h
    exact (ensureLineStart_grows he).congr rfl rfl rfl
  case headingClose =>
    rcases closeHeading_eq_ok.mp h with ⟨-, rfl⟩ | ⟨hd, -, -, rfl⟩
    · exact Grows.refl _
    · exact ((Grows.refl c).congr rfl rfl rfl).trans (grows_put (by decide))
  case paragraphClose => exact ensureLineStart_grows h
  case text s =>
    rw [step, addText_eq] at h
    exact (takeTaskPrefix_grows s).trans (insertStyled_grows h)
  case codeInline s => exact insertStyled_grows h
  case bulletListOpen | orderedListOpen =>
    obtain ⟨e, h₁, e', h₂, rfl⟩ := openList_eq_ok.mp h
    exact ((endItemLine_grows h₁).trans (ensureLineStart_grows h₂)).congr rfl rfl rfl
  case itemOpen =>
    obtain ⟨frame, rest, -, e, he, e', sp, he', rfl⟩ := openItem_eq_ok.mp h
    exact ((ensureLineStart_grows he).trans (insert_grows he')).congr rfl rfl rfl
  case itemClose =>
    have hpop : Grows c { c with openItems := c.openItems.tail } := (Grows.refl c).congr rfl rfl rfl
    rcases closeItem_cases h with ⟨-, rfl⟩ | rfl | ⟨idx, e, n, h₁, rfl⟩ | h₁
    · exact Grows.refl _
    · exact hpop
    · exact (hpop.trans (finishItemLine_grows h₁)).congr rfl rfl rfl
    · exact hpop.trans (ensureLineStart_grows h₁)
  case softBreak | hardBreak =>
    obtain ⟨⟨e, sp⟩, he, rfl⟩ := map_eq_ok.mp h
    exact insert_grows he
  case fence _ content | codeBlock content =>
    simp only [step, addCode_eq, bind_eq_ok] at h
    obtain ⟨e₁, h₁, e₂, h₂, h₃⟩ := h
    obtain ⟨⟨e₃, sp⟩, he₃, rfl⟩ := map_eq_ok.mp h₃
    exact (ensureLineStart_grows h₁).trans
      ((foldlM_invariant (Grows e₁) (fun _ _ _ hg hs => hg.trans (codeLineStep_grows hs))
        (Grows.refl e₁) h₂).trans (insert_grows he₃))
  case rule =>
    obtain ⟨e, he, -, rfl⟩ := rule_eq_ok.mp h
    exact ((ensureLineStart_grows he).trans (grows_put (by decide))).congr rfl rfl rfl
  all_goals
    simp only [step, Except.ok.injEq] at h
    subst h
    exact (Grows.refl c).congr rfl rfl rfl

theorem run_grows {ts : List Token} (h : ts.foldlM step c = .ok d) : Grows c d :=
  foldlM_invariant (Grows c) (fun _ _ _ hg hs => hg.trans (step_grows hs)) (Grows.refl c) h

/-- `finish` puts the insertions first; every operation after them styles a range of the
state's tab. -/
theorem finish_eq_inserts_append : ∃ rest, c.finish = c.inserts.toList ++ rest ∧
    ∀ op ∈ rest, op.isInsert = false ∧ op.tabId = c.tabId := by
  refine ⟨_, by simp only [finish, List.append_assoc]; rfl, ?_⟩
  intro op hop
  simp only [List.mem_append, List.mem_flatMap, List.mem_map] at hop
  rcases hop with ⟨r, -, hr⟩ | ⟨x, -, rfl⟩ | ⟨x, -, rfl⟩ | ⟨x, -, rfl⟩
  · rcases hr with hr | hr
    · split at hr <;> simp at hr
      subst hr; simp [EditOperation.isInsert, EditOperation.tabId]
    · split at hr <;> simp at hr
      subst hr; simp [EditOperation.isInsert, EditOperation.tabId]
  all_goals simp [EditOperation.isInsert, EditOperation.tabId]

end Compiler

theorem tabId_of_mem_placeTexts {i : Nat} {tab : Option String} {ss : List String} {op : EditOperation}
    (h : op ∈ placeTexts i tab ss) : op.tabId = tab := by
  induction ss generalizing i with
  | nil => simp [placeTexts] at h
  | cons s ss ih =>
    rcases List.mem_cons.mp h with rfl | h
    · rfl
    · exact ih h

theorem InsertsFirst.of_placeTexts {start : Nat} {tab : Option String} {texts : List String}
    {rest : List EditOperation} (hne : ∀ s ∈ texts, s ≠ "")
    (hrest : ∀ op ∈ rest, op.isInsert = false ∧ op.tabId = tab) :
    InsertsFirst start tab (placeTexts start tab texts ++ rest) := by
  have hlen : (placeTexts start tab texts).length = texts.length := length_placeTexts ..
  refine ⟨texts, hne, fun k hk => ?_, fun op hop => ?_, fun op hop => ?_⟩
  · rw [List.getElem?_append_left (by omega), getElem?_placeTexts start tab texts k hk]
  · rw [← hlen, List.drop_left] at hop
    exact (hrest op hop).1
  · rcases List.mem_append.mp hop with hop | hop
    · exact tabId_of_mem_placeTexts hop
    · exact (hrest op hop).2

theorem compile_insertsFirst {T : List Token} {o : CompileOptions} {ops : List EditOperation}
    (h : compile T o = .ok ops) : InsertsFirst o.startIndex o.tabId ops := by
  unfold compile at h
  split at h
  · cases h
  split at h
  · cases h
    exact ⟨[], by simp, by simp, by simp, by simp⟩
  obtain ⟨c, hrun, rfl⟩ := map_eq_ok.mp h
  obtain ⟨htab, texts, hne, hins, -⟩ := Compiler.run_grows hrun
  obtain ⟨rest, hfin, hrest⟩ := (c.finish_eq_inserts_append)
  have hstart : (Compiler.start o).inserts.toList = [] := rfl
  rw [hfin, hins, hstart, List.nil_append]
  exact InsertsFirst.of_placeTexts hne fun op hop => ⟨(hrest op hop).1, (hrest op hop).2.trans htab⟩

/-- A compilation inserts its text first, in one run from the start index, and styles it
after; every operation names the compilation's tab, and another tab changes nothing else.
A replacement compiles at offset 1 after deleting the old body `[1, e - 1)`, when there is
one. -/
theorem compile_inserts_first (T : List Token) (o : CompileOptions) :
    (∀ ops, compile T o = .ok ops →
      InsertsFirst o.startIndex o.tabId ops ∧
      ∀ t, compile T { o with tabId := t } = .ok (ops.map (EditOperation.retab t))) ∧
    ∀ e ops, compileReplacement T e o = .ok ops →
      ∃ rest, InsertsFirst 1 o.tabId rest ∧
        ops = (if 3 ≤ e then [.deleteContentRange ⟨⟨1, e - 1⟩, o.tabId⟩] else []) ++ rest := by
  refine ⟨fun ops h => ⟨compile_insertsFirst h, fun t => ?_⟩, fun e ops h => ?_⟩
  · rw [compile_retab, h]
    rfl
  · obtain ⟨rest, hc, rfl⟩ := map_eq_ok.mp h
    refine ⟨rest, compile_insertsFirst hc, ?_⟩
    have hempty : (⟨1, e - 1⟩ : Span).isEmpty = !decide (3 ≤ e) := by
      simp only [Span.isEmpty, Span.len]
      by_cases he : 3 ≤ e <;> simp [he] <;> omega
    simp only [hempty]
    by_cases he : 3 ≤ e <;> simp [he]

/-- A bold paragraph compiled at offset 5 of tab `t`, and as the replacement of a body ending
at 7. -/
theorem compile_inserts_first_bold :
    compile [.paragraphOpen, .inline [.strongOpen, .text "a", .strongClose], .paragraphClose]
        { startIndex := 5, tabId := some "t" } =
      .ok [.insertText 5 "a" (some "t"), .insertText 6 "\n" (some "t"),
        .updateTextStyle ⟨⟨5, 6⟩, some "t"⟩ { bold := true }] ∧
    InsertsFirst 5 (some "t") [.insertText 5 "a" (some "t"), .insertText 6 "\n" (some "t"),
        .updateTextStyle ⟨⟨5, 6⟩, some "t"⟩ { bold := true }] ∧
    compileReplacement [.paragraphOpen, .inline [.strongOpen, .text "a", .strongClose],
        .paragraphClose] 7 { startIndex := 5, tabId := some "t" } =
      .ok [.deleteContentRange ⟨⟨1, 6⟩, some "t"⟩, .insertText 1 "a" (some "t"),
        .insertText 2 "\n" (some "t"), .updateTextStyle ⟨⟨1, 2⟩, some "t"⟩ { bold := true }] ∧
    ∃ rest, InsertsFirst 1 (some "t") rest ∧
      [.deleteContentRange ⟨⟨1, 6⟩, some "t"⟩, .insertText 1 "a" (some "t"),
        .insertText 2 "\n" (some "t"), .updateTextStyle ⟨⟨1, 2⟩, some "t"⟩ { bold := true }] =
        (if 3 ≤ 7 then [.deleteContentRange ⟨⟨1, 7 - 1⟩, some "t"⟩] else []) ++ rest := by
  have hc := eq_ok_of_toOption (by decide +kernel : (compile
    [.paragraphOpen, .inline [.strongOpen, .text "a", .strongClose], .paragraphClose]
    { startIndex := 5, tabId := some "t" }).toOption = some [.insertText 5 "a" (some "t"),
      .insertText 6 "\n" (some "t"), .updateTextStyle ⟨⟨5, 6⟩, some "t"⟩ { bold := true }])
  have hr := eq_ok_of_toOption (by decide +kernel : (compileReplacement
    [.paragraphOpen, .inline [.strongOpen, .text "a", .strongClose], .paragraphClose] 7
    { startIndex := 5, tabId := some "t" }).toOption = some [.deleteContentRange ⟨⟨1, 6⟩, some "t"⟩,
      .insertText 1 "a" (some "t"), .insertText 2 "\n" (some "t"),
      .updateTextStyle ⟨⟨1, 2⟩, some "t"⟩ { bold := true }])
  have hthm := compile_inserts_first
    [.paragraphOpen, .inline [.strongOpen, .text "a", .strongClose], .paragraphClose]
    { startIndex := 5, tabId := some "t" }
  exact ⟨hc, (hthm.1 _ hc).1, hr, hthm.2 7 _ hr⟩

end DocBridge
