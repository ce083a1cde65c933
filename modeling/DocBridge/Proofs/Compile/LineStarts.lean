import DocBridge.Proofs.Compile.RangeBounds
import DocBridge.Proofs.Compile.StyleUpdates

/-!
# Paragraph ranges sit on whole lines

A paragraph style or a bullet applies to whole paragraphs, the lines of the inserted text. An
offset starts a line (`StartsLine`) when it is the start index or the inserted character before
it is a newline. The compiler keeps track of the line in `atLineStart`, which says that the last
inserted character is a newline, and starts every heading, rule and list item with
`ensureLineStart`. A heading range ends where the newline after the heading goes, a rule is the
newline it inserts, and an item ends at a newline: the one it inserts when its line holds text,
or the one before the cursor when the line is already ended.

`Compiler.OnLines` collects these facts about the state, read through `insertedChar` over the
insertions made so far, together with the fact that nothing is inserted past the cursor, which
is where the next text goes. Every operation keeps them, for every token stream, well-nested or
not. An item's end may come before `lo` only when it also comes before the item's start, and
then the merge drops the item; that needs `RangesInside` beside `OnLines`.

`compile_paragraphs_on_lines` is the result: every named paragraph style (the headings) and every
bullet range starts at a line start and ends at a newline, and every rule border is exactly one
newline on a line of its own, so no paragraph style spreads onto a neighbouring paragraph.
-/

namespace DocBridge

/-- Offset `p` starts a line of the text that `ops` insert from `lo`: it is `lo`, or the
inserted character before it is a newline. -/
def StartsLine (ops : List EditOperation) (lo p : Nat) : Prop :=
  p = lo ∨ insertedChar ops (p - 1) = some '\n'

/-! ## Inserted characters -/

section

variable {l l' : List EditOperation} {p lo : Nat}

/-- The first insertion that reaches an offset decides its character. -/
theorem insertedChar_append :
    insertedChar (l ++ l') p = (insertedChar l p).or (insertedChar l' p) := by
  simp only [insertedChar, List.findSome?_append]

/-- Later insertions never change a character already inserted. -/
theorem insertedChar_append_of_eq_some {ch : Char} (h : insertedChar l p = some ch) :
    insertedChar (l ++ l') p = some ch := by
  rw [insertedChar_append, h, Option.some_or]

theorem insertedChar_append_of_not_insert (hl' : ∀ op ∈ l', op.isInsert = false) (p : Nat) :
    insertedChar (l ++ l') p = insertedChar l p := by
  rw [insertedChar_append, insertedChar_of_not_insert hl' p, Option.or_none]

theorem StartsLine.append (h : StartsLine l lo p) : StartsLine (l ++ l') lo p :=
  h.imp_right insertedChar_append_of_eq_some

end

/-- The last unit of a text that ends in a newline is that newline. -/
theorem Text.getElem?_unitChars_of_endsWith {s : String} (h : s.endsWith "\n" = true) :
    (Text.unitChars s)[Text.units16 s - 1]? = some '\n' := by
  obtain ⟨t, ht⟩ := List.suffix_iff_exists_eq_append.mp (Text.endsWith_newline.mp h)
  have hu : Text.unitChars s =
      t.flatMap (fun ch => List.replicate (Text.charUnits ch) ch) ++ ['\n'] := by
    simp [Text.unitChars, ht, Text.charUnits]
  rw [← Text.length_unitChars, hu]
  simp

namespace Compiler

variable {c d : Compiler} {lo : Nat}

theorem Grows.exists_append (hg : Grows c d) : ∃ rest, d.inserts.toList = c.inserts.toList ++ rest := by
  obtain ⟨-, texts, -, hins, -⟩ := hg
  exact ⟨_, hins⟩

theorem Grows.insertedChar {p : Nat} {ch : Char} (hg : Grows c d)
    (h : DocBridge.insertedChar c.inserts.toList p = some ch) :
    DocBridge.insertedChar d.inserts.toList p = some ch := by
  obtain ⟨rest, hrest⟩ := hg.exists_append
  rw [hrest]
  exact insertedChar_append_of_eq_some h

theorem Grows.startsLine {p : Nat} (hg : Grows c d) (h : StartsLine c.inserts.toList lo p) :
    StartsLine d.inserts.toList lo p := by
  obtain ⟨rest, hrest⟩ := hg.exists_append
  rw [hrest]
  exact h.append

/-- Nothing is inserted at or after the cursor. -/
def EndsAtCursor (c : Compiler) : Prop :=
  ∀ p, c.cursor ≤ p → insertedChar c.inserts.toList p = none

/-- A state grows only at its cursor, so its insertions keep ending there. -/
theorem Grows.endsAtCursor (hg : Grows c d) (h : c.EndsAtCursor) : d.EndsAtCursor := by
  obtain ⟨-, texts, -, hins, hcur⟩ := hg
  intro p hp
  have hnew := @insertedChar_placeTexts c.tabId [] (by simp) p c.cursor texts
  rw [List.append_nil] at hnew
  rw [hins, insertedChar_append, h p (by omega), Option.none_or, hnew, if_pos (by omega)]
  exact List.getElem?_eq_none (by rw [Text.length_flatMap_unitChars]; omega)

/-- A text put at the cursor reads, from the cursor on, as its characters. -/
theorem insertedChar_put (h : c.EndsAtCursor) (s : String) (k : Nat) :
    insertedChar (c.put s).inserts.toList (c.cursor + k) = (Text.unitChars s)[k]? := by
  rw [put_inserts, Array.toList_push, insertedChar_append, h _ (Nat.le_add_right _ _),
    Option.none_or]
  simp [insertedChar, EditOperation.charAt?]

theorem insertedChar_put_newline (h : c.EndsAtCursor) :
    insertedChar (c.put "\n").inserts.toList c.cursor = some '\n' := by
  simpa using insertedChar_put h "\n" 0

theorem atLineStart_of_ensureLineStart (he : c.ensureLineStart = .ok d) : d.atLineStart = true := by
  rcases ensureLineStart_eq_ok.mp he with ⟨hl, rfl⟩ | ⟨-, -, rfl⟩
  · exact hl
  · exact Text.endsWith_newline.mpr (by simp)

/-! ## The invariant -/

/-- Where the state stands in its text: nothing is inserted at or after the cursor, the cursor
starts a line when the state says so, the open heading and every item start lines, a heading
range ends at a newline, a rule range is one newline starting a line, and an item's end, once
known and past its start, is a newline. -/
structure OnLines (lo : Nat) (c : Compiler) : Prop where
  endsAtCursor : c.EndsAtCursor
  lineStart : c.atLineStart = true → StartsLine c.inserts.toList lo c.cursor
  heading : ∀ h, c.heading = some h → StartsLine c.inserts.toList lo h.start
  headingRanges : ∀ p ∈ c.headingRanges.toList,
    StartsLine c.inserts.toList lo p.1.start ∧ insertedChar c.inserts.toList p.1.stop = some '\n'
  ruleRanges : ∀ s ∈ c.ruleRanges.toList, StartsLine c.inserts.toList lo s.start ∧
    s.stop = s.start + 1 ∧ insertedChar c.inserts.toList s.start = some '\n'
  items : ∀ b ∈ c.bounds, StartsLine c.inserts.toList lo b.1 ∧
    ∀ e, b.2 = some e → b.1 < e → insertedChar c.inserts.toList e = some '\n'

theorem onLines_start (o : CompileOptions) : OnLines o.startIndex (start o) where
  endsAtCursor p _ := by simp [start, insertedChar]
  lineStart _ := .inl rfl
  heading h hh := by simp [start] at hh
  headingRanges p hp := by simp [start] at hp
  ruleRanges s hs := by simp [start] at hs
  items b hb := by simp [start, bounds] at hb

/-- A state that grew at its cursor, and recorded nothing new, keeps its records on their
lines. -/
theorem OnLines.of_grows (h : OnLines lo c) (hg : Grows c d)
    (hl : d.atLineStart = true → StartsLine d.inserts.toList lo d.cursor)
    (hh : d.heading = c.heading) (hhr : d.headingRanges = c.headingRanges)
    (hr : d.ruleRanges = c.ruleRanges) (hb : d.bounds = c.bounds) : OnLines lo d where
  endsAtCursor := hg.endsAtCursor h.endsAtCursor
  lineStart := hl
  heading k hk := hg.startsLine (h.heading k (hh ▸ hk))
  headingRanges p hp := by
    obtain ⟨h₁, h₂⟩ := h.headingRanges p (hhr ▸ hp)
    exact ⟨hg.startsLine h₁, hg.insertedChar h₂⟩
  ruleRanges s hs := by
    obtain ⟨h₁, h₂, h₃⟩ := h.ruleRanges s (hr ▸ hs)
    exact ⟨hg.startsLine h₁, h₂, hg.insertedChar h₃⟩
  items b hm := by
    obtain ⟨h₁, h₂⟩ := h.items b (hb ▸ hm)
    exact ⟨hg.startsLine h₁, fun e he hlt => hg.insertedChar (h₂ e he hlt)⟩

/-! ## One operation -/

/-- After a text that ends in a newline, the cursor starts a line. -/
theorem OnLines.put (h : OnLines lo c) {s : String} (hs : s ≠ "") : OnLines lo (c.put s) := by
  refine h.of_grows (grows_put hs) (fun hl => .inr ?_) (put_heading c s) (put_headingRanges c s)
    (put_ruleRanges c s) (bounds_put s)
  have hpos := units16_pos hs
  rw [put_atLineStart] at hl
  rw [put_cursor, show c.cursor + Text.units16 s - 1 = c.cursor + (Text.units16 s - 1) by omega,
    insertedChar_put h.endsAtCursor]
  exact Text.getElem?_unitChars_of_endsWith hl

theorem OnLines.insert (h : OnLines lo c) {s : String} {sp : Span} (hi : c.insert s = .ok (d, sp)) :
    OnLines lo d := by
  rcases insert_eq_ok.mp hi with ⟨-, hr⟩ | ⟨hs, -, hr⟩
  · obtain rfl := (Prod.mk.inj hr).1
    exact h
  · obtain rfl := (Prod.mk.inj hr).1
    exact h.put hs

/-- After `ensureLineStart` the cursor starts a line. -/
theorem OnLines.ensureLineStart (h : OnLines lo c) (he : c.ensureLineStart = .ok d) :
    OnLines lo d ∧ StartsLine d.inserts.toList lo d.cursor := by
  have hd : OnLines lo d := by
    rcases ensureLineStart_cases he with rfl | rfl
    · exact h
    · exact h.put (by decide)
  exact ⟨hd, hd.lineStart (atLineStart_of_ensureLineStart he)⟩

/-- The end that `finishItemLine` gives is a newline, unless it comes before `lo`: the newline
before a cursor that starts a line, or the one it inserts. -/
theorem OnLines.finishItemLine (h : OnLines lo c) {n : Nat} (hf : c.finishItemLine = .ok (d, n)) :
    OnLines lo d ∧ (lo < n → insertedChar d.inserts.toList n = some '\n') := by
  rcases finishItemLine_eq_ok.mp hf with ⟨hl, rfl, rfl⟩ | ⟨-, -, rfl, rfl⟩
  · refine ⟨h, fun hn => ?_⟩
    rcases h.lineStart hl with hc | hc
    · omega
    · exact hc
  · exact ⟨h.put (by decide), fun _ => insertedChar_put_newline h.endsAtCursor⟩

theorem OnLines.setItemStop (h : OnLines lo c) (hR : RangesInside lo c) {idx n : Nat}
    (hn : lo < n → insertedChar c.inserts.toList n = some '\n') :
    OnLines lo (c.setItemStop idx n) where
  endsAtCursor := h.endsAtCursor
  lineStart := h.lineStart
  heading := h.heading
  headingRanges := h.headingRanges
  ruleRanges := h.ruleRanges
  items b hb := by
    rw [bounds_setItemStop] at hb
    rcases mem_of_mem_modify hb with hb | ⟨a, ha, rfl⟩
    · exact h.items b hb
    · refine ⟨(h.items a ha).1, fun e he hlt => ?_⟩
      cases he
      exact hn (lt_of_le_of_lt (hR.items a ha).1 hlt)

theorem OnLines.endItemLine (h : OnLines lo c) (hR : RangesInside lo c)
    (he : c.endItemLine = .ok d) : OnLines lo d := by
  rcases endItemLine_cases he with rfl | ⟨idx, e, n, hf, rfl⟩
  · exact h
  · obtain ⟨he, hn⟩ := h.finishItemLine hf
    exact he.setItemStop (hR.finishItemLine hf).1 hn

theorem OnLines.openHeading (h : OnLines lo c) {l : Nat} (ho : c.openHeading l = .ok d) :
    OnLines lo d := by
  obtain ⟨-, e, he, rfl⟩ := openHeading_eq_ok.mp ho
  obtain ⟨he', hs⟩ := h.ensureLineStart he
  exact ⟨he'.endsAtCursor, he'.lineStart, fun k hk => by cases hk; exact hs, he'.headingRanges,
    he'.ruleRanges, he'.items⟩

/-- Closing a heading puts its newline where its range ends. -/
theorem OnLines.closeHeading (h : OnLines lo c) (hc : c.closeHeading = .ok d) : OnLines lo d := by
  rcases closeHeading_eq_ok.mp hc with ⟨-, rfl⟩ | ⟨oh, hh, -, rfl⟩
  · exact h
  have hg : Grows c ((c.recordHeading oh).put "\n") :=
    ((Grows.refl c).congr rfl rfl rfl).trans (grows_put (by decide))
  have hnl : insertedChar ((c.recordHeading oh).put "\n").inserts.toList c.cursor = some '\n' :=
    insertedChar_put_newline (c := c.recordHeading oh) h.endsAtCursor
  refine ⟨hg.endsAtCursor h.endsAtCursor, fun _ => .inr (by simpa [units16_newline] using hnl),
    fun k hk => by simp at hk, fun p hp => ?_, fun s hs => ?_, fun b hb => ?_⟩
  · simp only [put_headingRanges, recordHeading_headingRanges] at hp
    split at hp
    · obtain ⟨h₁, h₂⟩ := h.headingRanges p hp
      exact ⟨hg.startsLine h₁, hg.insertedChar h₂⟩
    · rw [Array.toList_push, List.mem_append, List.mem_singleton] at hp
      rcases hp with hp | rfl
      · obtain ⟨h₁, h₂⟩ := h.headingRanges p hp
        exact ⟨hg.startsLine h₁, hg.insertedChar h₂⟩
      · exact ⟨hg.startsLine (h.heading oh hh), hnl⟩
  · obtain ⟨h₁, h₂, h₃⟩ := h.ruleRanges s hs
    exact ⟨hg.startsLine h₁, h₂, hg.insertedChar h₃⟩
  · obtain ⟨h₁, h₂⟩ := h.items b hb
    exact ⟨hg.startsLine h₁, fun e he hlt => hg.insertedChar (h₂ e he hlt)⟩

theorem OnLines.putStyled (h : OnLines lo c) {s : String} (hs : s ≠ "") (f : InlineFormat) :
    OnLines lo (c.putStyled s f) := by
  have hp := h.put hs
  unfold Compiler.putStyled
  split
  · exact hp
  · exact ⟨hp.endsAtCursor, hp.lineStart, hp.heading, hp.headingRanges, hp.ruleRanges, hp.items⟩

theorem OnLines.insertStyled (h : OnLines lo c) {s : String} {f : InlineFormat}
    (hi : c.insertStyled s f = .ok d) : OnLines lo d := by
  rcases insertStyled_eq_ok.mp hi with ⟨-, rfl⟩ | ⟨hs, -, rfl⟩
  · exact h
  · exact h.putStyled hs f

theorem OnLines.takeTaskPrefix (h : OnLines lo c) (s : String) : OnLines lo (c.takeTaskPrefix s).1 :=
  h.of_grows (takeTaskPrefix_grows s) (by rw [takeTaskPrefix_fst]; exact h.lineStart)
    (by rw [takeTaskPrefix_fst]) (by rw [takeTaskPrefix_fst]) (by rw [takeTaskPrefix_fst])
    (bounds_takeTaskPrefix s)

/-- A code line is put like any text: the range it adds to the styled ones is not read here. -/
theorem OnLines.putCodeLine (h : OnLines lo c) (line : String) : OnLines lo (c.putCodeLine line) := by
  have hp := h.put (s := codeLine line ++ "\n") (by simp)
  refine hp.of_grows ((Grows.refl _).congr (by simp) putCodeLine_inserts putCodeLine_cursor)
    (fun _ => ?_) (by simp) (by simp) (by simp) (by simp [bounds])
  rw [putCodeLine_inserts, putCodeLine_cursor]
  exact hp.lineStart (Text.endsWith_newline.mpr (by simp))

theorem OnLines.addCode (h : OnLines lo c) {content : String} (ha : c.addCode content = .ok d) :
    OnLines lo d := by
  rw [addCode_eq] at ha
  obtain ⟨e₁, h₁, e₂, h₂, h₃⟩ := by simpa only [bind_eq_ok] using ha
  obtain ⟨⟨e₃, sp⟩, he₃, rfl⟩ := map_eq_ok.mp h₃
  have hlines : OnLines lo e₂ :=
    foldlM_invariant (OnLines lo) (fun _ _ _ hr hs => by
      obtain ⟨-, rfl⟩ := codeLineStep_eq_ok.mp hs
      exact hr.putCodeLine _) (h.ensureLineStart h₁).1 h₂
  exact hlines.insert he₃

/-- A new item starts where `ensureLineStart` leaves the cursor, before its tabs. -/
theorem OnLines.openItem (h : OnLines lo c) (ho : c.openItem = .ok d) : OnLines lo d := by
  obtain ⟨frame, rest, -, e, he, e', sp, he', rfl⟩ := openItem_eq_ok.mp ho
  obtain ⟨he₁, hs⟩ := h.ensureLineStart he
  have he₂ := he₁.insert he'
  refine ⟨he₂.endsAtCursor, he₂.lineStart, he₂.heading, he₂.headingRanges, he₂.ruleRanges,
    fun b hb => ?_⟩
  have hb' : b ∈ e'.bounds ++ [(e.cursor, none)] := by simpa [bounds] using hb
  rcases List.mem_append.mp hb' with hb' | hb'
  · exact he₂.items b hb'
  · obtain rfl := List.mem_singleton.mp hb'
    exact ⟨(insert_grows he').startsLine hs, fun _ he => by cases he⟩

theorem OnLines.closeItem (h : OnLines lo c) (hR : RangesInside lo c) (hc : c.closeItem = .ok d) :
    OnLines lo d := by
  have hpop : OnLines lo { c with openItems := c.openItems.tail } :=
    ⟨h.endsAtCursor, h.lineStart, h.heading, h.headingRanges, h.ruleRanges, h.items⟩
  have hRpop : RangesInside lo { c with openItems := c.openItems.tail } :=
    hR.of_le le_rfl rfl rfl rfl rfl rfl
  rcases closeItem_cases hc with ⟨-, rfl⟩ | rfl | ⟨idx, e, n, hf, rfl⟩ | he
  · exact h
  · exact hpop
  · obtain ⟨he, hn⟩ := hpop.finishItemLine hf
    exact he.setItemStop (hRpop.finishItemLine hf).1 hn
  · exact (hpop.ensureLineStart he).1

/-- A rule is the newline it inserts, on a line of its own. -/
theorem OnLines.rule (h : OnLines lo c) (hr : c.step .rule = .ok d) : OnLines lo d := by
  obtain ⟨e, he, -, rfl⟩ := rule_eq_ok.mp hr
  obtain ⟨he', hs⟩ := h.ensureLineStart he
  have hput := he'.put (s := "\n") (by decide)
  refine ⟨hput.endsAtCursor, hput.lineStart, hput.heading, hput.headingRanges, fun s hs' => ?_,
    hput.items⟩
  simp only [Array.toList_push, List.mem_append, List.mem_singleton] at hs'
  rcases hs' with hs' | rfl
  · exact hput.ruleRanges s hs'
  · exact ⟨(grows_put (by decide)).startsLine hs, rfl, insertedChar_put_newline he'.endsAtCursor⟩

/-! ## A run -/

/-- Every token keeps the records on their lines, whatever the stream around it. -/
theorem step_onLines (h : OnLines lo c) (hR : RangesInside lo c) {t : Token}
    (hs : c.step t = .ok d) : OnLines lo d := by
  cases t
  case headingOpen l => exact h.openHeading hs
  case headingClose => exact h.closeHeading hs
  case paragraphClose => exact (h.ensureLineStart hs).1
  case text s =>
    rw [step, addText_eq] at hs
    exact (h.takeTaskPrefix s).insertStyled hs
  case codeInline s => exact h.insertStyled hs
  case bulletListOpen | orderedListOpen =>
    obtain ⟨e, h₁, e', h₂, rfl⟩ := openList_eq_ok.mp hs
    have he := ((h.endItemLine hR h₁).ensureLineStart h₂).1
    exact ⟨he.endsAtCursor, he.lineStart, he.heading, he.headingRanges, he.ruleRanges, he.items⟩
  case itemOpen => exact h.openItem hs
  case itemClose => exact h.closeItem hR hs
  case softBreak | hardBreak =>
    obtain ⟨⟨e, sp⟩, he, rfl⟩ := map_eq_ok.mp hs
    exact h.insert he
  case fence _ content | codeBlock content => exact h.addCode hs
  case rule => exact h.rule hs
  all_goals
    simp only [step, Except.ok.injEq] at hs
    subst hs
    exact ⟨h.endsAtCursor, h.lineStart, h.heading, h.headingRanges, h.ruleRanges, h.items⟩

theorem run_onLines {ts : List Token} (h : OnLines lo c) (hR : RangesInside lo c)
    (hrun : ts.foldlM step c = .ok d) : OnLines lo d :=
  (foldlM_invariant (fun c => OnLines lo c ∧ RangesInside lo c)
    (fun _ _ _ hb hs => ⟨step_onLines hb.1 hb.2 hs, step_rangesInside hb.2 hs⟩) ⟨h, hR⟩ hrun).1

/-! ## The finished operations -/

/-- The operations after the insertions insert nothing, so `finish` reads as the insertions. -/
theorem insertedChar_finish_eq_inserts (p : Nat) :
    insertedChar c.finish p = insertedChar c.inserts.toList p := by
  obtain ⟨rest, hfin, hrest⟩ := c.finish_eq_inserts_append
  rw [hfin]
  exact insertedChar_append_of_not_insert (fun op hop => (hrest op hop).1) p

theorem startsLine_finish {p : Nat} :
    StartsLine c.finish lo p ↔ StartsLine c.inserts.toList lo p := by
  simp only [StartsLine, insertedChar_finish_eq_inserts]

/-- A merged bullet range starts where an item starts and ends where an item ends past its start,
so it starts a line and ends at a newline. -/
theorem OnLines.bulletRange (h : OnLines lo c) {b : BulletRange}
    (hb : b ∈ mergeBulletRanges c.items.toList) :
    StartsLine c.inserts.toList lo b.span.start ∧
      insertedChar c.inserts.toList b.span.stop = some '\n' := by
  obtain ⟨-, ⟨q, hq, hqs⟩, ⟨q', hq', hq'e⟩⟩ := mergeBulletRanges_spannedBy _ b hb
  obtain ⟨i, hi, e, -, -, rfl⟩ := mem_validRanges.mp hq
  obtain ⟨i', hi', e', he', hlt', rfl⟩ := mem_validRanges.mp hq'
  have hstart := (h.items (i.start, i.stop) (List.mem_map_of_mem hi)).1
  have hstop := (h.items (i'.start, i'.stop) (List.mem_map_of_mem hi')).2 e' he' hlt'
  dsimp only at hqs hq'e
  exact ⟨hqs ▸ hstart, hq'e ▸ hstop⟩

/-- The paragraph-level operations of `finish` sit on whole lines of the inserted text. An insertion
names no range, and each other kind of operation comes from one record. -/
theorem OnLines.finish (h : OnLines lo c) (hins : ∀ op ∈ c.inserts.toList, op.range? = none) :
    (∀ r n, EditOperation.updateParagraphStyle r (.named n) ∈ c.finish →
      StartsLine c.finish lo r.span.start ∧ insertedChar c.finish r.span.stop = some '\n') ∧
    (∀ r, EditOperation.updateParagraphStyle r .bottomRule ∈ c.finish →
      StartsLine c.finish lo r.span.start ∧ r.span.stop = r.span.start + 1 ∧
        insertedChar c.finish r.span.start = some '\n') ∧
    ∀ r p, EditOperation.createBulletRange r p ∈ c.finish →
      StartsLine c.finish lo r.span.start ∧ insertedChar c.finish r.span.stop = some '\n' := by
  simp only [startsLine_finish, insertedChar_finish_eq_inserts]
  have hnot : ∀ r, EditOperation.updateParagraphStyle r .bottomRule ∉ c.inserts.toList ∧
      (∀ n, EditOperation.updateParagraphStyle r (.named n) ∉ c.inserts.toList) ∧
      ∀ p, EditOperation.createBulletRange r p ∉ c.inserts.toList := fun r =>
    ⟨fun hm => by simpa [EditOperation.range?] using hins _ hm,
      fun n hm => by simpa [EditOperation.range?] using hins _ hm,
      fun p hm => by simpa [EditOperation.range?] using hins _ hm⟩
  refine ⟨fun r n hop => ?_, fun r hop => ?_, fun r p hop => ?_⟩
  · rcases mem_finish hop with hop | ⟨t, -, st, he⟩ | ⟨q, hq, he⟩ | ⟨x, -, he⟩ | ⟨x, -, he⟩
    · exact absurd hop ((hnot r).2.1 n)
    all_goals cases he
    exact h.headingRanges q hq
  · rcases mem_finish hop with hop | ⟨t, -, st, he⟩ | ⟨x, -, he⟩ | ⟨s, hs, he⟩ | ⟨x, -, he⟩
    · exact absurd hop (hnot r).1
    all_goals cases he
    exact h.ruleRanges s hs
  · rcases mem_finish hop with hop | ⟨t, -, st, he⟩ | ⟨x, -, he⟩ | ⟨x, -, he⟩ | ⟨b, hb, he⟩
    · exact absurd hop ((hnot r).2.2 p)
    all_goals cases he
    exact h.bulletRange hb

end Compiler

/-- The paragraph-level operations of a compilation, for any token stream, sit on whole lines of
the text it inserts from the start index: each heading style and each bullet range starts at a
line start and is followed by a newline, and each rule border covers exactly one inserted
newline, which starts a line. -/
theorem compile_paragraphs_on_lines {T : List Token} {o : CompileOptions} {ops : List EditOperation}
    (h : compile T o = .ok ops) :
    (∀ r n, EditOperation.updateParagraphStyle r (.named n) ∈ ops →
      StartsLine ops o.startIndex r.span.start ∧ insertedChar ops r.span.stop = some '\n') ∧
    (∀ r, EditOperation.updateParagraphStyle r .bottomRule ∈ ops →
      StartsLine ops o.startIndex r.span.start ∧ r.span.stop = r.span.start + 1 ∧
        insertedChar ops r.span.start = some '\n') ∧
    ∀ r p, EditOperation.createBulletRange r p ∈ ops →
      StartsLine ops o.startIndex r.span.start ∧ insertedChar ops r.span.stop = some '\n' := by
  unfold compile at h
  split at h
  · cases h
  split at h
  · cases h
    simp
  obtain ⟨c, hrun, rfl⟩ := map_eq_ok.mp h
  have hL := Compiler.run_onLines (Compiler.onLines_start o) (Compiler.rangesInside_start o) hrun
  obtain ⟨-, texts, -, hins, -⟩ := Compiler.run_grows hrun
  have hins' : c.inserts.toList = placeTexts o.startIndex o.tabId texts := hins
  exact hL.finish fun op hop => range?_of_mem_placeTexts (hins' ▸ hop)

/-- A heading, a one-item list and a rule, compiled from offset 4: each paragraph range sits on
its own line. -/
theorem compile_paragraphs_on_lines_heading_list_rule :
    ∃ ops, compile [.headingOpen 2, .inline [.text "H"], .headingClose, .bulletListOpen, .itemOpen,
        .inline [.text "a"], .itemClose, .bulletListClose, .rule] { startIndex := 4 } = .ok ops ∧
      (∀ r n, EditOperation.updateParagraphStyle r (.named n) ∈ ops →
        StartsLine ops 4 r.span.start ∧ insertedChar ops r.span.stop = some '\n') ∧
      (∀ r, EditOperation.updateParagraphStyle r .bottomRule ∈ ops →
        StartsLine ops 4 r.span.start ∧ r.span.stop = r.span.start + 1 ∧
          insertedChar ops r.span.start = some '\n') ∧
      ∀ r p, EditOperation.createBulletRange r p ∈ ops →
        StartsLine ops 4 r.span.start ∧ insertedChar ops r.span.stop = some '\n' := by
  obtain ⟨ops, hops⟩ := exists_eq_ok_of_isOk (by decide +kernel : (compile [.headingOpen 2,
    .inline [.text "H"], .headingClose, .bulletListOpen, .itemOpen, .inline [.text "a"], .itemClose,
    .bulletListClose, .rule] { startIndex := 4 }).isOk = true)
  exact ⟨ops, hops, compile_paragraphs_on_lines hops⟩

end DocBridge
