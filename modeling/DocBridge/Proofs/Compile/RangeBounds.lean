import DocBridge.Proofs.Compile.BulletRanges

/-!
# Every range lies in the inserted text

A compilation inserts its text in one run from the start index `lo`, up to `lo` plus the
UTF-16 units of everything it inserts, and every other operation it emits addresses a range of
that text. `Span.Inside lo hi` says that a span covers at least one offset and lies between
`lo` and `hi`.

While any token stream is compiled, well-nested or not, every range the compiler records lies
inside the text inserted so far (`Compiler.RangesInside`): styled text and code lines are
recorded only when they are not empty, a heading only when it holds text, a rule as the
newline it inserts, and a list item from its start, never before `lo`, to an end that comes no
later than the cursor. An item whose end lies before its start is dropped by the merge, and a
merged bullet range starts where one item starts and ends where one item ends
(`mergeBulletRanges_spannedBy`).

`compile_ranges_inside` is the result: no compilation emits a range that is empty, inverted or
outside the text it inserts.
-/

namespace DocBridge

/-- The span covers at least one offset, and all of them lie in `[lo, hi)`. -/
def Span.Inside (lo hi : Nat) (s : Span) : Prop :=
  lo ≤ s.start ∧ s.start < s.stop ∧ s.stop ≤ hi

theorem Span.Inside.mono {lo hi hi' : Nat} {s : Span} (h : s.Inside lo hi) (hle : hi ≤ hi') :
    s.Inside lo hi' :=
  ⟨h.1, h.2.1, h.2.2.trans hle⟩

/-- The UTF-16 units an operation inserts: those of its text for an insertion, none for any
other operation. -/
def EditOperation.insertedUnits : EditOperation → Nat
  | .insertText _ s _ => Text.units16 s
  | _ => 0

theorem EditOperation.insertedUnits_of_not_insert {op : EditOperation} (h : op.isInsert = false) :
    op.insertedUnits = 0 := by
  cases op <;> simp_all [isInsert, insertedUnits]

theorem sum_insertedUnits_placeTexts (i : Nat) (tab : Option String) (ss : List String) :
    ((placeTexts i tab ss).map EditOperation.insertedUnits).sum = (ss.map Text.units16).sum := by
  induction ss generalizing i with
  | nil => rfl
  | cons s ss ih => simp [placeTexts, EditOperation.insertedUnits, ih]

theorem range?_of_mem_placeTexts {i : Nat} {tab : Option String} {ss : List String}
    {op : EditOperation} (h : op ∈ placeTexts i tab ss) : op.range? = none := by
  induction ss generalizing i with
  | nil => simp [placeTexts] at h
  | cons s ss ih =>
    rcases List.mem_cons.mp h with rfl | h
    · rfl
    · exact ih h

/-- An element of a list with one element changed is an element of the list, or the changed
one. -/
theorem mem_of_mem_modify {α : Type} {l : List α} {i : Nat} {f : α → α} {b : α}
    (h : b ∈ l.modify i f) : b ∈ l ∨ ∃ a ∈ l, b = f a := by
  obtain ⟨k, hk⟩ := List.mem_iff_getElem?.mp h
  rw [List.getElem?_modify] at hk
  obtain ⟨a, ha, rfl⟩ := Option.map_eq_some_iff.mp hk
  by_cases hik : i = k
  · exact .inr ⟨a, List.mem_of_getElem? ha, if_pos hik⟩
  · rw [if_neg hik]
    exact .inl (List.mem_of_getElem? ha)

/-! ## Merged bullet ranges -/

namespace BulletRange

/-- The range covers an offset, starts where one of the ranges `qs` starts and ends where one
of them ends. -/
def SpannedBy (qs : List BulletRange) (a : BulletRange) : Prop :=
  a.span.start < a.span.stop ∧ (∃ q ∈ qs, q.span.start = a.span.start) ∧
    ∃ q ∈ qs, q.span.stop = a.span.stop

end BulletRange

open BulletRange

/-- Joining keeps every merged range spanned by the ranges joined: a joined range keeps the
start of the last one and takes the larger of the two ends. -/
theorem mergeStep_spannedBy {qs acc : List BulletRange} {r : BulletRange}
    (hacc : ∀ a ∈ acc, SpannedBy qs a) (hr : SpannedBy qs r) :
    ∀ a ∈ mergeStep acc r, SpannedBy qs a := by
  intro a ha
  cases acc with
  | nil =>
    obtain rfl := List.mem_singleton.mp ha
    exact hr
  | cons last done =>
    simp only [mergeStep] at ha
    split at ha
    · rcases List.mem_cons.mp ha with rfl | ha
      · obtain ⟨hne, hs, q, hq, hqe⟩ := hacc last List.mem_cons_self
        refine ⟨lt_of_lt_of_le hne (le_max_left _ _), hs, ?_⟩
        rcases le_total last.span.stop r.span.stop with hle | hle
        · obtain ⟨-, -, q', hq', hq'e⟩ := hr
          exact ⟨q', hq', by simp [max_eq_right hle, hq'e]⟩
        · exact ⟨q, hq, by simp [max_eq_left hle, hqe]⟩
      · exact hacc a (List.mem_cons_of_mem _ ha)
    · rcases List.mem_cons.mp ha with rfl | ha
      · exact hr
      · exact hacc a ha

theorem foldl_mergeStep_spannedBy {qs : List BulletRange} :
    ∀ {rs acc : List BulletRange}, (∀ a ∈ acc, SpannedBy qs a) → (∀ r ∈ rs, SpannedBy qs r) →
      ∀ a ∈ rs.foldl mergeStep acc, SpannedBy qs a
  | [], _, hacc, _ => hacc
  | r :: rs, acc, hacc, hrs => by
    rw [List.foldl_cons]
    exact foldl_mergeStep_spannedBy (mergeStep_spannedBy hacc (hrs r List.mem_cons_self))
      fun r' h => hrs r' (List.mem_cons_of_mem _ h)

/-- Every bullet range of a list of items, in whatever order the items come, covers an offset
and starts and ends where the non-empty spans of the items start and end. The last sort and the
reversal only reorder the merged ranges. -/
theorem mergeBulletRanges_spannedBy (items : List ListItem) :
    ∀ r ∈ mergeBulletRanges items, SpannedBy (validRanges items) r := by
  intro r hr
  have hsorted := List.mergeSort_perm (validRanges items) fun a b => a.span.start ≤ b.span.start
  have hvalid : ∀ q ∈ (validRanges items).mergeSort (fun a b => a.span.start ≤ b.span.start),
      SpannedBy (validRanges items) q := by
    intro q hq
    have hq' := hsorted.subset hq
    obtain ⟨i, -, e, -, hlt, rfl⟩ := mem_validRanges.mp hq'
    exact ⟨hlt, ⟨_, hq', rfl⟩, ⟨_, hq', rfl⟩⟩
  have hmem := ((List.mergeSort_perm _ _).trans (List.reverse_perm _)).subset hr
  exact foldl_mergeStep_spannedBy (by simp) hvalid r hmem

/-- A text ends in a newline when its last character is one. -/
theorem Text.endsWith_newline {s : String} : s.endsWith "\n" = true ↔ ['\n'] <:+ s.toList := by
  rw [← String.endsWith_toSlice, String.Slice.endsWith_string_iff]
  simp

namespace Compiler

variable {c d e : Compiler} {lo : Nat}

/-! ## Fields the text operations keep -/

section

variable {s : String} {f : InlineFormat} {line : String}

@[simp] theorem putStyled_heading : (c.putStyled s f).heading = c.heading := by
  unfold putStyled
  split <;> rfl

@[simp] theorem putStyled_headingRanges : (c.putStyled s f).headingRanges = c.headingRanges := by
  unfold putStyled
  split <;> rfl

@[simp] theorem putStyled_ruleRanges : (c.putStyled s f).ruleRanges = c.ruleRanges := by
  unfold putStyled
  split <;> rfl

@[simp] theorem putStyled_atLineStart : (c.putStyled s f).atLineStart = s.endsWith "\n" := by
  unfold putStyled
  split <;> rfl

@[simp] theorem putCodeLine_heading : (c.putCodeLine line).heading = c.heading := by
  simp [putCodeLine]

@[simp] theorem putCodeLine_headingRanges :
    (c.putCodeLine line).headingRanges = c.headingRanges := by
  simp [putCodeLine]

@[simp] theorem putCodeLine_ruleRanges : (c.putCodeLine line).ruleRanges = c.ruleRanges := by
  simp [putCodeLine]

@[simp] theorem putCodeLine_items : (c.putCodeLine line).items = c.items := by
  simp [putCodeLine]

@[simp] theorem putCodeLine_atLineStart : (c.putCodeLine line).atLineStart = true := by
  simp only [putCodeLine, put_atLineStart]
  exact Text.endsWith_newline.mpr (by simp)

end

theorem codeLine_ne_empty (line : String) : codeLine line ≠ "" := by
  unfold codeLine
  generalize (if line.endsWith "\r" then String.ofList line.toList.dropLast else line) = cut
  dsimp only
  split
  · decide
  · rename_i h
    simpa [String.isEmpty_iff] using h

/-! ## The invariant -/

/-- What the compiler has recorded lies in the text inserted from `lo` up to the cursor: every
styled, heading and rule range covers an offset of it, the open heading and every item start no
earlier than `lo`, and every item's end, once known, comes no later than the cursor. -/
structure RangesInside (lo : Nat) (c : Compiler) : Prop where
  cursor : lo ≤ c.cursor
  heading : ∀ h, c.heading = some h → lo ≤ h.start
  textRanges : ∀ r ∈ c.textRanges.toList, r.span.Inside lo c.cursor
  headingRanges : ∀ p ∈ c.headingRanges.toList, p.1.Inside lo c.cursor
  ruleRanges : ∀ s ∈ c.ruleRanges.toList, s.Inside lo c.cursor
  items : ∀ b ∈ c.bounds, lo ≤ b.1 ∧ ∀ e, b.2 = some e → e ≤ c.cursor

theorem rangesInside_start (o : CompileOptions) : RangesInside o.startIndex (start o) where
  cursor := le_rfl
  heading h hh := by simp [start] at hh
  textRanges r hr := by simp [start] at hr
  headingRanges p hp := by simp [start] at hp
  ruleRanges s hs := by simp [start] at hs
  items b hb := by simp [start, bounds] at hb

/-- A state that moved only its cursor forward keeps its records inside the text. -/
theorem RangesInside.of_le (h : RangesInside lo c) (hc : c.cursor ≤ d.cursor)
    (hh : d.heading = c.heading) (ht : d.textRanges = c.textRanges)
    (hhr : d.headingRanges = c.headingRanges) (hr : d.ruleRanges = c.ruleRanges)
    (hb : d.bounds = c.bounds) : RangesInside lo d where
  cursor := h.cursor.trans hc
  heading k hk := h.heading k (hh ▸ hk)
  textRanges r hm := (h.textRanges r (ht ▸ hm)).mono hc
  headingRanges p hm := (h.headingRanges p (hhr ▸ hm)).mono hc
  ruleRanges s hm := (h.ruleRanges s (hr ▸ hm)).mono hc
  items b hm := by
    obtain ⟨h₁, h₂⟩ := h.items b (hb ▸ hm)
    exact ⟨h₁, fun e he => (h₂ e he).trans hc⟩

/-! ## One operation -/

theorem RangesInside.put (h : RangesInside lo c) (s : String) : RangesInside lo (c.put s) :=
  h.of_le (by simp) (put_heading c s) (put_textRanges c s) (put_headingRanges c s)
    (put_ruleRanges c s) (bounds_put s)

theorem RangesInside.insert (h : RangesInside lo c) {s : String} {sp : Span}
    (hi : c.insert s = .ok (d, sp)) : RangesInside lo d := by
  rcases insert_cases hi with rfl | rfl
  · exact h
  · exact h.put s

theorem RangesInside.ensureLineStart (h : RangesInside lo c) (he : c.ensureLineStart = .ok d) :
    RangesInside lo d := by
  rcases ensureLineStart_cases he with rfl | rfl
  · exact h
  · exact h.put "\n"

/-- Ending an item's line gives an end no later than the new cursor. -/
theorem RangesInside.finishItemLine (h : RangesInside lo c) {n : Nat}
    (hf : c.finishItemLine = .ok (d, n)) : RangesInside lo d ∧ n ≤ d.cursor := by
  rcases finishItemLine_eq_ok.mp hf with ⟨-, rfl, rfl⟩ | ⟨-, -, rfl, rfl⟩
  · exact ⟨h, Nat.sub_le _ _⟩
  · exact ⟨h.put "\n", by simp⟩

theorem RangesInside.setItemStop (h : RangesInside lo c) {idx n : Nat} (hn : n ≤ c.cursor) :
    RangesInside lo (c.setItemStop idx n) where
  cursor := h.cursor
  heading := h.heading
  textRanges := h.textRanges
  headingRanges := h.headingRanges
  ruleRanges := h.ruleRanges
  items b hb := by
    rw [bounds_setItemStop] at hb
    rcases mem_of_mem_modify hb with hb | ⟨a, ha, rfl⟩
    · exact h.items b hb
    · refine ⟨(h.items a ha).1, fun e he => ?_⟩
      cases he
      exact hn

theorem RangesInside.endItemLine (h : RangesInside lo c) (he : c.endItemLine = .ok d) :
    RangesInside lo d := by
  rcases endItemLine_cases he with rfl | ⟨idx, e, n, hf, rfl⟩
  · exact h
  · obtain ⟨he, hn⟩ := h.finishItemLine hf
    exact he.setItemStop hn

theorem RangesInside.openHeading (h : RangesInside lo c) {l : Nat} (ho : c.openHeading l = .ok d) :
    RangesInside lo d := by
  obtain ⟨-, e, he, rfl⟩ := openHeading_eq_ok.mp ho
  have he' := h.ensureLineStart he
  exact ⟨he'.cursor, fun k hk => by cases hk; exact he'.cursor, he'.textRanges,
    he'.headingRanges, he'.ruleRanges, he'.items⟩

/-- Recording the open heading adds its range only when it holds text, which lies after its
start. -/
theorem RangesInside.recordHeading (h : RangesInside lo c) {oh : OpenHeading}
    (hh : c.heading = some oh) : RangesInside lo (c.recordHeading oh) where
  cursor := h.cursor
  heading k hk := by simp at hk
  textRanges := h.textRanges
  headingRanges p hp := by
    simp only [recordHeading_headingRanges, recordHeading_cursor] at hp ⊢
    split at hp
    · exact h.headingRanges p hp
    · rename_i hne
      rw [Array.toList_push, List.mem_append, List.mem_singleton] at hp
      rcases hp with hp | rfl
      · exact h.headingRanges p hp
      · rw [Span.isEmpty_iff] at hne
        exact ⟨h.heading oh hh, Nat.lt_of_not_le hne, le_rfl⟩
  ruleRanges := h.ruleRanges
  items := h.items

theorem RangesInside.closeHeading (h : RangesInside lo c) (hc : c.closeHeading = .ok d) :
    RangesInside lo d := by
  rcases closeHeading_eq_ok.mp hc with ⟨-, rfl⟩ | ⟨oh, hh, -, rfl⟩
  · exact h
  · exact (h.recordHeading hh).put "\n"

/-- A styled text is recorded over the non-empty text it inserts. -/
theorem RangesInside.putStyled (h : RangesInside lo c) {s : String} (hs : s ≠ "")
    (f : InlineFormat) : RangesInside lo (c.putStyled s f) := by
  have hpos := units16_pos hs
  unfold Compiler.putStyled
  split
  · exact h.put s
  · refine ⟨by simpa using h.cursor.trans (Nat.le_add_right _ _), h.heading, fun r hr => ?_,
      fun p hp => (h.headingRanges p hp).mono (by simp), fun s hs => (h.ruleRanges s hs).mono (by simp),
      (h.put s).items⟩
    simp only [Array.toList_push, List.mem_append, List.mem_singleton] at hr
    rcases hr with hr | rfl
    · exact (h.textRanges r hr).mono (by simp)
    · exact ⟨h.cursor, by simp [hpos], by simp⟩

theorem RangesInside.insertStyled (h : RangesInside lo c) {s : String} {f : InlineFormat}
    (hi : c.insertStyled s f = .ok d) : RangesInside lo d := by
  rcases insertStyled_eq_ok.mp hi with ⟨-, rfl⟩ | ⟨hs, -, rfl⟩
  · exact h
  · exact h.putStyled hs f

theorem RangesInside.takeTaskPrefix (h : RangesInside lo c) (s : String) :
    RangesInside lo (c.takeTaskPrefix s).1 :=
  h.of_le (by rw [takeTaskPrefix_fst]) (by rw [takeTaskPrefix_fst]) (by rw [takeTaskPrefix_fst])
    (by rw [takeTaskPrefix_fst]) (by rw [takeTaskPrefix_fst]) (bounds_takeTaskPrefix s)

/-- A code line is recorded over its text, which is never empty, without its newline. -/
theorem RangesInside.putCodeLine (h : RangesInside lo c) (line : String) :
    RangesInside lo (c.putCodeLine line) := by
  have hpos := units16_pos (codeLine_ne_empty line)
  have hlo := h.cursor
  have hcur : (c.putCodeLine line).cursor = c.cursor + Text.units16 (codeLine line) + 1 := by
    simp [Text.units16_append, units16_newline, Nat.add_assoc]
  refine ⟨by omega, by simpa using h.heading, fun r hr => ?_,
    fun p hp => (h.headingRanges p (by simpa using hp)).mono (by omega),
    fun s hs => (h.ruleRanges s (by simpa using hs)).mono (by omega), fun b hb => ?_⟩
  · simp only [putCodeLine_textRanges, Array.toList_push, List.mem_append, List.mem_singleton] at hr
    rcases hr with hr | rfl
    · exact (h.textRanges r hr).mono (by omega)
    · exact ⟨h.cursor, by simp [hpos], by simp only; omega⟩
  · have hb' : b ∈ c.bounds := by simpa [bounds] using hb
    obtain ⟨h₁, h₂⟩ := h.items b hb'
    exact ⟨h₁, fun e he => (h₂ e he).trans (by omega)⟩

theorem RangesInside.addCode (h : RangesInside lo c) {content : String}
    (ha : c.addCode content = .ok d) : RangesInside lo d := by
  rw [addCode_eq] at ha
  obtain ⟨e₁, h₁, e₂, h₂, h₃⟩ := by simpa only [bind_eq_ok] using ha
  obtain ⟨⟨e₃, sp⟩, he₃, rfl⟩ := map_eq_ok.mp h₃
  have hlines : RangesInside lo e₂ :=
    foldlM_invariant (RangesInside lo) (fun _ _ _ hr hs => by
      obtain ⟨-, rfl⟩ := codeLineStep_eq_ok.mp hs
      exact hr.putCodeLine _) (h.ensureLineStart h₁) h₂
  exact hlines.insert he₃

theorem RangesInside.openItem (h : RangesInside lo c) (ho : c.openItem = .ok d) :
    RangesInside lo d := by
  obtain ⟨frame, rest, -, e, he, e', sp, he', rfl⟩ := openItem_eq_ok.mp ho
  have hle := (insert_grows he').cursor_le
  have he₁ := h.ensureLineStart he
  have he₂ := he₁.insert he'
  refine ⟨he₂.cursor, he₂.heading, he₂.textRanges, he₂.headingRanges, he₂.ruleRanges,
    fun b hb => ?_⟩
  have hb' : b ∈ e'.bounds ++ [(e.cursor, none)] := by simpa [bounds] using hb
  rcases List.mem_append.mp hb' with hb' | hb'
  · exact he₂.items b hb'
  · obtain rfl := List.mem_singleton.mp hb'
    exact ⟨he₁.cursor, fun _ he => by cases he⟩

theorem RangesInside.closeItem (h : RangesInside lo c) (hc : c.closeItem = .ok d) :
    RangesInside lo d := by
  have hpop : RangesInside lo { c with openItems := c.openItems.tail } :=
    h.of_le le_rfl rfl rfl rfl rfl rfl
  rcases closeItem_cases hc with ⟨-, rfl⟩ | rfl | ⟨idx, e, n, hf, rfl⟩ | he
  · exact h
  · exact hpop
  · obtain ⟨he, hn⟩ := hpop.finishItemLine hf
    exact he.setItemStop hn
  · exact hpop.ensureLineStart he

theorem RangesInside.rule (h : RangesInside lo c) (hr : c.step .rule = .ok d) :
    RangesInside lo d := by
  obtain ⟨e, he, -, rfl⟩ := rule_eq_ok.mp hr
  have he₁ := h.ensureLineStart he
  have he₂ := he₁.put "\n"
  refine ⟨he₂.cursor, he₂.heading, he₂.textRanges, he₂.headingRanges, fun s hs => ?_, he₂.items⟩
  simp only [Array.toList_push, List.mem_append, List.mem_singleton] at hs
  rcases hs with hs | rfl
  · exact he₂.ruleRanges s hs
  · exact ⟨he₁.cursor, by simp, by simp [units16_newline]⟩

/-! ## A run -/

/-- Every token keeps the records inside the text, whatever the stream around it. -/
theorem step_rangesInside (h : RangesInside lo c) {t : Token} (hs : c.step t = .ok d) :
    RangesInside lo d := by
  cases t
  case headingOpen l => exact h.openHeading hs
  case headingClose => exact h.closeHeading hs
  case paragraphClose => exact h.ensureLineStart hs
  case text s =>
    rw [step, addText_eq] at hs
    exact (h.takeTaskPrefix s).insertStyled hs
  case codeInline s => exact h.insertStyled hs
  case bulletListOpen | orderedListOpen =>
    obtain ⟨e, h₁, e', h₂, rfl⟩ := openList_eq_ok.mp hs
    exact ((h.endItemLine h₁).ensureLineStart h₂).of_le le_rfl rfl rfl rfl rfl rfl
  case itemOpen => exact h.openItem hs
  case itemClose => exact h.closeItem hs
  case softBreak | hardBreak =>
    obtain ⟨⟨e, sp⟩, he, rfl⟩ := map_eq_ok.mp hs
    exact h.insert he
  case fence _ content | codeBlock content => exact h.addCode hs
  case rule => exact h.rule hs
  all_goals
    simp only [step, Except.ok.injEq] at hs
    subst hs
    exact h.of_le le_rfl rfl rfl rfl rfl rfl

theorem run_rangesInside {ts : List Token} (h : RangesInside lo c) (hrun : ts.foldlM step c = .ok d) :
    RangesInside lo d :=
  foldlM_invariant (RangesInside lo) (fun _ _ _ hr hs => step_rangesInside hr hs) h hrun

/-! ## The finished operations -/

/-- A merged bullet range starts where an item starts and ends where an item ends. -/
theorem RangesInside.bulletRange (h : RangesInside lo c) {b : BulletRange}
    (hb : b ∈ mergeBulletRanges c.items.toList) : b.span.Inside lo c.cursor := by
  obtain ⟨hne, ⟨q, hq, hqs⟩, ⟨q', hq', hq'e⟩⟩ := mergeBulletRanges_spannedBy _ b hb
  obtain ⟨i, hi, e, he, -, rfl⟩ := mem_validRanges.mp hq
  obtain ⟨i', hi', e', he', -, rfl⟩ := mem_validRanges.mp hq'
  have hstart := (h.items (i.start, i.stop) (List.mem_map_of_mem hi)).1
  have hstop := (h.items (i'.start, i'.stop) (List.mem_map_of_mem hi')).2 e' he'
  dsimp only at hqs hq'e
  exact ⟨hqs ▸ hstart, hne, hq'e ▸ hstop⟩

/-- What `finish` emits: the insertions, the text styles of the styled ranges, the named styles
of the heading ranges, the borders of the rule ranges and the merged bullet ranges. A styled range
gives its decoration and its link, each on the range's span. -/
theorem mem_finish {op : EditOperation} (h : op ∈ c.finish) :
    op ∈ c.inserts.toList ∨
      (∃ t ∈ c.textRanges.toList, ∃ st, op = .updateTextStyle ⟨t.span, c.tabId⟩ st) ∨
      (∃ p ∈ c.headingRanges.toList, op = .updateParagraphStyle ⟨p.1, c.tabId⟩ (.named p.2)) ∨
      (∃ s ∈ c.ruleRanges.toList, op = .updateParagraphStyle ⟨s, c.tabId⟩ .bottomRule) ∨
      ∃ b ∈ mergeBulletRanges c.items.toList, op = .createBulletRange ⟨b.span, c.tabId⟩ b.preset := by
  simp only [Compiler.finish, List.mem_append, List.mem_flatMap, List.mem_map] at h
  rcases h with (((h | ⟨t, ht, h⟩) | ⟨p, hp, rfl⟩) | ⟨s, hs, rfl⟩) | ⟨b, hb, rfl⟩
  · exact .inl h
  · refine .inr (.inl ⟨t, ht, ?_⟩)
    rcases h with h | h <;> (split at h <;> simp at h) <;> exact ⟨_, h⟩
  · exact .inr (.inr (.inl ⟨p, hp, rfl⟩))
  · exact .inr (.inr (.inr (.inl ⟨s, hs, rfl⟩)))
  · exact .inr (.inr (.inr (.inr ⟨b, hb, rfl⟩)))

/-- Every range that `finish` emits lies inside the text, when the insertions name none. -/
theorem RangesInside.finish (h : RangesInside lo c)
    (hins : ∀ op ∈ c.inserts.toList, op.range? = none) :
    ∀ op ∈ c.finish, ∀ r, op.range? = some r → r.span.Inside lo c.cursor := by
  intro op hop r hr
  rcases mem_finish hop with hop | ⟨t, ht, st, rfl⟩ | ⟨p, hp, rfl⟩ | ⟨s, hs, rfl⟩ | ⟨b, hb, rfl⟩
  · rw [hins op hop] at hr
    cases hr
  all_goals
    simp only [EditOperation.range?, Option.some.injEq] at hr
    subst hr
  · exact h.textRanges t ht
  · exact h.headingRanges p hp
  · exact h.ruleRanges s hs
  · exact h.bulletRange hb

end Compiler

/-- The operations of a compilation address only the text it inserts: every range they name
covers at least one offset, starts no earlier than the start index, and ends no later than the
start index plus the UTF-16 units of all the inserted texts. This holds of every token stream,
well-nested or not. The operations after the insertions insert nothing, so the bound is the units of
the inserted texts. -/
theorem compile_ranges_inside {T : List Token} {o : CompileOptions} {ops : List EditOperation}
    (h : compile T o = .ok ops) :
    ∀ op ∈ ops, ∀ r, op.range? = some r →
      o.startIndex ≤ r.span.start ∧ r.span.start < r.span.stop ∧
        r.span.stop ≤ o.startIndex + (ops.map EditOperation.insertedUnits).sum := by
  unfold compile at h
  split at h
  · cases h
  split at h
  · cases h
    simp
  obtain ⟨c, hrun, rfl⟩ := map_eq_ok.mp h
  have hI := Compiler.run_rangesInside (Compiler.rangesInside_start o) hrun
  obtain ⟨-, texts, -, hins, hcur⟩ := Compiler.run_grows hrun
  have hins' : c.inserts.toList = placeTexts o.startIndex o.tabId texts := hins
  have hsum : (c.finish.map EditOperation.insertedUnits).sum = (texts.map Text.units16).sum := by
    obtain ⟨rest, hfin, hrest⟩ := c.finish_eq_inserts_append
    have hzero : (rest.map EditOperation.insertedUnits).sum = 0 :=
      List.sum_eq_zero fun n hn => by
        obtain ⟨op, hop, rfl⟩ := List.mem_map.mp hn
        exact EditOperation.insertedUnits_of_not_insert (hrest op hop).1
    rw [hfin, List.map_append, List.sum_append, hzero, hins', sum_insertedUnits_placeTexts]
    rfl
  intro op hop r hr
  have hin := hI.finish (fun op hop => range?_of_mem_placeTexts (hins' ▸ hop)) op hop r hr
  rw [hsum, ← show c.cursor = o.startIndex + (texts.map Text.units16).sum from hcur]
  exact hin

/-- A heading, a list whose first item is empty and whose second is bold, a rule and a code
block, compiled from offset 3: every range lies in the inserted text. -/
theorem compile_ranges_inside_mixed :
    ∃ ops, compile [.headingOpen 1, .inline [.text "T"], .headingClose, .bulletListOpen,
        .itemOpen, .itemClose, .itemOpen, .inline [.strongOpen, .text "b", .strongClose],
        .itemClose, .bulletListClose, .rule, .fence "" "x\n"] { startIndex := 3 } = .ok ops ∧
      ∀ op ∈ ops, ∀ r, op.range? = some r →
        3 ≤ r.span.start ∧ r.span.start < r.span.stop ∧
          r.span.stop ≤ 3 + (ops.map EditOperation.insertedUnits).sum := by
  obtain ⟨ops, hops⟩ := exists_eq_ok_of_isOk (by decide +kernel : (compile [.headingOpen 1,
    .inline [.text "T"], .headingClose, .bulletListOpen, .itemOpen, .itemClose, .itemOpen,
    .inline [.strongOpen, .text "b", .strongClose], .itemClose, .bulletListClose, .rule,
    .fence "" "x\n"] { startIndex := 3 }).isOk = true)
  exact ⟨ops, hops, compile_ranges_inside hops⟩

end DocBridge
