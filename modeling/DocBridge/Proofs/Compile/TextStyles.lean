import DocBridge.Proofs.Compile.StyleUpdates

/-!
# The style of every inserted offset

Each token of a compiled stream inserts the text between the cursor before it and the cursor
after it. The style that the compiled text style updates give such an offset depends only on
the token and the character there (`Token.insertedStyle`): text gets the formatting the marks
before it leave in effect (`MarksInEffect`), inline code that and the code treatment, a code
block the code treatment on every character but its newlines (the one-space placeholder of an
empty line included), and every other offset (breaks, newlines, the tabs of list items) no
style at all. The updates give that style in any order (`compile_text_styles`).

`Compiler.Writes c d texts new` says what a stretch of the run writes: the texts it inserts
from the cursor of `c` and the styled ranges it records, in order and within those texts.
`Compiler.StylesAs` says that those ranges give each inserted offset the style that a rule
gives the character there. Every token writes its texts and ranges so (`step_writes`): the
ranges of a text token cover its text in its format, those of a code block each line up to its
newline, and the other tokens record none.
-/

namespace DocBridge

/-- The code treatment on every character but a newline. -/
def codeStyle (ch : Char) : TextStyle := if ch = '\n' then {} else TextStyle.code

/-- The style a token gives the offsets it inserts, at character `ch`, where `marks code` is
the style of text under the marks in effect: text takes the marks, inline code the marks and
the code treatment, a code block the code treatment on all but its newlines, and every other
token no style. -/
def Token.insertedStyle (marks : Bool → TextStyle) (ch : Char) : Token → TextStyle
  | .text _ => marks false
  | .codeInline _ => marks true
  | .fence _ _ | .codeBlock _ => codeStyle ch
  | _ => {}

theorem Token.insertedStyle_of_not_styling {t : Token} {marks : Bool → TextStyle} {ch : Char}
    (ht : t.isStyling = false) : t.insertedStyle marks ch = {} := by
  cases t <;> simp_all [Token.isStyling, Token.isMark, Token.insertedStyle]

/-! ## Lines of code blocks -/

theorem forall_of_mem_splitOnPPrepend {α : Type} {p : α → Bool} :
    ∀ {xs acc l : List α}, (∀ x ∈ acc, p x = false) → l ∈ List.splitOnPPrepend p xs acc →
      ∀ x ∈ l, p x = false
  | [], acc, l, hacc, hl => by
    rw [List.splitOnPPrepend_nil, List.mem_singleton] at hl
    subst hl
    simpa using hacc
  | a :: xs, acc, l, hacc, hl => by
    by_cases ha : p a = true
    · rw [List.splitOnPPrepend_cons_pos ha, List.mem_cons] at hl
      rcases hl with rfl | hl
      · simpa using hacc
      · exact forall_of_mem_splitOnPPrepend (by simp) hl
    · rw [List.splitOnPPrepend_cons_neg (by simpa using ha)] at hl
      refine forall_of_mem_splitOnPPrepend (fun x hx => ?_) hl
      rcases List.mem_cons.mp hx with rfl | hx
      · simpa using ha
      · exact hacc x hx

/-- No part of a list split at a separator holds the separator. -/
theorem not_mem_of_mem_splitOn {a : Char} {xs l : List Char} (hl : l ∈ xs.splitOn a) : a ∉ l :=
  fun ha => by
    have h := forall_of_mem_splitOnPPrepend (by simp) hl a ha
    simp at h

namespace Compiler

theorem newline_not_mem_codeLines {content line : String} (h : line ∈ codeLines content) :
    '\n' ∉ line.toList := by
  obtain ⟨l, hl, rfl⟩ := List.mem_map.mp h
  rw [String.toList_ofList]
  exact not_mem_of_mem_splitOn hl

theorem newline_not_mem_codeLine {line : String} (h : '\n' ∉ line.toList) :
    '\n' ∉ (codeLine line).toList := by
  have hcut : '\n' ∉ (if line.endsWith "\r" then String.ofList line.toList.dropLast else line).toList := by
    split
    · rw [String.toList_ofList]
      exact fun hm => h (List.dropLast_subset _ hm)
    · exact h
  unfold codeLine
  dsimp only
  generalize (if line.endsWith "\r" then String.ofList line.toList.dropLast else line) = cut at hcut ⊢
  split
  · decide
  · exact hcut

/-! ## What a stretch of the run writes -/

variable {c d e : Compiler} {ts ts' : List String} {n n' : List TextRange}

/-- `d` is `c` with `texts` inserted one after another from the cursor of `c`, and the styled
ranges `new` recorded after those of `c`, one after another and within the inserted text. -/
structure Writes (c d : Compiler) (texts : List String) (new : List TextRange) : Prop where
  tabId : d.tabId = c.tabId
  inserts : d.inserts.toList = c.inserts.toList ++ placeTexts c.cursor c.tabId texts
  cursor : d.cursor = c.cursor + (texts.map Text.units16).sum
  ranges : d.textRanges.toList = c.textRanges.toList ++ new
  sorted : new.Pairwise TextRange.Before
  within : ∀ r ∈ new, c.cursor ≤ r.span.start ∧ r.span.stop ≤ d.cursor

theorem Writes.refl (c : Compiler) : Writes c c [] [] :=
  ⟨rfl, by simp [placeTexts], by simp, by simp, .nil, by simp⟩

theorem Writes.cursor_le (h : Writes c d ts n) : c.cursor ≤ d.cursor := by
  rw [h.cursor]
  exact Nat.le_add_right _ _

theorem Writes.trans (h₁ : Writes c d ts n) (h₂ : Writes d e ts' n') :
    Writes c e (ts ++ ts') (n ++ n') where
  tabId := h₂.tabId.trans h₁.tabId
  inserts := by
    rw [h₂.inserts, h₁.inserts, placeTexts_append, ← h₁.cursor, h₁.tabId, List.append_assoc]
  cursor := by simp [h₂.cursor, h₁.cursor, Nat.add_assoc]
  ranges := by rw [h₂.ranges, h₁.ranges, List.append_assoc]
  sorted := List.pairwise_append.mpr ⟨h₁.sorted, h₂.sorted,
    fun r hr r' hr' => (h₁.within r hr).2.trans (h₂.within r' hr').1⟩
  within := by
    intro r hr
    have hcd := h₁.cursor_le
    have hde := h₂.cursor_le
    rcases List.mem_append.mp hr with hr | hr
    · exact ⟨(h₁.within r hr).1, (h₁.within r hr).2.trans hde⟩
    · exact ⟨hcd.trans (h₂.within r hr).1, (h₂.within r hr).2⟩

/-- Writing looks only at the tab, the insertions, the cursor and the styled ranges. -/
theorem Writes.congr {c' d' : Compiler} (h : Writes c d ts n) (htc : c'.tabId = c.tabId)
    (hic : c'.inserts = c.inserts) (hcc : c'.cursor = c.cursor) (hrc : c'.textRanges = c.textRanges)
    (htd : d'.tabId = d.tabId) (hid : d'.inserts = d.inserts) (hcd : d'.cursor = d.cursor)
    (hrd : d'.textRanges = d.textRanges) : Writes c' d' ts n where
  tabId := by rw [htd, htc, h.tabId]
  inserts := by rw [hid, hic, hcc, htc, h.inserts]
  cursor := by rw [hcd, hcc, h.cursor]
  ranges := by rw [hrd, hrc, h.ranges]
  sorted := h.sorted
  within := by rw [hcc, hcd]; exact h.within

theorem writes_put (s : String) : Writes c (c.put s) [s] [] :=
  ⟨rfl, by simp [placeTexts], by simp, by simp, .nil, by simp⟩

theorem writes_of_grows (hg : Grows c d) (hr : d.textRanges = c.textRanges) :
    ∃ ts, Writes c d ts [] := by
  obtain ⟨ht, ts, -, hi, hc⟩ := hg
  exact ⟨ts, ht, hi, hc, by simp [hr], .nil, by simp⟩

/-- The ranges `new` give the offset of each inserted code unit, from offset `a` on, the style
that `F` gives its character. -/
def StylesAs (new : List TextRange) (a : Nat) (chars : List Char) (F : Char → TextStyle) : Prop :=
  ∀ q (hq : q < chars.length), (formatAt new (a + q)).style = F chars[q]

theorem stylesAs_nil {a : Nat} {chars : List Char} {F : Char → TextStyle}
    (h : ∀ ch ∈ chars, F ch = {}) : StylesAs [] a chars F := fun q hq => by
  rw [formatAt_nil, h _ (List.getElem_mem hq)]
  rfl

/-- Two writes one after the other style what they insert as each does alone. An offset of the first
write lies before the second write's ranges, and an offset of the second write after the first
write's ranges. -/
theorem StylesAs.append {F : Char → TextStyle} (h₁ : Writes c d ts n) (h₂ : Writes d e ts' n')
    (s₁ : StylesAs n c.cursor (ts.flatMap Text.unitChars) F)
    (s₂ : StylesAs n' d.cursor (ts'.flatMap Text.unitChars) F) :
    StylesAs (n ++ n') c.cursor ((ts ++ ts').flatMap Text.unitChars) F := by
  intro q hq
  have hlen : d.cursor = c.cursor + (ts.flatMap Text.unitChars).length := by
    rw [Text.length_flatMap_unitChars, h₁.cursor]
  simp only [List.flatMap_append] at hq ⊢
  by_cases hlt : q < (ts.flatMap Text.unitChars).length
  · have hafter : ∀ r ∈ n', c.cursor + q ∉ r.span := fun r hr hm => by
      have := (h₂.within r hr).1
      simp only [Span.mem_iff] at hm
      omega
    rw [List.getElem_append_left hlt, formatAt_append_of_not_mem_right hafter]
    exact s₁ q hlt
  · have hge : (ts.flatMap Text.unitChars).length ≤ q := Nat.le_of_not_lt hlt
    have hbefore : ∀ r ∈ n, c.cursor + q ∉ r.span := fun r hr hm => by
      have := (h₁.within r hr).2
      simp only [Span.mem_iff] at hm
      omega
    have hq' : q - (ts.flatMap Text.unitChars).length < (ts'.flatMap Text.unitChars).length := by
      simp only [List.length_append] at hq
      omega
    have hoff : c.cursor + q = d.cursor + (q - (ts.flatMap Text.unitChars).length) := by omega
    rw [List.getElem_append_right hge, formatAt_append_of_not_mem hbefore, hoff]
    exact s₂ _ hq'

/-! ## One token -/

theorem writes_of_insert {s : String} {sp : Span} (h : c.insert s = .ok (d, sp)) :
    ∃ ts, Writes c d ts [] ∧ ∀ t ∈ ts, t = s := by
  rcases insert_cases h with rfl | rfl
  · exact ⟨[], .refl _, by simp⟩
  · exact ⟨[s], writes_put s, by simp⟩

theorem writes_of_ensureLineStart (h : c.ensureLineStart = .ok d) :
    ∃ ts, Writes c d ts [] ∧ ∀ t ∈ ts, t = "\n" := by
  rcases ensureLineStart_cases h with rfl | rfl
  · exact ⟨[], .refl _, by simp⟩
  · exact ⟨["\n"], writes_put "\n", by simp⟩

/-- Inserted newlines get no style from a code block. -/
theorem stylesAs_newlines {a : Nat} {ts : List String} (h : ∀ t ∈ ts, t = "\n") :
    StylesAs [] a (ts.flatMap Text.unitChars) codeStyle := by
  refine stylesAs_nil fun ch hch => ?_
  obtain ⟨t, ht, hch⟩ := List.mem_flatMap.mp hch
  rw [h t ht, Text.unitChars_newline, List.mem_singleton] at hch
  rw [hch]
  rfl

/-- Text inserted in format `f` has the style of `f` throughout. A plain format is the empty one,
which is what no range gives. -/
theorem writes_of_insertStyled {s : String} {f : InlineFormat} (h : c.insertStyled s f = .ok d) :
    ∃ ts n, Writes c d ts n ∧ StylesAs n c.cursor (ts.flatMap Text.unitChars) fun _ => f.style := by
  rcases insertStyled_eq_ok.mp h with ⟨-, rfl⟩ | ⟨-, -, rfl⟩
  · exact ⟨[], [], .refl _, fun q hq => absurd hq (by simp)⟩
  have hput : Writes c (c.put s) [s] [] := writes_put s
  unfold putStyled
  split
  · rename_i hplain
    have hf : f = {} := by simpa [InlineFormat.isPlain] using hplain
    exact ⟨[s], [], hput, stylesAs_nil fun _ _ => by rw [hf]; rfl⟩
  · refine ⟨[s], [⟨⟨c.cursor, c.cursor + Text.units16 s⟩, f⟩],
      ⟨rfl, hput.inserts, hput.cursor, by simp, List.pairwise_singleton _ _, by simp⟩, ?_⟩
    intro q hq
    have hq' : q < Text.units16 s := by simpa using hq
    rw [formatAt_cons_of_mem (by simp only [Span.mem_iff]; omega)]

/-- A line of a code block has the code treatment up to its newline. A character of the line is no
newline and lies in the line's range; the newline that ends the line lies outside it. -/
theorem writes_putCodeLine {line : String} (hl : '\n' ∉ line.toList) :
    Writes c (c.putCodeLine line) [codeLine line ++ "\n"]
        [⟨⟨c.cursor, c.cursor + Text.units16 (codeLine line)⟩, .codeOnly⟩] ∧
      StylesAs [⟨⟨c.cursor, c.cursor + Text.units16 (codeLine line)⟩, .codeOnly⟩] c.cursor
        ([codeLine line ++ "\n"].flatMap Text.unitChars) codeStyle := by
  have hput := writes_put (c := c) (codeLine line ++ "\n")
  have hw : Writes c (c.putCodeLine line) [codeLine line ++ "\n"]
      [⟨⟨c.cursor, c.cursor + Text.units16 (codeLine line)⟩, .codeOnly⟩] :=
    ⟨putCodeLine_tabId, by rw [putCodeLine_inserts]; exact hput.inserts,
      by rw [putCodeLine_cursor]; exact hput.cursor, by simp, List.pairwise_singleton _ _,
      by simp [Text.units16_append]⟩
  refine ⟨hw, fun q hq => ?_⟩
  simp only [List.flatMap_cons, List.flatMap_nil, List.append_nil, Text.unitChars_append,
    Text.unitChars_newline] at hq ⊢
  by_cases hlt : q < (Text.unitChars (codeLine line)).length
  · have hch : (Text.unitChars (codeLine line))[q] ≠ '\n' := fun h =>
      newline_not_mem_codeLine hl (Text.mem_unitChars.mp (h ▸ List.getElem_mem hlt))
    have hu : q < Text.units16 (codeLine line) := by simpa using hlt
    rw [List.getElem_append_left hlt, formatAt_cons_of_mem (by simp only [Span.mem_iff]; omega),
      codeStyle, if_neg hch]
    rfl
  · have hge : (Text.unitChars (codeLine line)).length ≤ q := Nat.le_of_not_lt hlt
    have hu : Text.units16 (codeLine line) ≤ q := by simpa using hge
    have hnl : (Text.unitChars (codeLine line) ++ ['\n'])[q] = '\n' := by
      rw [List.getElem_append_right hge, List.getElem_singleton]
    rw [hnl, formatAt_cons_of_not_mem (by simp only [Span.mem_iff]; omega)]
    simp [codeStyle]
    rfl

/-- The lines of a code block, each with the code treatment up to its newline. -/
theorem writes_of_codeLines :
    ∀ {lines : List String} {c d : Compiler}, (∀ l ∈ lines, '\n' ∉ l.toList) →
      lines.foldlM codeLineStep c = .ok d →
      ∃ ts n, Writes c d ts n ∧ StylesAs n c.cursor (ts.flatMap Text.unitChars) codeStyle
  | [], c, d, _, h => by
    simp only [List.foldlM_nil, pure_eq_ok] at h
    subst h
    exact ⟨[], [], .refl _, fun q hq => absurd hq (by simp)⟩
  | line :: lines, c, d, hl, h => by
    rw [List.foldlM_cons, bind_eq_ok] at h
    obtain ⟨c₁, h₁, h₂⟩ := h
    obtain ⟨-, rfl⟩ := codeLineStep_eq_ok.mp h₁
    obtain ⟨hw₁, hs₁⟩ := writes_putCodeLine (c := c) (hl line List.mem_cons_self)
    obtain ⟨ts, n, hw₂, hs₂⟩ :=
      writes_of_codeLines (fun l hm => hl l (List.mem_cons_of_mem _ hm)) h₂
    exact ⟨_, _, hw₁.trans hw₂, StylesAs.append hw₁ hw₂ hs₁ hs₂⟩

theorem writes_of_addCode {content : String} (h : c.addCode content = .ok d) :
    ∃ ts n, Writes c d ts n ∧ StylesAs n c.cursor (ts.flatMap Text.unitChars) codeStyle := by
  simp only [addCode_eq, bind_eq_ok] at h
  obtain ⟨e₁, h₁, e₂, h₂, h₃⟩ := h
  obtain ⟨⟨e₃, sp⟩, he₃, rfl⟩ := map_eq_ok.mp h₃
  obtain ⟨ts₁, hw₁, hn₁⟩ := writes_of_ensureLineStart h₁
  obtain ⟨ts₂, n₂, hw₂, hs₂⟩ := writes_of_codeLines (fun l hl => newline_not_mem_codeLines hl) h₂
  obtain ⟨ts₃, hw₃, hn₃⟩ := writes_of_insert he₃
  exact ⟨_, _, (hw₁.trans hw₂).trans hw₃, StylesAs.append (hw₁.trans hw₂) hw₃
    (StylesAs.append hw₁ hw₂ (stylesAs_newlines hn₁) hs₂) (stylesAs_newlines hn₃)⟩

/-- What one token writes, and the style its ranges give each offset it inserts: the style
the token gives the character there under the marks of the state it is applied to. -/
theorem step_writes {t : Token} (h : c.step t = .ok d) :
    ∃ ts n, Writes c d ts n ∧ StylesAs n c.cursor (ts.flatMap Text.unitChars)
      fun ch => t.insertedStyle (fun code => { c.marks.snapshot with code }.style) ch := by
  cases hs : t.isStyling
  · obtain ⟨ts, hw⟩ := writes_of_grows (step_grows h) (step_keepsStyles h hs).2
    exact ⟨ts, [], hw, stylesAs_nil fun ch _ => Token.insertedStyle_of_not_styling hs⟩
  cases t <;> simp only [Token.isStyling, Token.isMark, Bool.false_or, reduceCtorEq] at hs
  case text s =>
    rw [step, addText_eq] at h
    obtain ⟨ts, n, hw, hst⟩ := writes_of_insertStyled h
    have hfst := takeTaskPrefix_fst (c := c) s
    refine ⟨ts, n, hw.congr (by rw [hfst]) (by rw [hfst]) (by rw [hfst]) (by rw [hfst])
      rfl rfl rfl rfl, ?_⟩
    have hcur : (c.takeTaskPrefix s).1.cursor = c.cursor := by rw [hfst]
    rw [← hcur]
    exact hst
  case codeInline s =>
    exact writes_of_insertStyled h
  case fence _ content | codeBlock content =>
    exact writes_of_addCode h
  all_goals
    simp only [step, Except.ok.injEq] at h
    subst h
    exact ⟨[], [], (Writes.refl c).congr rfl rfl rfl rfl rfl rfl rfl rfl,
      fun q hq => absurd hq (by simp)⟩

/-- What a run writes, one token after the other. -/
theorem run_writes : ∀ {ts : List Token} {c d : Compiler}, ts.foldlM step c = .ok d →
    ∃ texts new, Writes c d texts new
  | [], c, d, h => by
    simp only [List.foldlM_nil, pure_eq_ok] at h
    subst h
    exact ⟨[], [], .refl c⟩
  | t :: ts, c, d, h => by
    rw [List.foldlM_cons, bind_eq_ok] at h
    obtain ⟨c₁, h₁, h₂⟩ := h
    obtain ⟨ts₁, n₁, hw₁, -⟩ := step_writes h₁
    obtain ⟨ts₂, n₂, hw₂⟩ := run_writes h₂
    exact ⟨_, _, hw₁.trans hw₂⟩

/-- An offset that a run passes over is inserted by one of its tokens. -/
theorem run_step_at {p : Nat} : ∀ {ts : List Token} {c e : Compiler}, ts.foldlM step c = .ok e →
    c.cursor ≤ p → p < e.cursor →
    ∃ (pre : List Token) (t : Token) (post : List Token) (c' d' : Compiler),
      ts = pre ++ t :: post ∧ pre.foldlM step c = .ok c' ∧
      c'.step t = .ok d' ∧ c'.cursor ≤ p ∧ p < d'.cursor
  | [], c, e, h, h₁, h₂ => by
    simp only [List.foldlM_nil, pure_eq_ok] at h
    subst h
    omega
  | t :: ts, c, e, h, h₁, h₂ => by
    rw [List.foldlM_cons, bind_eq_ok] at h
    obtain ⟨c₁, hc₁, hrest⟩ := h
    by_cases hp : p < c₁.cursor
    · exact ⟨[], t, ts, c, c₁, rfl, rfl, hc₁, h₁, hp⟩
    · obtain ⟨pre, t', post, c', d', rfl, hpre, ht', hp₁, hp₂⟩ :=
        run_step_at hrest (Nat.le_of_not_lt hp) h₂
      refine ⟨t :: pre, t', post, c', d', rfl, ?_, ht', hp₁, hp₂⟩
      rw [List.foldlM_cons, hc₁]
      exact hpre

/-- A run through a token: the run before it reaches the state the token is applied to, and
the run after it goes on from the state the token leaves. -/
theorem run_after_step {pre post : List Token} {t : Token} {s c f : Compiler}
    (h : (pre ++ t :: post).foldlM step s = .ok f) (hpre : pre.foldlM step s = .ok c)
    (ht : c.step t = .ok d) : post.foldlM step d = .ok f := by
  rw [List.foldlM_append, hpre, ok_bind, List.foldlM_cons, ht, ok_bind] at h
  exact h

/-! ## The finished operations -/

theorem filterMap_styleUpdate_placeTexts (i : Nat) (tab : Option String) (ss : List String) :
    (placeTexts i tab ss).filterMap EditOperation.styleUpdate? = [] := by
  induction ss generalizing i with
  | nil => rfl
  | cons s ss ih => simpa [placeTexts, EditOperation.styleUpdate?] using ih _

/-- The text style updates of a finished compilation: those of its styled ranges, in order.
Headings, rules and bullets are no text style updates. -/
theorem filterMap_styleUpdate_finish :
    c.finish.filterMap EditOperation.styleUpdate? =
      c.inserts.toList.filterMap EditOperation.styleUpdate? ++
        c.textRanges.toList.flatMap TextRange.updates := by
  simp only [finish, List.filterMap_append, List.filterMap_flatMap, List.filterMap_map]
  have hnone : ∀ {β : Type} (l : List β) (f : β → EditOperation),
      (∀ b, (f b).styleUpdate? = none) → l.filterMap (EditOperation.styleUpdate? ∘ f) = [] :=
    fun l f hf => List.filterMap_eq_nil_iff.mpr fun b _ => hf b
  rw [hnone _ _ fun _ => rfl, hnone _ _ fun _ => rfl, hnone _ _ fun _ => rfl]
  simp only [List.append_nil]
  congr 2
  funext r
  unfold TextRange.updates
  split <;> split <;> simp_all [EditOperation.styleUpdate?]

/-- The text style updates of a compilation that wrote the ranges `new`. -/
theorem styleUpdates_finish {o : CompileOptions} {texts : List String} {new : List TextRange}
    (hw : Writes (start o) c texts new) :
    c.finish.filterMap EditOperation.styleUpdate? = new.flatMap TextRange.updates := by
  have hins : c.inserts.toList = placeTexts o.startIndex o.tabId texts := hw.inserts
  have hranges : c.textRanges.toList = new := hw.ranges
  rw [filterMap_styleUpdate_finish, hins, filterMap_styleUpdate_placeTexts, hranges,
    List.nil_append]

/-- The inserted text of a compilation that wrote `texts`: their characters, from the start
index on. -/
theorem insertedChar_finish {o : CompileOptions} {texts : List String} {new : List TextRange}
    (hw : Writes (start o) c texts new) (p : Nat) :
    insertedChar c.finish p =
      if o.startIndex ≤ p then (texts.flatMap Text.unitChars)[p - o.startIndex]? else none := by
  obtain ⟨rest, hfin, hrest⟩ := c.finish_eq_inserts_append
  have hins : c.inserts.toList = placeTexts o.startIndex o.tabId texts := hw.inserts
  rw [hfin, hins]
  exact insertedChar_placeTexts (fun op hop => (hrest op hop).1) p o.startIndex texts

/-- The ranges that hold an offset between the ends of two writes are those of the stretch
between them. -/
theorem formatAt_between {b f : Compiler} {ts₁ ts₃ : List String} {n₁ n₂ n₃ : List TextRange}
    {p : Nat} (hw₁ : Writes b c ts₁ n₁) (hw₃ : Writes d f ts₃ n₃) (hp₁ : c.cursor ≤ p)
    (hp₂ : p < d.cursor) : formatAt (n₁ ++ n₂ ++ n₃) p = formatAt n₂ p := by
  have hafter : ∀ r ∈ n₃, p ∉ r.span := fun r hr hm => by
    have := (hw₃.within r hr).1
    simp only [Span.mem_iff] at hm
    omega
  have hbefore : ∀ r ∈ n₁, p ∉ r.span := fun r hr hm => by
    have := (hw₁.within r hr).2
    simp only [Span.mem_iff] at hm
    omega
  rw [formatAt_append_of_not_mem_right hafter, formatAt_append_of_not_mem hbefore]

/-- At an offset that the middle one of three writes inserts, the finished compilation reads
that write's character. -/
theorem insertedChar_between {o : CompileOptions} {f : Compiler} {ts₁ ts₂ ts₃ : List String}
    {n₁ n₂ n₃ : List TextRange} {p : Nat} (hw₁ : Writes (start o) c ts₁ n₁)
    (hw₂ : Writes c d ts₂ n₂) (hw₃ : Writes d f ts₃ n₃) (hp₁ : c.cursor ≤ p) (hp₂ : p < d.cursor) :
    insertedChar f.finish p = (ts₂.flatMap Text.unitChars)[p - c.cursor]? := by
  have hlen₁ : (ts₁.flatMap Text.unitChars).length = c.cursor - o.startIndex := by
    rw [Text.length_flatMap_unitChars, hw₁.cursor]
    exact (Nat.add_sub_cancel_left ..).symm
  have hlen₂ : (ts₂.flatMap Text.unitChars).length = d.cursor - c.cursor := by
    rw [Text.length_flatMap_unitChars, hw₂.cursor]
    exact (Nat.add_sub_cancel_left ..).symm
  have hstart : o.startIndex ≤ c.cursor := hw₁.cursor_le
  rw [insertedChar_finish ((hw₁.trans hw₂).trans hw₃), if_pos (by omega), List.flatMap_append,
    List.flatMap_append, List.getElem?_append_left (by simp only [List.length_append]; omega),
    List.getElem?_append_right (by omega), hlen₁,
    show p - o.startIndex - (c.cursor - o.startIndex) = p - c.cursor by omega]

/-- In a run through a token, the finished compilation gives each offset the token inserts the
style that the token gives the character there under the marks of the state before it. -/
theorem styleAt_finish_of_step {o : CompileOptions} {pre post : List Token} {t : Token}
    {f : Compiler} (hrun : (pre ++ t :: post).foldlM step (start o) = .ok f)
    (hpre : pre.foldlM step (start o) = .ok c) (ht : c.step t = .ok d) {p : Nat} {ch : Char}
    (hp₁ : c.cursor ≤ p) (hp₂ : p < d.cursor) (hch : insertedChar f.finish p = some ch) :
    styleAt (f.finish.filterMap EditOperation.styleUpdate?) p =
      t.insertedStyle (fun code => { c.marks.snapshot with code }.style) ch := by
  obtain ⟨ts₁, n₁, hw₁⟩ := run_writes hpre
  obtain ⟨ts₂, n₂, hw₂, hs₂⟩ := step_writes ht
  obtain ⟨ts₃, n₃, hw₃⟩ := run_writes (run_after_step hrun hpre ht)
  have hw := (hw₁.trans hw₂).trans hw₃
  have hq : p - c.cursor < (ts₂.flatMap Text.unitChars).length := by
    have := hw₂.cursor
    rw [Text.length_flatMap_unitChars]
    omega
  have hch' : (ts₂.flatMap Text.unitChars)[p - c.cursor] = ch := by
    rw [insertedChar_between hw₁ hw₂ hw₃ hp₁ hp₂, List.getElem?_eq_getElem hq] at hch
    exact Option.some.inj hch
  have hstyle := hs₂ (p - c.cursor) hq
  rw [Nat.add_sub_cancel' hp₁, hch'] at hstyle
  rw [styleUpdates_finish hw, styleAt_updates hw.sorted, formatAt_between hw₁ hw₃ hp₁ hp₂]
  exact hstyle

/-- Every offset of the inserted text lies between the cursors before and after some token. -/
theorem step_at_of_insertedChar {o : CompileOptions} {ts : List Token} {f : Compiler}
    (hrun : ts.foldlM step (start o) = .ok f) {p : Nat} {ch : Char}
    (hch : insertedChar f.finish p = some ch) :
    ∃ (pre : List Token) (t : Token) (post : List Token) (c d : Compiler),
      ts = pre ++ t :: post ∧ pre.foldlM step (start o) = .ok c ∧
      c.step t = .ok d ∧ c.cursor ≤ p ∧ p < d.cursor := by
  obtain ⟨all, rs, hw⟩ := run_writes hrun
  rw [insertedChar_finish hw] at hch
  split at hch
  · rename_i hp
    have hlt := (List.getElem?_eq_some_iff.mp hch).1
    rw [Text.length_flatMap_unitChars] at hlt
    have hcur : f.cursor = o.startIndex + (all.map Text.units16).sum := hw.cursor
    exact run_step_at hrun hp (by omega)
  · cases hch

end Compiler

/-- In a compiled stream, every offset of the inserted text has the style that the token
inserting it gives its character, with the marks that the tokens before it leave in effect;
every inserted offset is inserted by some token, and the updates give the same style in any
order. A blank stream inserts nothing and styles nothing. -/
theorem compile_text_styles {T : List Token} {o : CompileOptions} {ops : List EditOperation}
    (h : compile T o = .ok ops) :
    (∀ us : List (Span × TextStyle), us.Perm (ops.filterMap EditOperation.styleUpdate?) →
      styleAt us = styleAt (ops.filterMap EditOperation.styleUpdate?)) ∧
    (∀ (pre : List Token) (t : Token) (post : List Token) (c d : Compiler),
      Token.flatten T = pre ++ t :: post →
      pre.foldlM Compiler.step (Compiler.start o) = .ok c → c.step t = .ok d →
      ∀ (p : Nat) (ch : Char), c.cursor ≤ p → p < d.cursor → insertedChar ops p = some ch →
        styleAt (ops.filterMap EditOperation.styleUpdate?) p =
          t.insertedStyle (MarksInEffect.after pre).style ch) ∧
    ∀ (p : Nat) (ch : Char), insertedChar ops p = some ch →
      ∃ (pre : List Token) (t : Token) (post : List Token) (c d : Compiler),
        Token.flatten T = pre ++ t :: post ∧
        pre.foldlM Compiler.step (Compiler.start o) = .ok c ∧ c.step t = .ok d ∧
        c.cursor ≤ p ∧ p < d.cursor := by
  unfold compile at h
  split at h
  · cases h
  split at h
  · cases h
    refine ⟨fun us hus => by rw [List.filterMap_nil] at hus ⊢; rw [hus.eq_nil], ?_, ?_⟩
    · intro pre t post c d _ _ _ p ch _ _ hch
      simp [insertedChar] at hch
    · intro p ch hch
      simp [insertedChar] at hch
  obtain ⟨cf, hrun, rfl⟩ := map_eq_ok.mp h
  refine ⟨fun us hus => ?_, fun pre t post c d hT hpre ht p ch hp₁ hp₂ hch => ?_,
    fun p ch hch => Compiler.step_at_of_insertedChar hrun hch⟩
  · obtain ⟨all, rs, hw⟩ := Compiler.run_writes hrun
    rw [Compiler.styleUpdates_finish hw] at hus ⊢
    exact styleAt_updates_perm hw.sorted hus
  · rw [hT] at hrun
    have hmarks : (fun code => { c.marks.snapshot with code }.style) =
        (MarksInEffect.after pre).style :=
      funext (Compiler.run_represents MarkStack.represents_nil hpre).style_snapshot
    rw [Compiler.styleAt_finish_of_step hrun hpre ht hp₁ hp₂ hch, hmarks]

/-- A bold paragraph with a linked piece of inline code, then a code block: the updates that
compile it meet every part of the rule. -/
theorem compile_text_styles_bold_link :
    ∃ ops, compile [.paragraphOpen, .inline [.strongOpen, .text "a", .linkOpen "u",
        .codeInline "b", .linkClose, .strongClose], .paragraphClose, .fence "" "x\n"] {} = .ok ops ∧
      (∀ us : List (Span × TextStyle), us.Perm (ops.filterMap EditOperation.styleUpdate?) →
        styleAt us = styleAt (ops.filterMap EditOperation.styleUpdate?)) ∧
      (∀ (pre : List Token) (t : Token) (post : List Token) (c d : Compiler),
        Token.flatten [.paragraphOpen, .inline [.strongOpen, .text "a",
          .linkOpen "u", .codeInline "b", .linkClose, .strongClose], .paragraphClose,
          .fence "" "x\n"] = pre ++ t :: post →
        pre.foldlM Compiler.step (Compiler.start {}) = .ok c → c.step t = .ok d →
        ∀ (p : Nat) (ch : Char), c.cursor ≤ p → p < d.cursor → insertedChar ops p = some ch →
          styleAt (ops.filterMap EditOperation.styleUpdate?) p =
            t.insertedStyle (MarksInEffect.after pre).style ch) ∧
      ∀ (p : Nat) (ch : Char), insertedChar ops p = some ch →
        ∃ (pre : List Token) (t : Token) (post : List Token) (c d : Compiler),
          Token.flatten [.paragraphOpen, .inline [.strongOpen, .text "a",
            .linkOpen "u", .codeInline "b", .linkClose, .strongClose], .paragraphClose,
            .fence "" "x\n"] = pre ++ t :: post ∧
          pre.foldlM Compiler.step (Compiler.start {}) = .ok c ∧ c.step t = .ok d ∧
          c.cursor ≤ p ∧ p < d.cursor := by
  obtain ⟨ops, hops⟩ := exists_eq_ok_of_isOk (by decide +kernel : (compile [.paragraphOpen,
    .inline [.strongOpen, .text "a", .linkOpen "u", .codeInline "b", .linkClose, .strongClose],
    .paragraphClose, .fence "" "x\n"] {}).isOk = true)
  exact ⟨ops, hops, compile_text_styles hops⟩

example : (compile [.paragraphOpen, .inline [.strongOpen, .text "a", .linkOpen "u",
    .codeInline "b", .linkClose, .strongClose], .paragraphClose, .fence "" "x\n"] {}).toOption.map
      (fun ops => [1, 2, 3, 4, 5, 6].map (styleAt (ops.filterMap EditOperation.styleUpdate?))) =
    some [{ bold := true }, { bold := true, monospace := true, link := some "u" }, {},
      TextStyle.code, {}, {}] := by
  decide +kernel

end DocBridge
