import DocBridge.Proofs.Compile.HeadingFields

/-!
# The first top-level heading as the title

Asked to, the compiler gives the first heading of level 1 to close the title style instead of
`HEADING_1`; a heading of level 0 counts, since levels are clamped to `1..=6` when the heading
opens. The title is taken when that heading closes, so a heading never closed takes nothing, and
one that closes with no text takes the title without emitting it: no later heading gets it.

Which heading takes it is read off the stream: `openHeadingLevel pre` is the level written on the
heading that the tokens `pre` leave open, and `FirstTopClose ts pre rest` splits `ts` at the first
close of a heading written with level 0 or 1. Along a run with the title asked for, the title is
not taken before that close (`run_untitled`), is taken there, with a range only when the heading
holds text (`step_firstTopClose`), and nothing changes it afterwards (`run_titled`). The heading
ranges of a run come one after another (`HeadingsInOrder`), so no other range has the span of the
title's, and the operations with the title are those without it, that one range made the title
again (`entitle_untitle_finish`).

`compile_titles_first_top_heading` is the result: without the title no operation has it, and a
stream that is not blank gives every heading that closes with text the heading style of its
clamped level; with the title the outcome is the same up to reading it as `HEADING_1`
(`compile_untitle`), except that the operation of the first top-level heading to close, when it
holds text, carries the title; so at most one operation does.
-/

namespace DocBridge

/-! ## The heading a stream leaves open -/

/-- The level written on the heading open after a token, given the one open before it. -/
def Token.levelAfter (l : Option Nat) : Token → Option Nat
  | .headingOpen n => some n
  | .headingClose => none
  | _ => l

theorem Token.levelAfter_of_ne {t : Token} (ho : ∀ n, t ≠ .headingOpen n) (hc : t ≠ .headingClose)
    (l : Option Nat) : Token.levelAfter l t = l := by
  cases t <;> simp_all [Token.levelAfter]

/-- The level written on the heading that the tokens `pre` leave open: the last heading they
open, when no heading close comes after it. -/
def openHeadingLevel (pre : List Token) : Option Nat := pre.foldl Token.levelAfter none

@[simp] theorem openHeadingLevel_nil : openHeadingLevel [] = none := rfl

@[simp] theorem openHeadingLevel_concat (pre : List Token) (t : Token) :
    openHeadingLevel (pre ++ [t]) = Token.levelAfter (openHeadingLevel pre) t := by
  simp [openHeadingLevel]

/-- A top-level heading closes within `pre`: a heading close, where the heading open before it was
written with level 0 or 1. -/
def TopClosed (pre : List Token) : Prop :=
  ∃ pre' rest', pre = pre' ++ .headingClose :: rest' ∧ ∃ l, openHeadingLevel pre' = some l ∧ l ≤ 1

/-- `ts` splits at the first close of a top-level heading: `pre` comes before it and `rest` after. -/
def FirstTopClose (ts pre rest : List Token) : Prop :=
  ts = pre ++ .headingClose :: rest ∧ (∃ l, openHeadingLevel pre = some l ∧ l ≤ 1) ∧ ¬ TopClosed pre

/-- One more token closes a top-level heading exactly when one was closed already or the token is
the close, the last token, of an open heading of level at most 1. -/
theorem topClosed_concat {pre : List Token} {t : Token} :
    TopClosed (pre ++ [t]) ↔
      TopClosed pre ∨ (t = .headingClose ∧ ∃ l, openHeadingLevel pre = some l ∧ l ≤ 1) := by
  constructor
  · rintro ⟨pre', rest', hsplit, hl⟩
    rcases List.eq_nil_or_concat rest' with rfl | ⟨L, b, rfl⟩
    · obtain ⟨rfl, ht⟩ := List.append_inj' hsplit rfl
      exact .inr ⟨List.singleton_inj.mp ht, hl⟩
    · rw [List.concat_eq_append, ← List.cons_append, ← List.append_assoc] at hsplit
      exact .inl ⟨pre', L, (List.append_inj' hsplit rfl).1, hl⟩
  · rintro (⟨pre', rest', rfl, hl⟩ | ⟨rfl, hl⟩)
    · exact ⟨pre', rest' ++ [t], by simp, hl⟩
    · exact ⟨pre, [], rfl, hl⟩

/-- After the tokens `pre`, the compiler with options `o` holds an open heading, written with level
`l`, whose text so far covers `s`. -/
def HeadingOpenAt (o : CompileOptions) (pre : List Token) (l : Nat) (s : Span) : Prop :=
  openHeadingLevel pre = some l ∧ ∃ c h, pre.foldlM Compiler.step (Compiler.start o) = .ok c ∧
    c.heading = some h ∧ s = ⟨h.start, c.cursor⟩

namespace Compiler

variable {c d e : Compiler}

theorem run_concat_eq_ok {pre : List Token} {t : Token} :
    (pre ++ [t]).foldlM step c = .ok e ↔ ∃ d, pre.foldlM step c = .ok d ∧ d.step t = .ok e := by
  simp [List.foldlM_append]

/-- The compiler's open heading has the level written on the stream's, clamped to `1..=6`. -/
theorem run_heading_level {o : CompileOptions} {pre : List Token}
    (h : pre.foldlM step (start o) = .ok c) :
    c.heading.map (·.level) = (openHeadingLevel pre).map fun l => min (max l 1) 6 := by
  induction pre using List.reverseRecOn generalizing c with
  | nil =>
    simp only [List.foldlM_nil, pure_eq_ok] at h
    subst h
    rfl
  | append_singleton pre t ih =>
    obtain ⟨d, hd, ht⟩ := run_concat_eq_ok.mp h
    rw [openHeadingLevel_concat]
    by_cases hc : t = .headingClose
    · subst hc
      rcases closeHeading_eq_ok.mp ht with ⟨hn, rfl⟩ | ⟨_, -, -, rfl⟩
      · simp [Token.levelAfter, hn]
      · simp [Token.levelAfter]
    · by_cases ho : ∃ n, t = .headingOpen n
      · obtain ⟨n, rfl⟩ := ho
        obtain ⟨-, e, -, rfl⟩ := openHeading_eq_ok.mp ht
        simp [Token.levelAfter]
      · simp only [not_exists] at ho
        rw [Token.levelAfter_of_ne ho hc, step_heading ht ho hc]
        exact ih hd

/-- A run from the first state whose outcome with the title forgotten is `x` comes from a run
of the same outcome up to the title. -/
theorem run_of_untitle {o : CompileOptions} {pre : List Token} {x : Compiler}
    (h : pre.foldlM step (start { o with titleForFirstH1 := false }) = .ok x) :
    ∃ c, pre.foldlM step (start o) = .ok c ∧ c.untitle = x := by
  rw [← start_untitle, run_untitle] at h
  cases hc : pre.foldlM step (start o) with
  | error e => rw [hc] at h; cases h
  | ok c =>
    rw [hc] at h
    exact ⟨c, rfl, Except.ok.inj h⟩

end Compiler

/-- Where the text of the open heading lies does not depend on the title. -/
theorem headingOpenAt_untitle {o : CompileOptions} {pre : List Token} {l : Nat} {s : Span} :
    HeadingOpenAt { o with titleForFirstH1 := false } pre l s ↔ HeadingOpenAt o pre l s := by
  constructor
  · rintro ⟨hl, x, h, hx, hh, rfl⟩
    obtain ⟨c, hc, rfl⟩ := Compiler.run_of_untitle hx
    exact ⟨hl, c, h, hc, by simpa using hh, rfl⟩
  · rintro ⟨hl, c, h, hc, hh, rfl⟩
    refine ⟨hl, c.untitle, h, ?_, by simpa using hh, rfl⟩
    rw [← Compiler.start_untitle, Compiler.run_untitle, hc]
    rfl

theorem headingOpenAt_title (b : Bool) {o : CompileOptions} {pre : List Token} {l : Nat} {s : Span} :
    HeadingOpenAt { o with titleForFirstH1 := b } pre l s ↔ HeadingOpenAt o pre l s :=
  (headingOpenAt_untitle (o := { o with titleForFirstH1 := b })).symm.trans
    (headingOpenAt_untitle (o := o))

/-! ## Heading ranges in order -/

namespace Compiler

variable {c d e : Compiler}

/-- The heading ranges come one after another, each covers an offset and ends before the cursor,
and before the text of the open heading. -/
structure HeadingsInOrder (c : Compiler) : Prop where
  ordered : c.headingRanges.toList.Pairwise fun p q => p.1.stop < q.1.start
  nonempty : ∀ p ∈ c.headingRanges.toList, p.1.start < p.1.stop
  before : ∀ p ∈ c.headingRanges.toList, p.1.stop < c.cursor
  beforeOpen : ∀ h, c.heading = some h → ∀ p ∈ c.headingRanges.toList, p.1.stop < h.start

theorem headingsInOrder_start (o : CompileOptions) : HeadingsInOrder (start o) where
  ordered := by simp [start]
  nonempty := by simp [start]
  before := by simp [start]
  beforeOpen := by simp [start]

/-- A state with the same heading ranges and open heading, and the cursor no further back. -/
theorem HeadingsInOrder.of_le (hi : HeadingsInOrder c) (hr : d.headingRanges = c.headingRanges)
    (hh : d.heading = c.heading) (hle : c.cursor ≤ d.cursor) : HeadingsInOrder d where
  ordered := hr ▸ hi.ordered
  nonempty := hr ▸ hi.nonempty
  before p hp := Nat.lt_of_lt_of_le (hi.before p (hr ▸ hp)) hle
  beforeOpen h hd p hp := hi.beforeOpen h (hh ▸ hd) p (hr ▸ hp)

/-- Two heading ranges with one span are one. -/
theorem HeadingsInOrder.eq_of_span_eq (hi : HeadingsInOrder c) {p q : Span × NamedStyle}
    (hp : p ∈ c.headingRanges.toList) (hq : q ∈ c.headingRanges.toList) (h : p.1 = q.1) : p = q := by
  have hnd : (c.headingRanges.toList.map Prod.fst).Nodup := by
    rw [List.Nodup, List.pairwise_map]
    refine hi.ordered.imp_of_mem fun ha _ hab heq => ?_
    have := hi.nonempty _ ha
    rw [heq] at hab this
    omega
  exact List.inj_on_of_nodup_map hnd hp hq h

/-- Closing a heading records its range, when it has text, after every range before it. -/
theorem HeadingsInOrder.closeHeading {h : OpenHeading} (hi : HeadingsInOrder c)
    (hh : c.heading = some h) : HeadingsInOrder ((c.recordHeading h).put "\n") := by
  have hold := hi.beforeOpen h hh
  have hcur : ((c.recordHeading h).put "\n").cursor = c.cursor + 1 := by simp [units16_newline]
  by_cases he : (⟨h.start, c.cursor⟩ : Span).isEmpty
  · have hr : ((c.recordHeading h).put "\n").headingRanges.toList = c.headingRanges.toList := by
      simp [he]
    refine ⟨?_, ?_, ?_, by simp⟩ <;> simp only [hr, hcur]
    · exact hi.ordered
    · exact hi.nonempty
    · exact fun p hp => Nat.lt_succ_of_lt (hi.before p hp)
  · have hlt : h.start < c.cursor := by
      simp [Span.isEmpty, Span.len] at he
      omega
    obtain ⟨st, hr⟩ : ∃ st, ((c.recordHeading h).put "\n").headingRanges.toList =
        c.headingRanges.toList ++ [(⟨h.start, c.cursor⟩, st)] :=
      ⟨_, by simp only [put_headingRanges, recordHeading_headingRanges, he, Bool.false_eq_true,
        if_false, Array.toList_push]; rfl⟩
    refine ⟨?_, ?_, ?_, by simp⟩ <;>
      simp only [hr, hcur, List.pairwise_append, List.mem_append, List.mem_singleton]
    · exact ⟨hi.ordered, List.pairwise_singleton _ _, fun p hp q hq => hq ▸ hold p hp⟩
    · rintro p (hp | rfl)
      exacts [hi.nonempty p hp, hlt]
    · rintro p (hp | rfl)
      exacts [Nat.lt_succ_of_lt (hi.before p hp), Nat.lt_succ_self _]

/-- Opening a heading starts its text at the cursor, after every range. -/
theorem HeadingsInOrder.openHeading (hi : HeadingsInOrder c) (he : c.ensureLineStart = .ok e)
    (n : Nat) : HeadingsInOrder { e with heading := some ⟨e.cursor, n⟩ } := by
  have hie : HeadingsInOrder e := by
    rcases ensureLineStart_cases he with rfl | rfl
    exacts [hi, hi.of_le rfl rfl (by simp)]
  refine ⟨hie.ordered, hie.nonempty, hie.before, fun h hh p hp => ?_⟩
  simp only [Option.some.injEq] at hh
  subst hh
  exact hie.before p hp

/-- Every step keeps the heading ranges in order: every step but a heading's open or close keeps the
ranges and the open heading, and moves the cursor on. -/
theorem step_headingsInOrder {t : Token} (hi : HeadingsInOrder c) (hs : c.step t = .ok d) :
    HeadingsInOrder d := by
  by_cases hc : t = .headingClose
  · subst hc
    rcases closeHeading_eq_ok.mp hs with ⟨-, rfl⟩ | ⟨h, hh, -, rfl⟩
    · exact hi
    · exact hi.closeHeading hh
  · by_cases ho : ∃ n, t = .headingOpen n
    · obtain ⟨n, rfl⟩ := ho
      obtain ⟨-, e, he, rfl⟩ := openHeading_eq_ok.mp hs
      exact hi.openHeading he _
    · simp only [not_exists] at ho
      obtain ⟨-, -, hr⟩ := step_headingFields hc hs
      exact hi.of_le hr (step_heading hs ho hc) (step_grows hs).cursor_le

theorem run_headingsInOrder {o : CompileOptions} {ts : List Token}
    (h : ts.foldlM step (start o) = .ok d) : HeadingsInOrder d :=
  foldlM_invariant HeadingsInOrder (fun _ _ _ hi hs => step_headingsInOrder hi hs)
    (headingsInOrder_start o) h

end Compiler

/-! ## Where the title goes -/

namespace Compiler

variable {c d e : Compiler}

/-- The spans of the heading ranges styled as the title. -/
def titleSpans (c : Compiler) : List Span :=
  (c.headingRanges.toList.filter fun p => p.2 == .title).map (·.1)

@[simp] theorem titleSpans_put (s : String) : (c.put s).titleSpans = c.titleSpans := rfl

theorem mem_titleSpans {s : Span} : s ∈ c.titleSpans ↔ (s, .title) ∈ c.headingRanges.toList := by
  simp only [titleSpans, List.mem_map, List.mem_filter, beq_iff_eq]
  constructor
  · rintro ⟨⟨s', n⟩, ⟨hm, rfl⟩, rfl⟩
    exact hm
  · exact fun hm => ⟨(s, .title), ⟨hm, rfl⟩, rfl⟩

/-- Closing the heading `h` adds its span to the title spans when it takes the title and holds
text. -/
theorem titleSpans_recordHeading (h : OpenHeading) :
    (c.recordHeading h).titleSpans =
      if (h.level == 1 && c.titleForFirstH1 && !c.titleConsumed) &&
          !(⟨h.start, c.cursor⟩ : Span).isEmpty then c.titleSpans ++ [⟨h.start, c.cursor⟩]
      else c.titleSpans := by
  simp only [titleSpans, recordHeading_headingRanges]
  by_cases he : (⟨h.start, c.cursor⟩ : Span).isEmpty
  · simp [he]
  · by_cases ht : (h.level == 1 && c.titleForFirstH1 && !c.titleConsumed) = true
    · simp [he, ht]
    · simp only [Bool.not_eq_true] at ht
      simp [he, ht]

theorem run_titleForFirstH1 {ts : List Token} (h : ts.foldlM step c = .ok d) :
    d.titleForFirstH1 = c.titleForFirstH1 :=
  foldlM_invariant (fun e => e.titleForFirstH1 = c.titleForFirstH1)
    (fun e t e' he hs => by
      by_cases hc : t = .headingClose
      · subst hc
        rcases closeHeading_eq_ok.mp hs with ⟨-, rfl⟩ | ⟨h, -, -, rfl⟩
        · exact he
        · simpa using he
      · exact (step_headingFields hc hs).1.trans he) rfl h

/-- A step that does not take the title keeps whether it is taken, and the title spans. -/
theorem step_titles {t : Token} (hs : c.step t = .ok d)
    (hno : t = .headingClose → ∀ h, c.heading = some h → h.level = 1 →
      c.titleForFirstH1 = true → c.titleConsumed = true) :
    d.titleConsumed = c.titleConsumed ∧ d.titleSpans = c.titleSpans := by
  by_cases hc : t = .headingClose
  · subst hc
    rcases closeHeading_eq_ok.mp hs with ⟨-, rfl⟩ | ⟨h, hh, -, rfl⟩
    · exact ⟨rfl, rfl⟩
    · have hnt : (h.level == 1 && c.titleForFirstH1 && !c.titleConsumed) = false := by
        cases hl : h.level == 1 <;> cases hf : c.titleForFirstH1 <;> cases hk : c.titleConsumed <;>
          simp_all
      refine ⟨by simp only [put_titleConsumed, recordHeading_titleConsumed, hnt, Bool.or_false], ?_⟩
      rw [titleSpans_put, titleSpans_recordHeading, hnt]
      simp
  · obtain ⟨-, htc, hr⟩ := step_headingFields hc hs
    exact ⟨htc, by simp only [titleSpans, hr]⟩

/-- The title is taken at most once: at most one title span, and none before it is taken. -/
theorem step_titleOnce {t : Token} (hs : c.step t = .ok d)
    (hc : c.titleSpans.length ≤ if c.titleConsumed then 1 else 0) :
    d.titleSpans.length ≤ if d.titleConsumed then 1 else 0 := by
  by_cases htake : t = .headingClose ∧ ∃ h, c.heading = some h ∧ h.level = 1 ∧
      c.titleForFirstH1 = true ∧ c.titleConsumed = false
  · obtain ⟨rfl, h, hh, hl, hf, hk⟩ := htake
    rw [hk, if_neg Bool.false_ne_true, Nat.le_zero, List.length_eq_zero_iff] at hc
    rcases closeHeading_eq_ok.mp hs with ⟨hn, -⟩ | ⟨h', hh', -, rfl⟩
    · rw [hh] at hn
      cases hn
    · rw [hh] at hh'
      cases hh'
      rw [titleSpans_put, titleSpans_recordHeading, hc]
      split <;> simp [hl, hf, hk]
  · obtain ⟨hk, hsp⟩ := step_titles hs fun ht h hh hl hf => by
      by_contra hk
      exact htake ⟨ht, h, hh, hl, hf, by simpa using hk⟩
    rwa [hk, hsp]

theorem run_titleOnce {o : CompileOptions} {ts : List Token} (h : ts.foldlM step (start o) = .ok d) :
    d.titleSpans.length ≤ if d.titleConsumed then 1 else 0 :=
  foldlM_invariant _ (fun _ _ _ hc hs => step_titleOnce hs hc) (by simp [start, titleSpans]) h

/-- Before the first top-level heading closes, the title is neither taken nor given. A heading
closed before it was written with a level above 1. -/
theorem run_untitled {o : CompileOptions} {pre : List Token} (h : pre.foldlM step (start o) = .ok c)
    (hn : ¬ TopClosed pre) : c.titleConsumed = false ∧ c.titleSpans = [] := by
  induction pre using List.reverseRecOn generalizing c with
  | nil =>
    simp only [List.foldlM_nil, pure_eq_ok] at h
    subst h
    exact ⟨rfl, rfl⟩
  | append_singleton pre t ih =>
    rw [topClosed_concat, not_or] at hn
    obtain ⟨d, hd, ht⟩ := run_concat_eq_ok.mp h
    obtain ⟨hk, hsp⟩ := ih hd hn.1
    obtain ⟨hk', hsp'⟩ := step_titles ht fun htc h hh hl _ => by
      have hlev := run_heading_level hd
      rw [hh] at hlev
      cases hol : openHeadingLevel pre with
      | none => simp [hol] at hlev
      | some l =>
        simp only [hol, Option.map_some, Option.some.injEq] at hlev
        exact absurd ⟨htc, l, hol, by omega⟩ hn.2
    exact ⟨hk'.trans hk, hsp'.trans hsp⟩

/-- At the first close of a top-level heading the title is taken, and its span recorded when the
heading holds text. The heading open is of level 1, so it takes the title. -/
theorem step_firstTopClose {o : CompileOptions} {pre : List Token}
    (hd : pre.foldlM step (start o) = .ok d) (ho : o.titleForFirstH1 = true)
    (hl : ∃ l, openHeadingLevel pre = some l ∧ l ≤ 1) (hn : ¬ TopClosed pre)
    (hs : d.step .headingClose = .ok e) :
    e.titleConsumed = true ∧ ∃ h, d.heading = some h ∧
      e.titleSpans = if (⟨h.start, d.cursor⟩ : Span).isEmpty then [] else [⟨h.start, d.cursor⟩] := by
  obtain ⟨hk, hsp⟩ := run_untitled hd hn
  have hf : d.titleForFirstH1 = true := (run_titleForFirstH1 hd).trans ho
  obtain ⟨l, hol, hl1⟩ := hl
  have hlev := run_heading_level hd
  rw [hol] at hlev
  rcases closeHeading_eq_ok.mp hs with ⟨hn', -⟩ | ⟨h, hh, -, rfl⟩
  · rw [hn'] at hlev
    cases hlev
  · rw [hh] at hlev
    have h1 : h.level = 1 := by
      simp only [Option.map_some, Option.some.injEq] at hlev
      omega
    refine ⟨by simp [h1, hf, hk], h, hh, ?_⟩
    rw [titleSpans_put, titleSpans_recordHeading, hsp]
    by_cases he : (⟨h.start, d.cursor⟩ : Span).isEmpty <;> simp [he, h1, hf, hk]

/-- Once the title is taken, nothing changes it. -/
theorem run_titled {ts : List Token} (hc : c.titleConsumed = true) (h : ts.foldlM step c = .ok d) :
    d.titleConsumed = true ∧ d.titleSpans = c.titleSpans :=
  foldlM_invariant (fun e => e.titleConsumed = true ∧ e.titleSpans = c.titleSpans)
    (fun _ _ _ he hs => by
      obtain ⟨hk, hsp⟩ := step_titles hs fun _ _ _ _ _ => he.1
      exact ⟨hk.trans he.1, hsp.trans he.2⟩) ⟨hc, rfl⟩ h

/-- A whole run with the title asked for ends with the span of the first top-level heading to close
as its one title span, or with none when that heading holds no text. The run is the run up to the
close, the close itself, and the run after it. -/
theorem run_titleSpans_of_firstTopClose {o : CompileOptions} {ts pre rest : List Token} {l : Nat}
    {s : Span} (ho : o.titleForFirstH1 = true) (hfirst : FirstTopClose ts pre rest)
    (hopen : HeadingOpenAt o pre l s) (h : ts.foldlM step (start o) = .ok d) :
    d.titleSpans = if s.isEmpty then [] else [s] := by
  obtain ⟨hT, hl1, hn⟩ := hfirst
  rw [hT, List.foldlM_append, bind_eq_ok] at h
  obtain ⟨c, hc, hrest⟩ := h
  obtain ⟨e, he, hrest⟩ := bind_eq_ok.mp hrest
  obtain ⟨-, c', oh, hc', hh, rfl⟩ := hopen
  obtain rfl : c = c' := Except.ok.inj (hc.symm.trans hc')
  obtain ⟨hk, oh', hh', hsp⟩ := step_firstTopClose hc ho hl1 hn he
  rw [hh] at hh'
  cases hh'
  rw [(run_titled hk hrest).2, hsp]

end Compiler

/-! ## The title among the finished operations -/

namespace Compiler

variable {c : Compiler}

theorem named_mem_finish (hi : ∀ op ∈ c.inserts.toList, op.isInsert = true) {r : Range}
    {n : NamedStyle} (h : .updateParagraphStyle r (.named n) ∈ c.finish) :
    (r.span, n) ∈ c.headingRanges.toList ∧ r.tabId = c.tabId := by
  rcases mem_finish h with h | ⟨t, -, st, h⟩ | ⟨p, hp, h⟩ | ⟨s, -, h⟩ | ⟨b, -, h⟩
  · simpa [EditOperation.isInsert] using hi _ h
  · cases h
  · simp only [EditOperation.updateParagraphStyle.injEq, ParagraphStyle.named.injEq] at h
    obtain ⟨rfl, rfl⟩ := h
    exact ⟨hp, rfl⟩
  · simp at h
  · cases h

theorem isTitle_mem_finish (hi : ∀ op ∈ c.inserts.toList, op.isInsert = true) {op : EditOperation}
    (hop : op ∈ c.finish) (ht : op.isTitle = true) :
    ∃ s ∈ c.titleSpans, op = .updateParagraphStyle ⟨s, c.tabId⟩ (.named .title) := by
  rcases mem_finish hop with h | ⟨t, -, st, rfl⟩ | ⟨⟨s, n⟩, hp, rfl⟩ | ⟨s, -, rfl⟩ | ⟨b, -, rfl⟩
  · rw [EditOperation.isTitle_of_isInsert (hi _ h)] at ht
    cases ht
  · cases ht
  · cases n <;> simp [EditOperation.isTitle] at ht
    exact ⟨s, mem_titleSpans.mpr hp, rfl⟩
  · cases ht
  · cases ht

/-- A finished compilation has one title operation for each title span: only the heading styles can
be the title, one for each title range. -/
theorem countP_isTitle_finish (hi : ∀ op ∈ c.inserts.toList, op.isInsert = true) :
    c.finish.countP EditOperation.isTitle = c.titleSpans.length := by
  have hins : c.inserts.toList.countP EditOperation.isTitle = 0 :=
    List.countP_eq_zero.mpr fun op hop => by simp [EditOperation.isTitle_of_isInsert (hi op hop)]
  have hhead : c.headingRanges.toList.countP (EditOperation.isTitle ∘ fun p =>
      EditOperation.updateParagraphStyle ⟨p.1, c.tabId⟩ (.named p.2)) = c.titleSpans.length := by
    rw [titleSpans, List.length_map, ← List.countP_eq_length_filter]
    congr 1
    funext p
    rcases p with ⟨s, _ | _ | _ | n⟩ <;> rfl
  have hrule : ∀ l : List Span, l.countP (EditOperation.isTitle ∘ fun s =>
      EditOperation.updateParagraphStyle ⟨s, c.tabId⟩ .bottomRule) = 0 :=
    fun l => List.countP_eq_zero.mpr fun _ _ => Bool.false_ne_true
  have hbullet : ∀ l : List BulletRange, l.countP (EditOperation.isTitle ∘ fun b =>
      EditOperation.createBulletRange ⟨b.span, c.tabId⟩ b.preset) = 0 :=
    fun l => List.countP_eq_zero.mpr fun _ _ => Bool.false_ne_true
  simp only [finish, List.countP_append, List.countP_map, List.countP_flatMap, hins, hhead, hrule,
    hbullet]
  rw [List.sum_eq_zero fun x hx => ?_]
  · simp
  · obtain ⟨r, -, rfl⟩ := List.mem_map.mp hx
    simp only [Function.comp_apply]
    cases r.format.decoration <;> cases r.format.link <;> rfl

/-- With no title range, no operation is the title. -/
theorem map_untitle_finish (hi : ∀ op ∈ c.inserts.toList, op.isInsert = true)
    (h : c.titleSpans = []) : c.finish.map EditOperation.untitle = c.finish := by
  refine (List.map_congr_left fun op hop => EditOperation.untitle_of_isTitle_eq_false ?_).trans
    (List.map_id' _)
  cases ht : op.isTitle
  · rfl
  · obtain ⟨s, hs, -⟩ := isTitle_mem_finish hi hop ht
    rw [h] at hs
    cases hs

/-- With one title range, of span `s`, the operations are those with the title read as a
top-level heading, and the top-level heading of span `s` made the title again. No other heading
range has the title's span, so no other operation becomes the title. -/
theorem entitle_untitle_finish (hi : ∀ op ∈ c.inserts.toList, op.isInsert = true)
    (ho : HeadingsInOrder c) {s : Span} (h : c.titleSpans = [s]) :
    (c.finish.map EditOperation.untitle).map (EditOperation.entitle ⟨s, c.tabId⟩) = c.finish := by
  rw [List.map_map]
  refine (List.map_congr_left fun op hop => ?_).trans (List.map_id' _)
  cases ht : op.isTitle
  · rw [Function.comp_apply, EditOperation.untitle_of_isTitle_eq_false ht, EditOperation.entitle,
      if_neg]
    rintro rfl
    have htitle : (s, NamedStyle.title) ∈ c.headingRanges.toList :=
      mem_titleSpans.mp (by rw [h]; exact List.mem_singleton_self s)
    have := ho.eq_of_span_eq (named_mem_finish hi hop).1 htitle rfl
    simp at this
  · obtain ⟨s', hs', rfl⟩ := isTitle_mem_finish hi hop ht
    rw [h, List.mem_singleton] at hs'
    subst hs'
    simp [EditOperation.untitle, NamedStyle.untitle, EditOperation.entitle]

theorem mem_finish_of_headingRange {p : Span × NamedStyle} (hp : p ∈ c.headingRanges.toList) :
    .updateParagraphStyle ⟨p.1, c.tabId⟩ (.named p.2) ∈ c.finish := by
  simp only [finish, List.mem_append, List.mem_map]
  exact .inl (.inl (.inr ⟨p, hp, rfl⟩))

/-- A step keeps every heading range. -/
theorem step_headingRanges_mono {t : Token} {d : Compiler} (hs : c.step t = .ok d) :
    ∀ p ∈ c.headingRanges.toList, p ∈ d.headingRanges.toList := by
  intro p hp
  by_cases hc : t = .headingClose
  · subst hc
    rcases closeHeading_eq_ok.mp hs with ⟨-, rfl⟩ | ⟨h, -, -, rfl⟩
    · exact hp
    · simp only [put_headingRanges, recordHeading_headingRanges]
      split
      · exact hp
      · simp [hp]
  · rw [(step_headingFields hc hs).2.2]
    exact hp

theorem run_headingRanges_mono {ts : List Token} {d : Compiler} (h : ts.foldlM step c = .ok d) :
    ∀ p ∈ c.headingRanges.toList, p ∈ d.headingRanges.toList :=
  foldlM_invariant (fun e => ∀ p ∈ c.headingRanges.toList, p ∈ e.headingRanges.toList)
    (fun _ _ _ he hs p hp => step_headingRanges_mono hs p (he p hp)) (fun _ hp => hp) h

/-- Without the title, a heading that closes with text gets the heading style of its level. -/
theorem step_close_range {o : CompileOptions} {pre : List Token} {d : Compiler} {h : OpenHeading}
    (hd : pre.foldlM step (start o) = .ok c) (ho : o.titleForFirstH1 = false)
    (hh : c.heading = some h) (hne : ¬ (⟨h.start, c.cursor⟩ : Span).isEmpty)
    (hs : c.step .headingClose = .ok d) :
    (⟨h.start, c.cursor⟩, .heading h.level) ∈ d.headingRanges.toList := by
  have hf : c.titleForFirstH1 = false := (run_titleForFirstH1 hd).trans ho
  rcases closeHeading_eq_ok.mp hs with ⟨hn, -⟩ | ⟨h', hh', -, rfl⟩
  · rw [hh] at hn
    cases hn
  · rw [hh] at hh'
    cases hh'
    simp [hne, hf]

end Compiler

/-! ## Compilations with and without the title -/

section Compile

variable (T : List Token) (o : CompileOptions)

/-- Without the title asked for, no operation is the title. -/
theorem compile_untitled_no_title {ops : List EditOperation}
    (h : compile T { o with titleForFirstH1 := false } = .ok ops) : ∀ op ∈ ops, op.isTitle = false := by
  rw [compile_untitle T { o with titleForFirstH1 := true }] at h
  obtain ⟨ops', -, rfl⟩ := fmap_eq_ok.mp h
  intro op hop
  obtain ⟨op', -, rfl⟩ := List.mem_map.mp hop
  exact EditOperation.isTitle_untitle op'

theorem one_le_startIndex_of_compile_ok {ops : List EditOperation} (h : compile T o = .ok ops) :
    1 ≤ o.startIndex := by
  unfold compile at h
  split at h
  · cases h
  · rename_i h0
    simp only [beq_iff_eq] at h0
    omega

/-- A compilation that succeeds had a blank stream and emits nothing, or ran the whole stream
and emits what the run finished with. -/
theorem compile_eq_ok_cases {ops : List EditOperation} (h : compile T o = .ok ops) :
    (Token.blankList T = true ∧ ops = []) ∨ (Token.blankList T = false ∧
      ∃ d, (Token.flatten T).foldlM Compiler.step (Compiler.start o) = .ok d ∧ ops = d.finish) := by
  have h1 := one_le_startIndex_of_compile_ok _ _ h
  cases hb : Token.blankList T
  case true =>
    rw [compile_of_blank h1 hb] at h
    exact .inl ⟨rfl, (Except.ok.inj h).symm⟩
  case false =>
    rw [compile_of_not_blank h1 hb] at h
    obtain ⟨d, hrun, rfl⟩ := map_eq_ok.mp h
    exact .inr ⟨rfl, d, hrun, rfl⟩

/-- Without the title asked for, a stream that is not blank gives each heading that closes with
text the heading style of the level written on it, clamped to `1..=6`. The heading's range is
recorded at its close, and a run keeps every heading range. -/
theorem compile_heading_styles {ops : List EditOperation}
    (h : compile T { o with titleForFirstH1 := false } = .ok ops) (hb : Token.blankList T = false)
    {pre rest : List Token} {l : Nat} {s : Span} (hT : Token.flatten T = pre ++ .headingClose :: rest)
    (hopen : HeadingOpenAt o pre l s) (hne : ¬ s.isEmpty) :
    .updateParagraphStyle ⟨s, o.tabId⟩ (.named (.heading (min (max l 1) 6))) ∈ ops := by
  obtain ⟨hl, c, oh, hd, hh, rfl⟩ := (headingOpenAt_title false).mpr hopen
  rcases compile_eq_ok_cases _ _ h with ⟨hb', -⟩ | ⟨-, d, hrun, rfl⟩
  · rw [hb] at hb'
    cases hb'
  have htab : d.tabId = o.tabId := (Compiler.run_grows hrun).1
  rw [hT, List.foldlM_append, hd, ok_bind, List.foldlM_cons] at hrun
  obtain ⟨e, he, hrest⟩ := bind_eq_ok.mp hrun
  have hlev : oh.level = min (max l 1) 6 := by
    have := Compiler.run_heading_level hd
    rw [hh, hl] at this
    simpa using this
  rw [← hlev, ← htab]
  exact Compiler.mem_finish_of_headingRange
    (Compiler.run_headingRanges_mono hrest _ (Compiler.step_close_range hd rfl hh hne he))

/-- With the title asked for, the first top-level heading to close takes it: the operations are
those without the title, with that heading's style made the title when it holds text, and the
same operations when it holds none. -/
theorem compile_title_at_first_top_close {pre rest : List Token} {l : Nat} {s : Span}
    (hfirst : FirstTopClose (Token.flatten T) pre rest) (hopen : HeadingOpenAt o pre l s) :
    compile T { o with titleForFirstH1 := true } =
      (if s.isEmpty then id else List.map (EditOperation.entitle ⟨s, o.tabId⟩)) <$>
        compile T { o with titleForFirstH1 := false } := by
  rw [compile_untitle T { o with titleForFirstH1 := true }]
  cases hx : compile T { o with titleForFirstH1 := true } with
  | error e => rfl
  | ok ops =>
    rcases compile_eq_ok_cases _ _ hx with ⟨-, rfl⟩ | ⟨-, d, hrun, rfl⟩
    · split <;> rfl
    · have hi := Compiler.run_inserts_isInsert hrun
      have hsp := Compiler.run_titleSpans_of_firstTopClose rfl hfirst
        ((headingOpenAt_title true).mpr hopen) hrun
      by_cases hs : s.isEmpty
      · rw [if_pos hs] at hsp ⊢
        simp only [Functor.map, Except.map, id, Compiler.map_untitle_finish hi hsp]
      · rw [if_neg hs] at hsp ⊢
        have htab : d.tabId = o.tabId := (Compiler.run_grows hrun).1
        simp only [Functor.map, Except.map]
        rw [← htab, Compiler.entitle_untitle_finish hi (Compiler.run_headingsInOrder hrun) hsp]

/-- With the title asked for and no top-level heading ever closed, nothing differs. -/
theorem compile_title_without_top_close (hn : ¬ TopClosed (Token.flatten T)) :
    compile T { o with titleForFirstH1 := true } = compile T { o with titleForFirstH1 := false } := by
  rw [compile_untitle T { o with titleForFirstH1 := true }]
  cases hx : compile T { o with titleForFirstH1 := true } with
  | error e => rfl
  | ok ops =>
    rcases compile_eq_ok_cases _ _ hx with ⟨-, rfl⟩ | ⟨-, d, hrun, rfl⟩
    · rfl
    · simp only [Functor.map, Except.map, Compiler.map_untitle_finish
        (Compiler.run_inserts_isInsert hrun) (Compiler.run_untitled hrun hn).2]

/-- No compilation gives the title to more than one range. -/
theorem compile_title_at_most_once {ops : List EditOperation} (h : compile T o = .ok ops) :
    ops.countP EditOperation.isTitle ≤ 1 := by
  rcases compile_eq_ok_cases _ _ h with ⟨-, rfl⟩ | ⟨-, d, hrun, rfl⟩
  · simp
  · rw [Compiler.countP_isTitle_finish (Compiler.run_inserts_isInsert hrun)]
    have := Compiler.run_titleOnce hrun
    split at this <;> omega

/-- The first top-level heading as the title. Asked for or not, a compilation has the same
outcome, the same error or the same operations up to reading the title as `HEADING_1`. Without it,
no operation is the title, and in a stream that is not blank every heading that closes with text
gets the heading style of the level written on it, clamped to `1..=6`. With it, the first heading
written with level 0 or 1 to close gets the title in place of `HEADING_1` when it holds text, and
when it holds none, or no such heading closes, nothing differs; no compilation has two titles. -/
theorem compile_titles_first_top_heading (T : List Token) (o : CompileOptions) :
    compile T { o with titleForFirstH1 := false } =
      List.map EditOperation.untitle <$> compile T { o with titleForFirstH1 := true } ∧
    (∀ ops, compile T { o with titleForFirstH1 := false } = .ok ops →
      (∀ op ∈ ops, op.isTitle = false) ∧
      (Token.blankList T = false → ∀ pre rest l s, Token.flatten T = pre ++ .headingClose :: rest →
        HeadingOpenAt o pre l s → ¬ s.isEmpty →
        .updateParagraphStyle ⟨s, o.tabId⟩ (.named (.heading (min (max l 1) 6))) ∈ ops)) ∧
    (∀ pre rest l s, FirstTopClose (Token.flatten T) pre rest → HeadingOpenAt o pre l s →
      compile T { o with titleForFirstH1 := true } =
        (if s.isEmpty then id else List.map (EditOperation.entitle ⟨s, o.tabId⟩)) <$>
          compile T { o with titleForFirstH1 := false }) ∧
    (¬ TopClosed (Token.flatten T) →
      compile T { o with titleForFirstH1 := true } = compile T { o with titleForFirstH1 := false }) ∧
    ∀ ops, compile T { o with titleForFirstH1 := true } = .ok ops →
      ops.countP EditOperation.isTitle ≤ 1 :=
  ⟨compile_untitle T { o with titleForFirstH1 := true },
    fun _ h => ⟨compile_untitled_no_title T o h,
      fun hb _ _ _ _ hT hopen hne => compile_heading_styles T o h hb hT hopen hne⟩,
    fun _ _ _ _ hfirst hopen => compile_title_at_first_top_close T o hfirst hopen,
    compile_title_without_top_close T o,
    fun _ h => compile_title_at_most_once T _ h⟩

/-- A level-0 heading is top-level: it takes the title, and the level-1 heading after it keeps
`HEADING_1`. -/
example : compile [.headingOpen 0, .inline [.text "a"], .headingClose, .headingOpen 1,
    .inline [.text "b"], .headingClose] { titleForFirstH1 := true } =
    .ok [.insertText 1 "a" none, .insertText 2 "\n" none, .insertText 3 "b" none,
      .insertText 4 "\n" none, .updateParagraphStyle ⟨⟨1, 2⟩, none⟩ (.named .title),
      .updateParagraphStyle ⟨⟨3, 4⟩, none⟩ (.named (.heading 1))] := by
  decide +kernel

/-- A heading of white space alone, in a stream that shows nothing else: the heading closes with
text, yet the stream is blank, and a blank stream compiles to no operation at all. -/
theorem blank_heading_gets_no_style :
    Token.flatten [.headingOpen 1, .inline [.text " "], .headingClose] =
      [.headingOpen 1, .text " "] ++ .headingClose :: [] ∧
    HeadingOpenAt {} [.headingOpen 1, .text " "] 1 ⟨1, 2⟩ ∧ ¬ (⟨1, 2⟩ : Span).isEmpty ∧
    Token.blankList [.headingOpen 1, .inline [.text " "], .headingClose] = true ∧
    compile [.headingOpen 1, .inline [.text " "], .headingClose] {} = .ok [] := by
  obtain ⟨c, hc⟩ := exists_eq_ok_of_isOk (by decide +kernel :
    ([.headingOpen 1, .text " "] : List Token).foldlM Compiler.step (Compiler.start {}) |>.isOk)
  have hstate : ((([.headingOpen 1, .text " "] : List Token).foldlM Compiler.step
      (Compiler.start {})).toOption.map fun c => (c.heading, c.cursor)) = some (some ⟨1, 1⟩, 2) := by
    decide +kernel
  rw [hc] at hstate
  simp only [Except.toOption, Option.map_some, Option.some.injEq, Prod.mk.injEq] at hstate
  refine ⟨rfl, ⟨rfl, c, ⟨1, 1⟩, hc, hstate.1, by rw [hstate.2]⟩, by decide, by decide +kernel,
    by decide +kernel⟩

end Compile

end DocBridge
