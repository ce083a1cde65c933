import DocBridge.Proofs.Compile.Relocation
import DocBridge.Proofs.Compile.LineStarts

/-!
# Start indices and 64-bit offsets

A compilation from start index `s` is the compilation from 1 moved `s - 1` offsets on, and a
compilation on 64-bit offsets is the same algorithm on unbounded ones up to the first insertion
that passes the largest offset. Both follow from `run_relocate`, from two first states:
`start_relocate` moves the first state along the document, and `relocate_zero` holds the first
state of an unbounded compilation (`startUnbounded`) to the largest offset.

`compile_shifts_with_start_index` is the first: when the compilation from 1 succeeds and its
cursor, moved, is still an offset, the compilation from `s` gives the same operations with every
offset moved, and an error from 1 is the same error from `s` or an overflow.

`compile_within_offsets` is the second. When the unbounded run ends within the largest offset,
`compile` gives its operations; when it passes the largest offset before any error, `compile`
reports the overflow. And every state a run reaches holds its offsets where the arithmetic on them
is exact (`OffsetsFit`): the cursor is past 0, so the end of an item whose line has already
ended, the offset before the cursor, is an offset; the cursor is within the largest offset; a
styled range covers an offset, so the range of a code line, which stops one before the line's
newline does, starts before it stops; and an item end that a bullet range can take is an
inserted newline, so one past it, where the merge of bullet ranges looks, is still an offset.
-/

namespace DocBridge

namespace Compiler

/-- The first state of a compilation on unbounded offsets. -/
def startUnbounded (o : CompileOptions) : Compiler := { start o with limit := none }

theorem relocate_startUnbounded (o : CompileOptions) :
    (startUnbounded o).relocate 0 (some maxOffset) = start o := by
  rw [relocate_zero]
  rfl

theorem tighter_none (k : Nat) (L : Option Nat) : Tighter k L none := fun _ _ => within_none _

theorem tighter_maxOffset (k : Nat) : Tighter k (some maxOffset) (some maxOffset) := by
  intro n hn
  simp only [within_some] at hn ⊢
  omega

variable {o : CompileOptions} {d : Compiler}

/-- Held to the largest offset, the run from the unbounded first state is the run of `compile`. -/
theorem run_startUnbounded (ts : List Token) (h1 : 1 ≤ o.startIndex) :
    Relocates 0 (some maxOffset) (ts.foldlM step (start o)) (ts.foldlM step (startUnbounded o)) := by
  rw [← relocate_startUnbounded]
  exact run_relocate h1 (tighter_none 0 _)

/-- The run from start index `s` is the run from 1 moved `s - 1` offsets on. -/
theorem run_from_start (ts : List Token) {s : Nat} (hs : 1 ≤ s) :
    Relocates (s - 1) (some maxOffset) (ts.foldlM step (start { o with startIndex := s }))
      (ts.foldlM step (start { o with startIndex := 1 })) := by
  have hstart : start { o with startIndex := s } =
      (start { o with startIndex := 1 }).relocate (s - 1) (some maxOffset) := by
    rw [start_relocate, show 1 + (s - 1) = s by omega]
  rw [hstart]
  exact run_relocate (le_refl 1) (tighter_maxOffset _)

/-- A run of `compile` from an offset never takes its cursor past the largest offset. -/
theorem run_cursor_le {ts : List Token} (hmax : o.startIndex ≤ maxOffset)
    (h : ts.foldlM step (start o) = .ok d) : d.cursor ≤ maxOffset := by
  have hw := run_within (by simpa [start] using hmax) h
  rwa [(run_stays h).1, start, within_some] at hw

end Compiler

open Compiler

section Compile

variable {T : List Token} {o : CompileOptions}

theorem compile_of_blank (h1 : 1 ≤ o.startIndex) (hb : Token.blankList T = true) :
    compile T o = .ok [] := by
  have h0 : (o.startIndex == 0) = false := by simp only [beq_eq_false_iff_ne]; omega
  simp [compile, h0, hb]

theorem compile_of_not_blank (h1 : 1 ≤ o.startIndex) (hb : Token.blankList T = false) :
    compile T o = ((Token.flatten T).foldlM step (start o)).map finish := by
  have h0 : (o.startIndex == 0) = false := by simp only [beq_eq_false_iff_ne]; omega
  simp [compile, h0, hb]

end Compile

/-- A compilation from start index `s` is the compilation from 1 with every offset moved `s - 1`
on: the same texts, styles, presets and tabs in the same order, as long as the cursor of the run
from 1, moved, is still an offset. An error from 1 is the same error from `s`, or an overflow. -/
theorem compile_shifts_with_start_index (T : List Token) (o : CompileOptions) (s : Nat)
    (hs : 1 ≤ s) :
    (∀ ops, compile T { o with startIndex := 1 } = .ok ops →
      (∀ d, (Token.flatten T).foldlM step (start { o with startIndex := 1 }) = .ok d →
        s - 1 + d.cursor ≤ maxOffset) →
      compile T { o with startIndex := s } = .ok (ops.map (EditOperation.shift (s - 1)))) ∧
    ∀ e, compile T { o with startIndex := 1 } = .error e →
      compile T { o with startIndex := s } = .error e ∨
        compile T { o with startIndex := s } = .error .offsetOverflow := by
  cases hb : Token.blankList T
  case true =>
    rw [compile_of_blank (le_refl 1) hb, compile_of_blank hs hb]
    refine ⟨fun ops hops _ => ?_, fun e he => ?_⟩
    · cases hops
      rfl
    · cases he
  case false =>
    have hM := run_from_start (o := o) (Token.flatten T) hs
    rw [compile_of_not_blank (le_refl 1) hb, compile_of_not_blank hs hb]
    refine ⟨fun ops hops hcur => ?_, fun e he => ?_⟩
    · obtain ⟨d, hd, rfl⟩ := map_eq_ok.mp hops
      have hw : Within (some maxOffset) ((d.relocate (s - 1) (some maxOffset)).cursor) := by
        simpa [Nat.add_comm] using hcur d hd
      rw [hM.eq_ok hd hw]
      simp [Except.map, finish_relocate]
    · have hd : (Token.flatten T).foldlM step (start { o with startIndex := 1 }) = .error e := by
        revert he
        cases (Token.flatten T).foldlM step (start { o with startIndex := 1 }) <;>
          simp [Except.map]
      rcases hM.eq_error hd with h | h <;> simp [h, Except.map]

/-- A bold paragraph compiled from offset 5 is its compilation from 1 moved four offsets on. -/
theorem compile_shifts_with_start_index_bold :
    compile [.paragraphOpen, .inline [.strongOpen, .text "a", .strongClose], .paragraphClose]
        { startIndex := 5 } =
      .ok [.insertText 5 "a" none, .insertText 6 "\n" none,
        .updateTextStyle ⟨⟨5, 6⟩, none⟩ { bold := true }] := by
  have h1 := eq_ok_of_toOption (by decide +kernel : (compile [.paragraphOpen,
    .inline [.strongOpen, .text "a", .strongClose], .paragraphClose] { startIndex := 1 }).toOption =
      some [.insertText 1 "a" none, .insertText 2 "\n" none,
        .updateTextStyle ⟨⟨1, 2⟩, none⟩ { bold := true }])
  have hcur : ((Token.flatten [.paragraphOpen, .inline [.strongOpen, .text "a", .strongClose],
      .paragraphClose]).foldlM step (start { startIndex := 1 })).toOption.map cursor = some 3 := by
    decide +kernel
  refine (compile_shifts_with_start_index _ {} 5 (by decide)).1 _ h1 fun d hd => ?_
  rw [hd] at hcur
  simp only [Except.toOption, Option.map_some, Option.some.injEq] at hcur
  simp [hcur, maxOffset]

/-! ## 64-bit offsets -/

namespace Compiler

/-- The offsets of a state are where the arithmetic done on them is exact: the cursor is past 0
and within the largest offset, every styled range covers an offset, and every item end that a
bullet range takes lies before the largest offset. -/
structure OffsetsFit (c : Compiler) : Prop where
  cursor_pos : 1 ≤ c.cursor
  cursor_le : c.cursor ≤ maxOffset
  textRanges : ∀ r ∈ c.textRanges.toList, r.span.start < r.span.stop
  itemStops : ∀ b ∈ validRanges c.items.toList, b.span.stop < maxOffset

variable {o : CompileOptions} {c d : Compiler}

/-- A run from the start keeps its offsets fit: an item end past the item's start is an inserted
newline, and nothing is inserted from the cursor on. -/
theorem run_offsetsFit {ts : List Token} (h1 : 1 ≤ o.startIndex) (hmax : o.startIndex ≤ maxOffset)
    (h : ts.foldlM step (start o) = .ok d) : d.OffsetsFit := by
  have hR := run_rangesInside (rangesInside_start o) h
  have hL := run_onLines (onLines_start o) (rangesInside_start o) h
  have hcur := run_cursor_le hmax h
  refine ⟨h1.trans hR.cursor, hcur, fun r hr => (hR.textRanges r hr).2.1, fun b hb => ?_⟩
  obtain ⟨i, hi, e, he, hlt, rfl⟩ := mem_validRanges.mp hb
  have hnl := (hL.items (i.start, i.stop) (List.mem_map_of_mem hi)).2 e he hlt
  have hlt' : e < d.cursor := by
    by_contra hge
    rw [hL.endsAtCursor e (by omega)] at hnl
    cases hnl
  exact lt_of_lt_of_le hlt' hcur

/-- Every range the merge of bullet ranges holds, and so every range whose end it steps past,
ends before the largest offset. A merged range ends where one of the valid ranges ends. -/
theorem OffsetsFit.foldl_mergeStep (h : c.OffsetsFit) {rs : List BulletRange}
    (hrs : ∀ r ∈ rs, r ∈ validRanges c.items.toList) :
    ∀ b ∈ rs.foldl mergeStep [], b.span.stop < maxOffset := by
  intro b hb
  have hvalid : ∀ r ∈ rs, BulletRange.SpannedBy (validRanges c.items.toList) r := by
    intro r hr
    have hr' := hrs r hr
    obtain ⟨i, -, e, -, hlt, rfl⟩ := mem_validRanges.mp hr'
    exact ⟨hlt, ⟨_, hr', rfl⟩, ⟨_, hr', rfl⟩⟩
  obtain ⟨-, -, q, hq, hqe⟩ := foldl_mergeStep_spannedBy (by simp) hvalid b hb
  exact hqe ▸ h.itemStops q hq

end Compiler

/-- A compilation on 64-bit offsets is the same algorithm on unbounded ones. When the unbounded
run ends within the largest offset, `compile` gives its operations; when the unbounded cursor
passes the largest offset before any error, `compile` fails with an offset overflow (a blank
stream compiles to nothing before any offset is computed); and every state a run reaches keeps
its offsets where the arithmetic on them is exact. The run of `compile` stops at the overflow, since
none of its states passes the limit. -/
theorem compile_within_offsets (T : List Token) (o : CompileOptions) (h1 : 1 ≤ o.startIndex)
    (hmax : o.startIndex ≤ maxOffset) :
    (∀ d, (Token.flatten T).foldlM step (startUnbounded o) = .ok d → d.cursor ≤ maxOffset →
      compile T o = .ok (if Token.blankList T then [] else d.finish)) ∧
    (∀ pre rest d, Token.flatten T = pre ++ rest → Token.blankList T = false →
      pre.foldlM step (startUnbounded o) = .ok d → maxOffset < d.cursor →
      compile T o = .error .offsetOverflow) ∧
    ∀ pre rest d, Token.flatten T = pre ++ rest → pre.foldlM step (start o) = .ok d →
      d.OffsetsFit := by
  refine ⟨fun d hd hcur => ?_, fun pre rest d hT hb hd hcur => ?_,
    fun pre rest d _ hd => run_offsetsFit h1 hmax hd⟩
  · cases hb : Token.blankList T
    case true => rw [compile_of_blank h1 hb, if_pos rfl]
    case false =>
      have hw : Within (some maxOffset) ((d.relocate 0 (some maxOffset)).cursor) := by
        simpa using hcur
      rw [compile_of_not_blank h1 hb, (run_startUnbounded _ h1).eq_ok hd hw, relocate_zero]
      rfl
  · have hpre : pre.foldlM step (start o) = .error .offsetOverflow :=
      (run_startUnbounded pre h1).eq_overflow hd (by simpa using hcur)
        fun c hc => within_some.mpr (run_cursor_le hmax hc)
    rw [compile_of_not_blank h1 hb, hT, List.foldlM_append, hpre]
    rfl

/-- A paragraph of two characters compiled from one offset before the largest: its unbounded
run passes the largest offset, so the compilation overflows. -/
theorem compile_within_offsets_overflow :
    compile [.paragraphOpen, .inline [.text "ab"], .paragraphClose]
      { startIndex := maxOffset - 1 } = .error .offsetOverflow := by
  obtain ⟨d, hd⟩ := exists_eq_ok_of_isOk (by decide +kernel :
    ((Token.flatten [.paragraphOpen, .inline [.text "ab"], .paragraphClose]).foldlM step
      (startUnbounded { startIndex := maxOffset - 1 })).isOk = true)
  have hcur : ((Token.flatten [.paragraphOpen, .inline [.text "ab"], .paragraphClose]).foldlM step
      (startUnbounded { startIndex := maxOffset - 1 })).toOption.map cursor = some (maxOffset + 2) := by
    decide +kernel
  rw [hd] at hcur
  simp only [Except.toOption, Option.map_some, Option.some.injEq] at hcur
  exact (compile_within_offsets _ _ (by decide) (by decide)).2.1 _ [] d (List.append_nil _).symm
    rfl hd (by omega)

end DocBridge
