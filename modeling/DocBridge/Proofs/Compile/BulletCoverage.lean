import DocBridge.Proofs.Compile.BulletRanges
import DocBridge.Proofs.Compile.ItemPresets

/-!
# Bullet ranges cover the list items

Each item of a compiled list has a line span `[s, e)`: `s` is where its line starts, after the
newline that starts it, and `e` is the newline that ends the item's own lines, at its close or
where a nested list opens inside it (`ListItem.span?`). In a compiled well-nested stream every
non-empty span lies in exactly one bullet range, whose preset is the one the stream gives the
item (`itemPreset`: a checkbox for a task item, else that of its list), and every offset of a
bullet range lies in the span of an item of its preset or is the one newline between two such
spans (`compile_items_covered`).

The items are those the compiler records (`compiledItems`); their presets agree with the walk of
`ItemPresets` by `run_itemsAgree`, and the cover follows from `mergeBulletRanges_covers`, the
order of the items from `run_itemsApart`.
-/

namespace DocBridge

/-- The items a compilation records, in the order they open: none for a blank stream, which
compiles to nothing. -/
def compiledItems (T : List Token) (o : CompileOptions) : Except CompileError (List ListItem) :=
  if o.startIndex == 0 then .error .startIndexZero
  else if Token.blankList T then .ok []
  else ((Token.flatten T).foldlM Compiler.step (Compiler.start o)).map fun c => c.items.toList

/-- The preset the stream gives its `k`-th item. -/
def itemPreset (T : List Token) (k : Nat) : Option BulletPreset :=
  (itemNotes T)[k]?.map ItemNote.preset

/-- In a list whose later elements lie apart from the earlier ones in a way no two elements
satisfying `p` can, the one element satisfying `p` is all the filter keeps. -/
theorem filter_eq_singleton {α : Type} {L : List α} {R : α → α → Prop} {p : α → Bool} {r : α}
    (hL : L.Pairwise R) (hr : r ∈ L) (hp : p r = true)
    (hex : ∀ a ∈ L, ∀ b ∈ L, R a b → p a = true → p b = true → False) : L.filter p = [r] := by
  induction L with
  | nil => cases hr
  | cons a L ih =>
    obtain ⟨hab, hL⟩ := List.pairwise_cons.mp hL
    have hex' : ∀ a ∈ L, ∀ b ∈ L, R a b → p a = true → p b = true → False :=
      fun a ha b hb => hex a (List.mem_cons_of_mem _ ha) b (List.mem_cons_of_mem _ hb)
    by_cases hpa : p a = true
    · have hnone : L.filter p = [] := List.filter_eq_nil_iff.mpr fun b hb hpb =>
        hex a List.mem_cons_self b (List.mem_cons_of_mem _ hb) (hab b hb) hpa hpb
      rcases List.mem_cons.mp hr with rfl | hr
      · rw [List.filter_cons_of_pos hpa, hnone]
      · exact (hex a List.mem_cons_self r (List.mem_cons_of_mem _ hr) (hab r hr) hpa hp).elim
    · rcases List.mem_cons.mp hr with rfl | hr
      · exact absurd hp hpa
      · rw [List.filter_cons_of_neg hpa]
        exact ih hL hr hex'

/-- The item at position `k` of a run's items has the preset the stream gives its `k`-th item. -/
theorem itemPreset_of_run {T : List Token} {o : CompileOptions} {c : Compiler} (hT : WellNested T)
    (hrun : (Token.flatten T).foldlM Compiler.step (Compiler.start o) = .ok c) {k : Nat}
    {i : ListItem} (hi : c.items.toList[k]? = some i) : itemPreset T k = some i.preset := by
  rw [Array.getElem?_toList] at hi
  obtain ⟨n, hn, hp⟩ := (run_itemsAgree hT hrun).preset_eq hi
  simp [itemPreset, itemNotes, hn, hp]

/-- Every valid span of a run's items is the span of its `k`-th item, for some `k`, with the
preset the stream gives that item. -/
theorem exists_item_of_mem_validRanges {T : List Token} {o : CompileOptions} {c : Compiler}
    (hT : WellNested T)
    (hrun : (Token.flatten T).foldlM Compiler.step (Compiler.start o) = .ok c) {q : BulletRange}
    (hq : q ∈ validRanges c.items.toList) :
    ∃ k, ∃ i : ListItem, c.items.toList[k]? = some i ∧ i.span? = some q.span ∧
      itemPreset T k = some q.preset := by
  obtain ⟨i, hi, hsp, hp⟩ := mem_validRanges_iff_span.mp hq
  obtain ⟨k, hk⟩ := List.mem_iff_getElem?.mp hi
  exact ⟨k, i, hk, hsp, hp ▸ itemPreset_of_run hT hrun hk⟩

/-- The bullet ranges `L` cover the items of stream `T` and nothing else: every item whose line
span is not empty lies in exactly one range of `L`, of the preset the stream gives the item, and
every offset of a range lies in the span of an item of the range's preset, or is the end of
such a span that the span of another item of that preset follows one offset later. -/
def CoversItems (T : List Token) (items : List ListItem) (L : List BulletRange) : Prop :=
  (∀ k i sp, items[k]? = some i → i.span? = some sp →
    ∃ r, L.filter (fun r => r.span.start ≤ sp.start ∧ sp.stop ≤ r.span.stop) = [r] ∧
      itemPreset T k = some r.preset) ∧
  ∀ r ∈ L, ∀ x, r.span.start ≤ x → x < r.span.stop →
    (∃ k i sp, items[k]? = some i ∧ i.span? = some sp ∧ sp.start ≤ x ∧ x < sp.stop ∧
      itemPreset T k = some r.preset) ∨
    ∃ k i sp k' i' sp', items[k]? = some i ∧ i.span? = some sp ∧ items[k']? = some i' ∧
      i'.span? = some sp' ∧ itemPreset T k = some r.preset ∧ itemPreset T k' = some r.preset ∧
      x = sp.stop ∧ sp.stop + 1 = sp'.start

/-- In a compiled well-nested stream the bullet ranges cover the items the compilation records:
each non-empty item span lies in exactly one range, of the item's preset, and the ranges cover
nothing but the spans and the single newlines between adjacent spans of one preset. -/
theorem compile_items_covered {T : List Token} {o : CompileOptions} {ops : List EditOperation}
    (hT : WellNested T) (h : compile T o = .ok ops) :
    ∃ items, compiledItems T o = .ok items ∧
      CoversItems T items (ops.filterMap EditOperation.bulletRange?) := by
  unfold compile at h
  split at h
  · cases h
  rename_i hstart
  split at h
  · rename_i hblank
    cases h
    refine ⟨[], by rw [compiledItems, if_neg hstart, if_pos hblank], fun k i sp hi => by simp at hi,
      fun r hr => by simp at hr⟩
  rename_i hblank
  obtain ⟨c, hrun, rfl⟩ := map_eq_ok.mp h
  refine ⟨c.items.toList, by rw [compiledItems, if_neg hstart, if_neg hblank, hrun]; rfl, ?_⟩
  have hI := Compiler.run_itemsApart (Compiler.itemsApart_start (by simpa using hstart)) hT hrun
  have hap := hI.ordered.items_apart
  rw [run_bulletRanges hrun]
  obtain ⟨-, hpw⟩ := mergeBulletRanges_apart hap
  obtain ⟨hcov, hexp⟩ := mergeBulletRanges_covers hap
  refine ⟨fun k i sp hi hsp => ?_, fun r hr x h₁ h₂ => ?_⟩
  · have hvalid : (⟨sp, i.preset⟩ : BulletRange) ∈ validRanges c.items.toList :=
      mem_validRanges_iff_span.mpr ⟨i, List.mem_of_getElem? hi, hsp, rfl⟩
    obtain ⟨r, hr, hrp, hrs, hre⟩ := hcov _ hvalid
    have hsp_ne : sp.start < sp.stop := by
      obtain ⟨e, -, hlt, rfl⟩ := ListItem.span?_eq_some.mp hsp
      exact hlt
    refine ⟨r, filter_eq_singleton hpw hr (by simp [hrs, hre]) ?_, ?_⟩
    · intro a _ b _ hab ha hb
      simp only [decide_eq_true_eq, BulletRange.Before] at ha hb hab
      omega
    · rw [itemPreset_of_run hT hrun hi, hrp]
  · rcases hexp r hr x h₁ h₂ with ⟨q, hq, hqp, hqs, hqe⟩ | ⟨q, hq, q', hq', hqp, hqp', hx, hgap⟩
    · obtain ⟨k, i, hi, hsp, hpre⟩ := exists_item_of_mem_validRanges hT hrun hq
      exact .inl ⟨k, i, q.span, hi, hsp, hqs, hqe, hqp ▸ hpre⟩
    · obtain ⟨k, i, hi, hsp, hpre⟩ := exists_item_of_mem_validRanges hT hrun hq
      obtain ⟨k', i', hi', hsp', hpre'⟩ := exists_item_of_mem_validRanges hT hrun hq'
      exact .inr ⟨k, i, q.span, k', i', q'.span, hi, hsp, hi', hsp', hqp ▸ hpre, hqp' ▸ hpre',
        hx, hgap⟩

/-- A task item and a plain item of one bullet list: the first is a checkbox, the second keeps
the bullet preset, and the ranges cover both. -/
theorem compile_items_covered_task :
    WellNested [.bulletListOpen, .itemOpen, .text "[x] a", .itemClose, .itemOpen, .text "b",
      .itemClose, .bulletListClose] ∧
    itemPreset [.bulletListOpen, .itemOpen, .text "[x] a", .itemClose, .itemOpen, .text "b",
      .itemClose, .bulletListClose] 0 = some .checkbox ∧
    itemPreset [.bulletListOpen, .itemOpen, .text "[x] a", .itemClose, .itemOpen, .text "b",
      .itemClose, .bulletListClose] 1 = some .unordered ∧
    ∃ ops, compile [.bulletListOpen, .itemOpen, .text "[x] a", .itemClose, .itemOpen, .text "b",
        .itemClose, .bulletListClose] {} = .ok ops ∧
      ∃ items, compiledItems [.bulletListOpen, .itemOpen, .text "[x] a", .itemClose, .itemOpen,
          .text "b", .itemClose, .bulletListClose] {} = .ok items ∧
        CoversItems [.bulletListOpen, .itemOpen, .text "[x] a", .itemClose, .itemOpen, .text "b",
          .itemClose, .bulletListClose] items (ops.filterMap EditOperation.bulletRange?) := by
  obtain ⟨ops, hops⟩ := exists_eq_ok_of_isOk (by decide +kernel : (compile [.bulletListOpen,
    .itemOpen, .text "[x] a", .itemClose, .itemOpen, .text "b", .itemClose, .bulletListClose]
    {}).isOk = true)
  exact ⟨by decide, by decide +kernel, by decide +kernel, ops, hops,
    compile_items_covered (by decide) hops⟩

end DocBridge
