import DocBridge.Proofs.Compile.Step

/-!
# Merged bullet ranges stay apart

`mergeBulletRanges` sorts the spans of the items by start, joins each to the range before it
when they share a preset and are at most one offset apart, and sorts the result the other way.
When the items come in order, each ending before the next one starts, the ranges come out
last first, each ending before the start of the one emitted before it, and two ranges of one
preset at least two offsets apart: the merge leaves nothing it would have joined
(`mergeBulletRanges_apart`).

Both sorts go through one fact about sorting (`pairwise_of_perm_of_sorted`): an order that a
list keeps pairwise, and that the sort key cannot reverse, survives the sort. The join itself
is a fold whose accumulator, the last range first, keeps `MergedApart`.
-/

namespace DocBridge

/-- A sort keeps every pairwise order that its key cannot reverse. -/
theorem pairwise_of_perm_of_sorted {α : Type} {R le : α → α → Prop} {l l' : List α}
    (hp : l'.Perm l) (hR : l.Pairwise R) (hle : l'.Pairwise le)
    (hkey : ∀ a ∈ l, ∀ b ∈ l, R b a → ¬ le a b) : l'.Pairwise R := by
  have hsym : l'.Pairwise fun a b => R a b ∨ R b a :=
    hp.symm.pairwise (hR.imp Or.inl) Or.symm
  refine (hsym.and hle).imp_of_mem fun ha hb ⟨h, hl⟩ => h.resolve_right fun h' => ?_
  exact hkey _ (hp.subset ha) _ (hp.subset hb) h' hl

/-- The item `a` ends, once its end is known, before `b` starts. -/
def ListItem.EndsBefore (a b : ListItem) : Prop :=
  ∀ e, a.stop = some e → e < b.start

theorem ListItem.span?_eq_some {i : ListItem} {s : Span} :
    i.span? = some s ↔ ∃ e, i.stop = some e ∧ i.start < e ∧ s = ⟨i.start, e⟩ := by
  unfold span?
  split
  · rename_i e he
    by_cases hlt : i.start < e <;> simp [he, hlt, eq_comm]
  · rename_i he
    simp [he]

namespace BulletRange

/-- `b` starts after `a` ends, at least two offsets after when they share a preset: `a` ends
before `b`, and `mergeStep` would not join them. -/
def Before (a b : BulletRange) : Prop :=
  a.span.stop < b.span.start ∧ (a.preset = b.preset → a.span.stop + 1 < b.span.start)

/-- The range covers an offset. -/
def NonEmpty (r : BulletRange) : Prop :=
  r.span.start < r.span.stop

/-- The ranges merged so far, the last one first: each covers an offset, and lies `Before`
every range merged after it. -/
def MergedApart (acc : List BulletRange) : Prop :=
  (∀ a ∈ acc, a.NonEmpty) ∧ acc.Pairwise fun b a => a.Before b

theorem MergedApart.nil : MergedApart [] := ⟨by simp, List.Pairwise.nil⟩

end BulletRange

open BulletRange

/-! ## The join -/

/-- A range that starts after every range merged so far keeps them apart: either it is joined
to the last one, which keeps its start and preset, or it starts two offsets after the last
one's end, or it has another preset. -/
theorem mergeStep_apart {acc : List BulletRange} {r : BulletRange} (hacc : MergedApart acc)
    (hr : r.NonEmpty) (hlt : ∀ a ∈ acc, a.span.stop < r.span.start) :
    MergedApart (mergeStep acc r) := by
  cases acc with
  | nil =>
    refine ⟨fun a ha => ?_, List.pairwise_singleton _ _⟩
    rw [mergeStep, List.mem_singleton] at ha
    exact ha ▸ hr
  | cons last done =>
    obtain ⟨hne, hpw⟩ := hacc
    obtain ⟨hlast, hdone⟩ := List.pairwise_cons.mp hpw
    have hlast_ne : last.NonEmpty := hne last List.mem_cons_self
    have hlast_lt : last.span.stop < r.span.start := hlt last List.mem_cons_self
    simp only [mergeStep]
    split
    · refine ⟨fun a ha => ?_, List.pairwise_cons.mpr ⟨fun d hd => hlast d hd, hdone⟩⟩
      rcases List.mem_cons.mp ha with rfl | ha
      · simp only [NonEmpty] at hlast_ne ⊢
        omega
      · exact hne a (List.mem_cons_of_mem _ ha)
    · rename_i hjoin
      refine ⟨fun a ha => ?_, List.pairwise_cons.mpr ⟨fun d hd => ?_, hpw⟩⟩
      · rcases List.mem_cons.mp ha with rfl | ha
        · exact hr
        · exact hne a ha
      · rcases List.mem_cons.mp hd with rfl | hd
        · refine ⟨hlast_lt, fun hp => ?_⟩
          simp only [hp, beq_self_eq_true, decide_eq_true_eq, Bool.true_and] at hjoin
          omega
        · have hdl : d.Before last := hlast d hd
          simp only [Before, NonEmpty] at hdl hlast_ne ⊢
          omega

theorem stop_lt_of_mem_mergeStep {acc : List BulletRange} {r : BulletRange} {x : Nat}
    (hacc : ∀ a ∈ acc, a.span.stop < x) (hr : r.span.stop < x) :
    ∀ a ∈ mergeStep acc r, a.span.stop < x := by
  intro a ha
  cases acc with
  | nil =>
    obtain rfl := List.mem_singleton.mp ha
    exact hr
  | cons last done =>
    simp only [mergeStep] at ha
    split at ha
    · rcases List.mem_cons.mp ha with rfl | ha
      · have hlast := hacc last List.mem_cons_self
        simp only [max_lt_iff]
        exact ⟨hlast, hr⟩
      · exact hacc a (List.mem_cons_of_mem _ ha)
    · rcases List.mem_cons.mp ha with rfl | ha
      · exact hr
      · exact hacc a ha

/-! ## What the merged ranges cover -/

/-- The offset `x` of a range of preset `p` is explained by the ranges `qs`: it lies in one of
preset `p`, or it is the one offset between two of preset `p`, the second starting one offset
after the first ends. -/
def Explained (qs : List BulletRange) (p : BulletPreset) (x : Nat) : Prop :=
  (∃ q ∈ qs, q.preset = p ∧ q.span.start ≤ x ∧ x < q.span.stop) ∨
    ∃ q ∈ qs, ∃ q' ∈ qs, q.preset = p ∧ q'.preset = p ∧ x = q.span.stop ∧
      q.span.stop + 1 = q'.span.start

theorem Explained.mono {qs qs' : List BulletRange} {p : BulletPreset} {x : Nat}
    (h : Explained qs p x) (hsub : qs ⊆ qs') : Explained qs' p x := by
  rcases h with ⟨q, hq, h⟩ | ⟨q, hq, q', hq', h⟩
  · exact .inl ⟨q, hsub hq, h⟩
  · exact .inr ⟨q, hsub hq, q', hsub hq', h⟩

/-- The merged ranges `acc`, the last one first, are made of the ranges `done`: each of those
lies in a merged range of its preset, each merged range ends where one of them ends, and every
offset of a merged range is explained by them. -/
structure MergedFrom (done acc : List BulletRange) : Prop where
  covers : ∀ q ∈ done, ∃ a ∈ acc, a.preset = q.preset ∧ a.span.start ≤ q.span.start ∧
    q.span.stop ≤ a.span.stop
  ends : ∀ a ∈ acc, ∃ q ∈ done, q.preset = a.preset ∧ q.span.stop = a.span.stop
  explained : ∀ a ∈ acc, ∀ x, a.span.start ≤ x → x < a.span.stop → Explained done a.preset x

theorem MergedFrom.nil : MergedFrom [] [] :=
  ⟨by simp, by simp, by simp⟩

theorem MergedFrom.perm {done done' acc : List BulletRange} (h : MergedFrom done acc)
    (hp : done.Perm done') : MergedFrom done' acc where
  covers q hq := h.covers q (hp.symm.subset hq)
  ends a ha := by
    obtain ⟨q, hq, h⟩ := h.ends a ha
    exact ⟨q, hp.subset hq, h⟩
  explained a ha x h₁ h₂ := (h.explained a ha x h₁ h₂).mono hp.subset

/-- A range added as a merged range of its own. -/
theorem MergedFrom.push {done acc : List BulletRange} {r : BulletRange} (hfrom : MergedFrom done acc) :
    MergedFrom (done ++ [r]) (r :: acc) := by
  have hsub : done ⊆ done ++ [r] := List.subset_append_left _ _
  have hmem : r ∈ done ++ [r] := List.mem_append_right _ List.mem_cons_self
  refine ⟨fun q hq => ?_, fun a ha => ?_, fun a ha x h₁ h₂ => ?_⟩
  · rcases List.mem_append.mp hq with hq | hq
    · obtain ⟨a, ha, h⟩ := hfrom.covers q hq
      exact ⟨a, List.mem_cons_of_mem _ ha, h⟩
    · obtain rfl := List.mem_singleton.mp hq
      exact ⟨_, List.mem_cons_self, rfl, le_rfl, le_rfl⟩
  · rcases List.mem_cons.mp ha with rfl | ha
    · exact ⟨a, hmem, rfl, rfl⟩
    · obtain ⟨q, hq, h⟩ := hfrom.ends a ha
      exact ⟨q, hsub hq, h⟩
  · rcases List.mem_cons.mp ha with rfl | ha
    · exact .inl ⟨a, hmem, rfl, h₁, h₂⟩
    · exact (hfrom.explained a ha x h₁ h₂).mono hsub

/-- A range that starts after every merged range ends is merged without losing an offset or
adding one: either it is joined to the last range, whose new end is its own, or it is added. -/
theorem mergeStep_from {done acc : List BulletRange} {r : BulletRange} (hacc : MergedApart acc)
    (hfrom : MergedFrom done acc) (hr : r.NonEmpty) (hlt : ∀ a ∈ acc, a.span.stop < r.span.start) :
    MergedFrom (done ++ [r]) (mergeStep acc r) := by
  have hsub : done ⊆ done ++ [r] := List.subset_append_left _ _
  have hmem : r ∈ done ++ [r] := List.mem_append_right _ List.mem_cons_self
  cases acc with
  | nil => exact hfrom.push
  | cons last rest =>
    have hlast_ne : last.NonEmpty := hacc.1 last List.mem_cons_self
    have hlast_lt : last.span.stop < r.span.start := hlt last List.mem_cons_self
    simp only [NonEmpty] at hlast_ne hr
    simp only [mergeStep]
    split
    · rename_i hjoin
      simp only [Bool.and_eq_true, beq_iff_eq, decide_eq_true_eq] at hjoin
      have hmax : max last.span.stop r.span.stop = r.span.stop := by omega
      refine ⟨fun q hq => ?_, fun a ha => ?_, fun a ha x h₁ h₂ => ?_⟩
      · rcases List.mem_append.mp hq with hq | hq
        · obtain ⟨a, ha, hp, hs, he⟩ := hfrom.covers q hq
          rcases List.mem_cons.mp ha with rfl | ha
          · exact ⟨_, List.mem_cons_self, hp, hs, le_trans he (le_max_left _ _)⟩
          · exact ⟨a, List.mem_cons_of_mem _ ha, hp, hs, he⟩
        · obtain rfl := List.mem_singleton.mp hq
          exact ⟨_, List.mem_cons_self, hjoin.1, by dsimp only; omega, le_max_right _ _⟩
      · rcases List.mem_cons.mp ha with rfl | ha
        · exact ⟨r, hmem, hjoin.1.symm, hmax.symm⟩
        · obtain ⟨q, hq, h⟩ := hfrom.ends a (List.mem_cons_of_mem _ ha)
          exact ⟨q, hsub hq, h⟩
      · rcases List.mem_cons.mp ha with rfl | ha
        · dsimp only at h₁ h₂ ⊢
          rw [hmax] at h₂
          rcases Nat.lt_trichotomy x last.span.stop with hx | rfl | hx
          · exact (hfrom.explained last List.mem_cons_self x h₁ hx).mono hsub
          · obtain ⟨q, hq, hqp, hqe⟩ := hfrom.ends last List.mem_cons_self
            exact .inr ⟨q, hsub hq, r, hmem, hqp, hjoin.1.symm, hqe.symm, by omega⟩
          · exact .inl ⟨r, hmem, hjoin.1.symm, by omega, h₂⟩
        · exact (hfrom.explained a (List.mem_cons_of_mem _ ha) x h₁ h₂).mono hsub
    · exact hfrom.push

/-- Joining ranges that come in order, each ending before the next one starts, keeps the
merged ranges apart and made of the ranges joined. -/
theorem foldl_mergeStep : ∀ {rs acc done : List BulletRange},
    rs.Pairwise (fun a b => a.span.stop < b.span.start) → (∀ r ∈ rs, r.NonEmpty) →
    MergedApart acc → MergedFrom done acc → (∀ a ∈ acc, ∀ r ∈ rs, a.span.stop < r.span.start) →
    MergedApart (rs.foldl mergeStep acc) ∧ MergedFrom (done ++ rs) (rs.foldl mergeStep acc)
  | [], _, done, _, _, hacc, hfrom, _ => ⟨hacc, by simpa using hfrom⟩
  | r :: rs, acc, done, hrs, hne, hacc, hfrom, hlt => by
    obtain ⟨hr, hrs⟩ := List.pairwise_cons.mp hrs
    have hr_ne := hne r List.mem_cons_self
    have hr_lt : ∀ a ∈ acc, a.span.stop < r.span.start := fun a ha => hlt a ha r List.mem_cons_self
    rw [List.foldl_cons, show done ++ r :: rs = (done ++ [r]) ++ rs by simp]
    refine foldl_mergeStep hrs (fun r' h => hne r' (List.mem_cons_of_mem _ h))
      (mergeStep_apart hacc hr_ne hr_lt) (mergeStep_from hacc hfrom hr_ne hr_lt) ?_
    intro a ha r' hr'
    exact stop_lt_of_mem_mergeStep (fun a ha => hlt a ha r' (List.mem_cons_of_mem _ hr'))
      (hr r' hr') a ha

/-! ## The sorts -/

/-- The ranges of the items that have a non-empty span, in the order of the items. -/
def validRanges (items : List ListItem) : List BulletRange :=
  items.filterMap fun i => i.span?.map fun s => BulletRange.mk s i.preset

theorem mem_validRanges {items : List ListItem} {r : BulletRange} :
    r ∈ validRanges items ↔ ∃ i ∈ items, ∃ e, i.stop = some e ∧ i.start < e ∧
      r = ⟨⟨i.start, e⟩, i.preset⟩ := by
  simp only [validRanges, List.mem_filterMap, Option.map_eq_some_iff, ListItem.span?_eq_some]
  constructor
  · rintro ⟨i, hi, s, ⟨e, he, hlt, rfl⟩, rfl⟩
    exact ⟨i, hi, e, he, hlt, rfl⟩
  · rintro ⟨i, hi, e, he, hlt, rfl⟩
    exact ⟨i, hi, _, ⟨e, he, hlt, rfl⟩, rfl⟩

/-- A range of `validRanges` is the line span of one of the items, with that item's preset. -/
theorem mem_validRanges_iff_span {items : List ListItem} {r : BulletRange} :
    r ∈ validRanges items ↔ ∃ i ∈ items, i.span? = some r.span ∧ i.preset = r.preset := by
  simp only [validRanges, List.mem_filterMap, Option.map_eq_some_iff]
  constructor
  · rintro ⟨i, hi, s, hs, rfl⟩
    exact ⟨i, hi, hs, rfl⟩
  · rintro ⟨i, hi, hs, hp⟩
    exact ⟨i, hi, r.span, hs, by rw [hp]⟩

/-- The non-empty spans of items that come in order, each ending before the next starts. -/
theorem validRanges_apart {items : List ListItem} (h : items.Pairwise ListItem.EndsBefore) :
    (∀ r ∈ validRanges items, r.NonEmpty) ∧
      (validRanges items).Pairwise fun a b => a.span.stop < b.span.start := by
  refine ⟨fun r hr => ?_, List.pairwise_filterMap.mpr (h.imp fun {a b} hab x hx y hy => ?_)⟩
  · obtain ⟨i, -, e, -, hlt, rfl⟩ := mem_validRanges.mp hr
    exact hlt
  · obtain ⟨s, hs, rfl⟩ := Option.map_eq_some_iff.mp hx
    obtain ⟨t, ht, rfl⟩ := Option.map_eq_some_iff.mp hy
    obtain ⟨e, he, -, rfl⟩ := ListItem.span?_eq_some.mp hs
    obtain ⟨f, -, -, rfl⟩ := ListItem.span?_eq_some.mp ht
    exact hab e he

theorem pairwise_mergeSort_start_le (l : List BulletRange) :
    (l.mergeSort fun a b => a.span.start ≤ b.span.start).Pairwise
      fun a b => a.span.start ≤ b.span.start := by
  have h := @List.pairwise_mergeSort _ (fun a b : BulletRange => a.span.start ≤ b.span.start)
    (fun a b c hab hbc => by simp only [decide_eq_true_eq] at *; omega)
    (fun a b => by simp only [Bool.or_eq_true, decide_eq_true_eq]; omega) l
  simpa only [decide_eq_true_eq] using h

theorem pairwise_mergeSort_start_ge (l : List BulletRange) :
    (l.mergeSort fun a b => b.span.start ≤ a.span.start).Pairwise
      fun a b => b.span.start ≤ a.span.start := by
  have h := @List.pairwise_mergeSort _ (fun a b : BulletRange => b.span.start ≤ a.span.start)
    (fun a b c hab hbc => by simp only [decide_eq_true_eq] at *; omega)
    (fun a b => by simp only [Bool.or_eq_true, decide_eq_true_eq]; omega) l
  simpa only [decide_eq_true_eq] using h

/-- Before the last sort: the bullet ranges of items that come in order are the ranges of the
items joined, apart and made of the items' ranges. The first sort leaves the ranges in order, since
each starts before it ends. -/
theorem mergeBulletRanges_joined {items : List ListItem} (h : items.Pairwise ListItem.EndsBefore) :
    ∃ merged, (mergeBulletRanges items).Perm merged ∧ MergedApart merged ∧
      MergedFrom (validRanges items) merged := by
  obtain ⟨hne, hvalid⟩ := validRanges_apart h
  have hperm := List.mergeSort_perm (validRanges items) fun a b => a.span.start ≤ b.span.start
  have hsorted : ((validRanges items).mergeSort fun a b => a.span.start ≤ b.span.start).Pairwise
      fun a b => a.span.stop < b.span.start :=
    pairwise_of_perm_of_sorted hperm hvalid (pairwise_mergeSort_start_le _)
      fun a ha b hb hba hab => by
        have hb' : b.NonEmpty := hne b hb
        simp only [NonEmpty] at hb'
        omega
  obtain ⟨happ, hfrom⟩ := foldl_mergeStep hsorted (fun r hr => hne r (hperm.subset hr))
    MergedApart.nil MergedFrom.nil (by simp)
  exact ⟨_, (List.mergeSort_perm _ _).trans (List.reverse_perm _), happ,
    hfrom.perm (by simpa using hperm)⟩

/-- The bullet ranges of items that come in order, each ending before the next one starts:
each covers an offset, and each ends before the start of every range emitted before it, two
offsets before when they share a preset. The last sort turns the merged ranges, first to last, back
to last first. -/
theorem mergeBulletRanges_apart {items : List ListItem} (h : items.Pairwise ListItem.EndsBefore) :
    (∀ r ∈ mergeBulletRanges items, r.NonEmpty) ∧
      (mergeBulletRanges items).Pairwise fun p n => n.Before p := by
  obtain ⟨merged, hperm, ⟨hmne, hmerged⟩, -⟩ := mergeBulletRanges_joined h
  refine ⟨fun r hr => hmne r (hperm.subset hr),
    pairwise_of_perm_of_sorted hperm hmerged (pairwise_mergeSort_start_ge _) ?_⟩
  intro a ha b hb hab hle
  have ha' : a.NonEmpty := hmne a ha
  simp only [Before, NonEmpty] at hab ha' hle
  omega

/-- The bullet ranges of items that come in order, each ending before the next one starts,
cover the items' spans and nothing else: each non-empty span lies in a range of the item's
preset, and each offset of a range lies in the span of an item of its preset, or between two
such spans one offset apart. -/
theorem mergeBulletRanges_covers {items : List ListItem} (h : items.Pairwise ListItem.EndsBefore) :
    (∀ q ∈ validRanges items, ∃ r ∈ mergeBulletRanges items, r.preset = q.preset ∧
      r.span.start ≤ q.span.start ∧ q.span.stop ≤ r.span.stop) ∧
    ∀ r ∈ mergeBulletRanges items, ∀ x, r.span.start ≤ x → x < r.span.stop →
      Explained (validRanges items) r.preset x := by
  obtain ⟨merged, hperm, -, hfrom⟩ := mergeBulletRanges_joined h
  refine ⟨fun q hq => ?_, fun r hr => hfrom.explained r (hperm.subset hr)⟩
  obtain ⟨a, ha, h⟩ := hfrom.covers q hq
  exact ⟨a, hperm.symm.subset ha, h⟩

end DocBridge
