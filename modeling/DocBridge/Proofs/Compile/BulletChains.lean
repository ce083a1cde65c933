import DocBridge.Proofs.Compile.BulletMerge

/-!
# Bullet ranges are maximal chains of items

`mergeBulletRanges` keeps the items with a non-empty span, sorts their ranges by start, joins
each range to the range merged just before it when the two share a preset and the new one
starts at most one offset after the merged one ends, and sorts the result the other way. This
file says what comes out for every list of items, in any order and with any presets and ends
below the largest offset.

A chain is a first range and the ranges that join onto it one after the other (`Joins`): each
shares the first one's preset and starts at most one offset after the largest end before it.
It merges into `joined`, from the first start to the largest end. `Chains rs cs` says that `cs`
cuts `rs` into chains, in order, that are maximal: no chain could take the first range of the
next. The merge loop cuts the sorted ranges into such chains (`foldl_mergeStep_chains`), and the
sort is stable (`filter_mergeSort_start`).

`mergeBulletRanges_chains` is the result, for items that end below the largest offset, where
the merge's comparison with an end plus one stays among the offsets
(`foldl_mergeStep_take_fits`): the ranges come out latest start first, are the chains of the
start-sorted ranges merged, cover every item's span with a range of its preset, start at an
item's start and end at an item's end, ignore the items with no non-empty span, and, when the
items' spans lie apart, come out apart, two offsets apart when they share a preset.
-/

namespace DocBridge

namespace BulletRange

/-- `r` may join the range `last` merged before it: they share a preset and `r` starts at most
one offset after `last` ends. -/
def Joinable (last r : BulletRange) : Prop :=
  last.preset = r.preset ∧ r.span.start ≤ last.span.stop + 1

instance : DecidableRel Joinable := fun _ _ => inferInstanceAs (Decidable (_ ∧ _))

/-- The range `last` with `r` joined to it: its start and preset, and the larger end. -/
def extend (last r : BulletRange) : BulletRange :=
  ⟨⟨last.span.start, max last.span.stop r.span.stop⟩, last.preset⟩

/-- The ranges `rs` join one after the other onto `first`: each may join the range merged from
`first` and the ranges before it. -/
def Joins (first : BulletRange) : List BulletRange → Prop
  | [] => True
  | r :: rs => Joinable first r ∧ Joins (first.extend r) rs

/-- The range a chain merges into: from the start of its first range to the largest end, with
the first range's preset. -/
def joined (first : BulletRange) (rs : List BulletRange) : BulletRange := rs.foldl extend first

@[simp] theorem extend_start (last r : BulletRange) : (last.extend r).span.start = last.span.start :=
  rfl

@[simp] theorem extend_stop (last r : BulletRange) :
    (last.extend r).span.stop = max last.span.stop r.span.stop := rfl

@[simp] theorem extend_preset (last r : BulletRange) : (last.extend r).preset = last.preset := rfl

@[simp] theorem joined_nil (first : BulletRange) : joined first [] = first := rfl

theorem joined_cons (first r : BulletRange) (rs : List BulletRange) :
    joined first (r :: rs) = joined (first.extend r) rs := rfl

theorem joined_concat (first : BulletRange) (rs : List BulletRange) (r : BulletRange) :
    joined first (rs ++ [r]) = (joined first rs).extend r := by
  rw [joined, List.foldl_append]
  rfl

@[simp] theorem joined_start (first : BulletRange) (rs : List BulletRange) :
    (joined first rs).span.start = first.span.start := by
  induction rs generalizing first with
  | nil => rfl
  | cons r rs ih => rw [joined_cons, ih, extend_start]

@[simp] theorem joined_preset (first : BulletRange) (rs : List BulletRange) :
    (joined first rs).preset = first.preset := by
  induction rs generalizing first with
  | nil => rfl
  | cons r rs ih => rw [joined_cons, ih, extend_preset]

/-- Every range of a chain ends by the end of the merged range. -/
theorem stop_le_joined {first q : BulletRange} {rs : List BulletRange} (hq : q ∈ first :: rs) :
    q.span.stop ≤ (joined first rs).span.stop := by
  induction rs generalizing first q with
  | nil =>
    rw [List.mem_singleton.mp hq]
    rfl
  | cons r rs ih =>
    rw [joined_cons]
    have hext : (first.extend r).span.stop ≤ (joined (first.extend r) rs).span.stop :=
      @ih (first.extend r) (first.extend r) List.mem_cons_self
    rcases List.mem_cons.mp hq with rfl | hq
    · exact le_trans (le_max_left _ _) hext
    · rcases List.mem_cons.mp hq with rfl | hq
      · exact le_trans (le_max_right _ _) hext
      · exact ih (List.mem_cons_of_mem _ hq)

/-- The merged range ends where one of the chain's ranges ends. -/
theorem exists_stop_joined (first : BulletRange) (rs : List BulletRange) :
    ∃ q ∈ first :: rs, q.span.stop = (joined first rs).span.stop := by
  induction rs generalizing first with
  | nil => exact ⟨first, List.mem_cons_self, rfl⟩
  | cons r rs ih =>
    obtain ⟨q, hq, hstop⟩ := ih (first.extend r)
    rw [joined_cons, ← hstop]
    rcases List.mem_cons.mp hq with rfl | hq
    · rcases max_choice first.span.stop r.span.stop with h | h
      · exact ⟨first, List.mem_cons_self, by rw [extend_stop, h]⟩
      · exact ⟨r, List.mem_cons_of_mem _ List.mem_cons_self, by rw [extend_stop, h]⟩
    · exact ⟨q, List.mem_cons_of_mem _ (List.mem_cons_of_mem _ hq), rfl⟩

theorem joins_concat {first r : BulletRange} {rs : List BulletRange} :
    Joins first (rs ++ [r]) ↔ Joins first rs ∧ Joinable (joined first rs) r := by
  induction rs generalizing first with
  | nil => simp [Joins]
  | cons q rs ih => rw [List.cons_append, Joins, Joins, ih, joined_cons, and_assoc]

/-- The ranges of a chain share its first range's preset. -/
theorem Joins.preset_eq {first q : BulletRange} {rs : List BulletRange} (h : Joins first rs)
    (hq : q ∈ rs) : q.preset = first.preset := by
  induction rs generalizing first with
  | nil => simp at hq
  | cons r rs ih =>
    obtain ⟨⟨hp, -⟩, hrs⟩ := h
    rcases List.mem_cons.mp hq with rfl | hq
    · exact hp.symm
    · exact (ih hrs hq).trans (extend_preset first r)

end BulletRange

open BulletRange

theorem mergeStep_cons (last : BulletRange) (done : List BulletRange) (r : BulletRange) :
    mergeStep (last :: done) r =
      if Joinable last r then last.extend r :: done else r :: last :: done := by
  simp only [mergeStep, Joinable, Bool.and_eq_true, beq_iff_eq, decide_eq_true_eq]
  rfl

/-! ## The merge loop cuts its input into maximal chains -/

/-- `cs` cuts the ranges `rs` into maximal chains: in order they make up `rs`, the ranges of
each chain join one after the other onto its first, and no chain could take the first range of
the next one. -/
structure Chains (rs : List BulletRange) (cs : List (BulletRange × List BulletRange)) : Prop where
  flatten : cs.flatMap (fun c => c.1 :: c.2) = rs
  joins : ∀ c ∈ cs, Joins c.1 c.2
  maximal : cs.IsChain fun c d => ¬ Joinable (joined c.1 c.2) d.1

theorem Chains.nil : Chains [] [] := ⟨rfl, by simp, .nil⟩

/-- A range that the last chain may take extends that chain. The chain keeps its first range, so the
chain before it still cannot take it. -/
theorem Chains.extend {rs : List BulletRange} {cs : List (BulletRange × List BulletRange)}
    {c : BulletRange × List BulletRange} {r : BulletRange} (h : Chains rs (cs ++ [c]))
    (hr : Joinable (joined c.1 c.2) r) : Chains (rs ++ [r]) (cs ++ [(c.1, c.2 ++ [r])]) := by
  obtain ⟨hflat, hjoins, hmax⟩ := h
  refine ⟨?_, fun d hd => ?_, ?_⟩
  · rw [← hflat]
    simp
  · rcases List.mem_append.mp hd with hd | hd
    · exact hjoins d (List.mem_append_left _ hd)
    · rw [List.mem_singleton.mp hd]
      exact joins_concat.mpr ⟨hjoins c (by simp), hr⟩
  · obtain ⟨hcs, -, hlast⟩ := List.isChain_append.mp hmax
    exact List.isChain_append.mpr ⟨hcs, .singleton _, fun x hx y hy => by
      obtain rfl := Option.mem_some_iff.mp hy
      exact hlast x hx c rfl⟩

/-- A range that the last chain may not take starts a chain of its own. -/
theorem Chains.push {rs : List BulletRange} {cs : List (BulletRange × List BulletRange)}
    {c : BulletRange × List BulletRange} {r : BulletRange} (h : Chains rs (cs ++ [c]))
    (hr : ¬ Joinable (joined c.1 c.2) r) : Chains (rs ++ [r]) (cs ++ [c] ++ [(r, [])]) := by
  obtain ⟨hflat, hjoins, hmax⟩ := h
  refine ⟨?_, fun d hd => ?_, ?_⟩
  · rw [← hflat]
    simp
  · rcases List.mem_append.mp hd with hd | hd
    · exact hjoins d hd
    · rw [List.mem_singleton.mp hd]
      trivial
  · refine List.isChain_append.mpr ⟨hmax, .singleton _, fun x hx y hy => ?_⟩
    obtain rfl := Option.mem_some_iff.mp hy
    obtain rfl : x = c := by simpa using hx.symm
    exact hr

/-- The merge loop, run from nothing over any ranges, gives the maximal chains of the ranges,
merged, in order. With nothing merged yet, a range starts the first chain. -/
theorem foldl_mergeStep_chains (rs : List BulletRange) :
    ∃ cs, Chains rs cs ∧ (rs.foldl mergeStep []).reverse = cs.map fun c => joined c.1 c.2 := by
  induction rs using List.reverseRecOn with
  | nil => exact ⟨[], .nil, rfl⟩
  | append_singleton rs r ih =>
    obtain ⟨cs, hcs, hacc⟩ := ih
    have hacc' : rs.foldl mergeStep [] = (cs.map fun c => joined c.1 c.2).reverse := by
      rw [← hacc, List.reverse_reverse]
    rw [List.foldl_append, List.foldl_cons, List.foldl_nil, hacc']
    rcases List.eq_nil_or_concat cs with rfl | ⟨cs, c, rfl⟩
    · obtain rfl : rs = [] := hcs.flatten.symm
      exact ⟨[(r, [])], ⟨rfl, by simp [Joins], .singleton _⟩, rfl⟩
    · rw [List.concat_eq_append] at hcs ⊢
      rw [List.map_append, List.reverse_append, List.map_singleton, List.reverse_singleton,
        List.singleton_append, mergeStep_cons]
      split
      · rename_i hr
        refine ⟨_, hcs.extend hr, ?_⟩
        simp [joined_concat]
      · rename_i hr
        refine ⟨_, hcs.push hr, ?_⟩
        simp

/-! ## The sorts -/

/-- The order of the ranges by start, as `mergeBulletRanges` sorts them. -/
def startLe (a b : BulletRange) : Bool := decide (a.span.start ≤ b.span.start)

theorem mergeBulletRanges_eq (items : List ListItem) :
    mergeBulletRanges items =
      ((((validRanges items).mergeSort startLe).foldl mergeStep []).reverse).mergeSort
        fun a b => decide (b.span.start ≤ a.span.start) := rfl

/-- Sorting by start is stable: the ranges of one start keep their order. The ranges of one start
are sorted already, so the sort keeps them as a sublist. -/
theorem filter_mergeSort_start (l : List BulletRange) (n : Nat) :
    (l.mergeSort startLe).filter (·.span.start == n) = l.filter (·.span.start == n) := by
  have htrans : ∀ a b c : BulletRange, startLe a b → startLe b c → startLe a c := by
    simp only [startLe, decide_eq_true_eq]
    omega
  have htotal : ∀ a b : BulletRange, (startLe a b || startLe b a) = true := by
    simp only [startLe, Bool.or_eq_true, decide_eq_true_eq]
    omega
  have hsorted : (l.filter (·.span.start == n)).Pairwise fun a b => startLe a b := by
    refine List.Pairwise.imp_of_mem (fun ha hb _ => ?_) (List.pairwise_of_forall fun _ _ => trivial)
    simp only [List.mem_filter, beq_iff_eq] at ha hb
    simp [startLe, ha.2, hb.2]
  have hsub := (List.sublist_mergeSort htrans htotal hsorted List.filter_sublist).filter
    (·.span.start == n)
  rw [List.filter_filter, List.filter_congr fun _ _ => Bool.and_self _] at hsub
  exact (hsub.eq_of_length ((List.mergeSort_perm l startLe).filter _).length_eq.symm).symm

theorem pairwise_mergeSort_startLe (l : List BulletRange) :
    (l.mergeSort startLe).Pairwise fun a b => a.span.start ≤ b.span.start :=
  pairwise_mergeSort_start_le l

/-! ## What the merged ranges are -/

/-- A range of a chain lies in the chain's merged range, when the chain is part of a list sorted
by start. -/
theorem inside_joined {rs : List BulletRange} {cs : List (BulletRange × List BulletRange)}
    (h : Chains rs cs) (hrs : rs.Pairwise fun a b => a.span.start ≤ b.span.start)
    {c : BulletRange × List BulletRange} (hc : c ∈ cs) {q : BulletRange} (hq : q ∈ c.1 :: c.2) :
    (joined c.1 c.2).span.start ≤ q.span.start ∧ q.span.stop ≤ (joined c.1 c.2).span.stop := by
  refine ⟨?_, stop_le_joined hq⟩
  have hsub : (c.1 :: c.2).Sublist rs := by
    rw [← h.flatten]
    simpa using (List.singleton_sublist.mpr hc).flatMap fun c => c.1 :: c.2
  rw [joined_start]
  rcases List.mem_cons.mp hq with rfl | hq
  · exact le_rfl
  · exact List.rel_of_pairwise_cons (hrs.sublist hsub) hq

/-- The ranges of the items with no non-empty span are none. -/
theorem validRanges_filter (items : List ListItem) :
    validRanges (items.filter fun i => i.span?.isSome) = validRanges items := by
  induction items with
  | nil => rfl
  | cons i items ih =>
    cases h : i.span? <;> simp_all [validRanges]

/-- Items whose spans lie apart: of any two non-empty spans, one starts after the other ends. -/
def ItemsSeparated (items : List ListItem) : Prop :=
  (validRanges items).Pairwise fun a b => a.span.stop < b.span.start ∨ b.span.stop < a.span.start

instance (items : List ListItem) : Decidable (ItemsSeparated items) :=
  inferInstanceAs (Decidable (List.Pairwise _ _))

/-- Sorted by start, ranges that lie apart come one after the other. -/
theorem separated_sorted {items : List ListItem} (h : ItemsSeparated items) :
    ((validRanges items).mergeSort startLe).Pairwise fun a b => a.span.stop < b.span.start := by
  have hperm := List.mergeSort_perm (validRanges items) startLe
  have hsep := hperm.symm.pairwise h fun h => h.symm
  refine (hsep.and (pairwise_mergeSort_startLe _)).imp_of_mem fun ha hb ⟨hab, hle⟩ => ?_
  obtain ⟨-, -, -, -, hb'⟩ := mem_validRanges.mp (hperm.subset hb)
  obtain ⟨i, -, e, -, hlt, rfl⟩ := mem_validRanges.mp (hperm.subset hb)
  dsimp only at hab hle ⊢
  omega

/-- Merged from ranges in order, each ending before the next starts, the ranges come out last
first, each ending before the start of every range before it in the output, two offsets before
when they share a preset. The last sort turns the merged ranges, first to last, back to last
first. -/
theorem mergeBulletRanges_apart_of_separated {items : List ListItem} (h : ItemsSeparated items) :
    (mergeBulletRanges items).Pairwise fun a b => b.span.start < a.span.start ∧
      b.span.stop < a.span.start ∧ (a.preset = b.preset → b.span.stop + 1 < a.span.start) := by
  have hperm := List.mergeSort_perm (validRanges items) startLe
  have hne : ∀ r ∈ (validRanges items).mergeSort startLe, r.NonEmpty := fun r hr => by
    obtain ⟨i, -, e, -, hlt, rfl⟩ := mem_validRanges.mp (hperm.subset hr)
    exact hlt
  obtain ⟨⟨hmne, hmerged⟩, -⟩ := foldl_mergeStep (separated_sorted h) hne MergedApart.nil
    MergedFrom.nil (by simp)
  have hout := List.mergeSort_perm
    (((validRanges items).mergeSort startLe).foldl mergeStep []).reverse
    fun a b => decide (b.span.start ≤ a.span.start)
  rw [mergeBulletRanges_eq]
  have hsorted := pairwise_of_perm_of_sorted (hout.trans (List.reverse_perm _)) hmerged
    (pairwise_mergeSort_start_ge _) fun a ha b hb hab hle => by
      have ha' : a.NonEmpty := hmne a ha
      simp only [Before, NonEmpty] at hab ha' hle
      omega
  refine hsorted.imp_of_mem fun {a b} _ hb hab => ?_
  have hb' : b.NonEmpty := hmne b ((hout.trans (List.reverse_perm _)).subset hb)
  simp only [Before, NonEmpty] at hab hb'
  exact ⟨by omega, hab.1, fun hp => hab.2 hp.symm⟩

/-- The ranges of a chain are ranges of the list the chains cut. -/
theorem Chains.mem {rs : List BulletRange} {cs : List (BulletRange × List BulletRange)}
    (h : Chains rs cs) {c : BulletRange × List BulletRange} (hc : c ∈ cs) {q : BulletRange}
    (hq : q ∈ c.1 :: c.2) : q ∈ rs :=
  h.flatten ▸ List.mem_flatMap.mpr ⟨c, hc, hq⟩

/-- The ranges of a chain share its first range's preset. -/
theorem Chains.preset_eq {rs : List BulletRange} {cs : List (BulletRange × List BulletRange)}
    (h : Chains rs cs) {c : BulletRange × List BulletRange} (hc : c ∈ cs) {q : BulletRange}
    (hq : q ∈ c.1 :: c.2) : q.preset = c.1.preset := by
  rcases List.mem_cons.mp hq with rfl | hq
  · rfl
  · exact (h.joins c hc).preset_eq hq

/-- The bullet ranges are the maximal chains of the items' ranges, sorted by start, merged. -/
theorem mergeBulletRanges_perm_chains (items : List ListItem) :
    ∃ cs, Chains ((validRanges items).mergeSort startLe) cs ∧
      (mergeBulletRanges items).Perm (cs.map fun c => joined c.1 c.2) := by
  obtain ⟨cs, hcs, hacc⟩ := foldl_mergeStep_chains ((validRanges items).mergeSort startLe)
  refine ⟨cs, hcs, ?_⟩
  rw [mergeBulletRanges_eq, hacc]
  exact List.mergeSort_perm _ _

/-- Every non-empty span of an item lies in a bullet range of the item's preset. -/
theorem mergeBulletRanges_covers_spans {items : List ListItem} {i : ListItem} (hi : i ∈ items)
    {e : Nat} (he : i.stop = some e) (hlt : i.start < e) :
    ∃ r ∈ mergeBulletRanges items, r.preset = i.preset ∧ r.span.start ≤ i.start ∧
      e ≤ r.span.stop := by
  obtain ⟨cs, hcs, hout⟩ := mergeBulletRanges_perm_chains items
  have hq : (⟨⟨i.start, e⟩, i.preset⟩ : BulletRange) ∈ (validRanges items).mergeSort startLe :=
    List.mem_mergeSort.mpr (mem_validRanges.mpr ⟨i, hi, e, he, hlt, rfl⟩)
  rw [← hcs.flatten] at hq
  obtain ⟨c, hc, hqc⟩ := List.mem_flatMap.mp hq
  obtain ⟨hstart, hstop⟩ := inside_joined hcs (pairwise_mergeSort_startLe _) hc hqc
  exact ⟨_, hout.symm.subset (List.mem_map_of_mem hc), by rw [joined_preset, ← hcs.preset_eq hc hqc],
    hstart, hstop⟩

/-- Every bullet range starts where an item of its preset with a non-empty span starts, and
ends where an item of its preset ends. A range starts at its chain's first range and ends at one of
the chain's ranges. -/
theorem mergeBulletRanges_ends_at_items {items : List ListItem} {r : BulletRange}
    (hr : r ∈ mergeBulletRanges items) :
    (∃ i ∈ items, i.start = r.span.start ∧ i.preset = r.preset ∧ i.span?.isSome) ∧
      ∃ i ∈ items, i.stop = some r.span.stop ∧ i.preset = r.preset ∧ i.start < r.span.stop := by
  obtain ⟨cs, hcs, hout⟩ := mergeBulletRanges_perm_chains items
  obtain ⟨c, hc, rfl⟩ := List.mem_map.mp (hout.subset hr)
  have hvalid : ∀ q ∈ c.1 :: c.2, q ∈ validRanges items := fun q hq =>
    List.mem_mergeSort.mp (hcs.mem hc hq)
  obtain ⟨i, hi, hspan, hp⟩ := mem_validRanges_iff_span.mp (hvalid c.1 List.mem_cons_self)
  obtain ⟨e', -, -, hspan'⟩ := ListItem.span?_eq_some.mp hspan
  obtain ⟨q, hq, hqstop⟩ := exists_stop_joined c.1 c.2
  obtain ⟨j, hj, e, he, hlt, rfl⟩ := mem_validRanges.mp (hvalid q hq)
  refine ⟨⟨i, hi, by rw [joined_start, hspan'], by rw [joined_preset, hp], by rw [hspan]; rfl⟩,
    ⟨j, hj, by rw [← hqstop, he], by rw [joined_preset, ← hcs.preset_eq hc hq], ?_⟩⟩
  rw [← hqstop]
  exact hlt

/-- Items with no end, or an end not after their start, change no bullet range. -/
theorem mergeBulletRanges_filter_valid (items : List ListItem) :
    mergeBulletRanges items = mergeBulletRanges (items.filter fun i => i.span?.isSome) := by
  rw [mergeBulletRanges_eq, mergeBulletRanges_eq, validRanges_filter]

/-! ## Room for the merge's comparison

The merge compares a range's start with the end of the range merged before it plus one. That
sum is an offset as long as every range the merge holds ends below the largest offset, which
holds when every item ends below it, as the compiler's items do. -/

/-- Merge steps over ranges that end below `x` hold only ranges that end below `x`. -/
theorem foldl_mergeStep_stop_lt {x : Nat} :
    ∀ {rs acc : List BulletRange}, (∀ r ∈ rs, r.span.stop < x) → (∀ a ∈ acc, a.span.stop < x) →
      ∀ b ∈ rs.foldl mergeStep acc, b.span.stop < x
  | [], _, _, hacc => hacc
  | r :: rs, acc, hrs, hacc =>
    @foldl_mergeStep_stop_lt x rs (mergeStep acc r) (fun q hq => hrs q (List.mem_cons_of_mem _ hq))
      (stop_lt_of_mem_mergeStep hacc (hrs r List.mem_cons_self))

/-- When every item ends below the largest offset, so does every range the merge holds after
any number of its steps. -/
theorem foldl_mergeStep_take_fits {items : List ListItem}
    (hfit : ∀ i ∈ items, ∀ s ∈ i.span?, s.stop < maxOffset) (n : Nat) :
    ∀ b ∈ (((validRanges items).mergeSort startLe).take n).foldl mergeStep [],
      b.span.stop < maxOffset := by
  refine foldl_mergeStep_stop_lt (fun r hr => ?_) (by simp)
  have hr' : r ∈ validRanges items := List.mem_mergeSort.mp (List.mem_of_mem_take hr)
  obtain ⟨i, hi, hspan, -⟩ := mem_validRanges_iff_span.mp hr'
  exact hfit i hi r.span hspan

end DocBridge
