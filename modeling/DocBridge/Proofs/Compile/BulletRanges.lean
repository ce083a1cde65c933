import DocBridge.Proofs.Compile.Insertions
import DocBridge.Proofs.Compile.Nesting
import DocBridge.Proofs.Compile.BulletMerge

/-!
# Bullet ranges never overlap

While a well-nested stream is compiled, the list items stay in order: each item's end, once
known, lies before the cursor and before every later item's start (`ItemsOrdered`), and
only the last item may still wait for its end, as the innermost open item with no list open
inside it (`PendingLast`). A nested list ends the line of its parent item before its own
first item starts, and an item opens only directly inside a list, so no item starts while
an earlier one is still waiting for its end.

`compile_bullet_ranges_apart` follows through `mergeBulletRanges_apart`: the bullet ranges of
a compiled well-nested stream come last first, each ending before the start of every range
emitted before it, at least two offsets before when they share a preset.
-/

namespace DocBridge

/-- The bullet range an operation creates. -/
def EditOperation.bulletRange? : EditOperation → Option BulletRange
  | .createBulletRange r p => some ⟨r.span, p⟩
  | _ => none

/-- An element replaced by itself leaves the list as it was. -/
theorem list_set_of_getElem? {α : Type} {l : List α} {i : Nat} {a : α} (h : l[i]? = some a) :
    l.set i a = l := by
  obtain ⟨hlt, rfl⟩ := List.getElem?_eq_some_iff.mp h
  exact List.set_getElem_self hlt

/-- Changing the last element of a list. -/
theorem exists_modify_last {α : Type} {l : List α} {k : Nat} (hk : k + 1 = l.length)
    (f : α → α) : ∃ l₀ x, l = l₀ ++ [x] ∧ l₀.length = k ∧ l.modify k f = l₀ ++ [f x] := by
  obtain ⟨l₁, a, l₂, h₁, h₂, h₃⟩ := List.exists_of_modify f (show k < l.length by omega)
  have hl₂ : l₂ = [] := by
    have hlen := congrArg List.length h₁
    simp only [List.length_append, List.length_cons] at hlen
    exact List.eq_nil_of_length_eq_zero (by omega)
  subst hl₂
  exact ⟨l₁, a, h₁, h₂, h₃⟩

namespace Compiler

/-- The start and, once known, the end of every item, in the order the items opened. -/
def bounds (c : Compiler) : List (Nat × Option Nat) :=
  c.items.toList.map fun i => (i.start, i.stop)

variable {c d e : Compiler} {s s' : List Container}

theorem getElem?_bounds (k : Nat) :
    c.bounds[k]? = c.items[k]?.map fun i => (i.start, i.stop) := by
  simp [bounds]

@[simp] theorem length_bounds : c.bounds.length = c.items.size := by
  simp [bounds]

@[simp] theorem bounds_put (t : String) : (c.put t).bounds = c.bounds := rfl

theorem bounds_setItemStop (idx stop : Nat) :
    (c.setItemStop idx stop).bounds = c.bounds.modify idx fun b => (b.1, some stop) := by
  apply List.ext_getElem?
  intro j
  simp only [bounds, setItemStop, Array.toList_modify, List.getElem?_map, List.getElem?_modify]
  cases c.items.toList[j]? <;> by_cases h : idx = j <;> simp [h]

/-- Looking at a task prefix changes the preset of an item and notes that it was looked at,
so it keeps whatever else is read of the items. -/
theorem map_items_takeTaskPrefix {β : Type} (f : ListItem → β)
    (hf : ∀ i x p, f { i with taskChecked := x, preset := p } = f i) (t : String) :
    (c.takeTaskPrefix t).1.items.toList.map f = c.items.toList.map f := by
  unfold takeTaskPrefix
  split
  · rfl
  split
  · rfl
  rename_i idx _ _
  split
  · rfl
  rename_i item hi
  have hb : ∀ p : BulletPreset, ∀ x : Bool,
      (c.items.toList.set idx { item with taskChecked := x, preset := p }).map f =
        c.items.toList.map f := by
    intro p x
    rw [List.map_set, hf]
    exact list_set_of_getElem? (by simp [hi])
  split
  · rfl
  split
  · simpa [Array.set!_eq_setIfInBounds] using hb .checkbox true
  · simpa [Array.set!_eq_setIfInBounds] using hb item.preset true

/-- Looking at a task prefix changes the preset of an item, never where it starts or ends. -/
theorem bounds_takeTaskPrefix (t : String) : (c.takeTaskPrefix t).1.bounds = c.bounds :=
  map_items_takeTaskPrefix _ (fun _ _ _ => rfl) t

theorem ensureLineStart_bounds (h : c.ensureLineStart = .ok d) :
    d.bounds = c.bounds ∧ d.openItems = c.openItems := by
  rcases ensureLineStart_cases h with rfl | rfl <;> simp

/-- Every item has its end. -/
def ItemsEnded (c : Compiler) : Prop :=
  ∀ b ∈ c.bounds, b.2.isSome

/-! ## The invariant -/

/-- The items in order: each ends, once its end is known, before the cursor and before every
later item starts. -/
structure ItemsOrdered (c : Compiler) : Prop where
  cursor_pos : 0 < c.cursor
  stop_lt : ∀ b ∈ c.bounds, ∀ e, b.2 = some e → e < c.cursor
  apart : c.bounds.Pairwise fun a b => ∀ e, a.2 = some e → e < b.1

/-- Only the last item may still wait for its end; it is then the innermost open item, and
the open containers `s` hold no list inside it. -/
def PendingLast (s : List Container) (c : Compiler) : Prop :=
  ∀ k b, c.bounds[k]? = some b → b.2 = none →
    k + 1 = c.bounds.length ∧ c.openItems.head? = some k ∧ itemOnTop s = true

/-- What the items keep while a well-nested stream is compiled, with `s` the containers open. -/
structure ItemsApart (s : List Container) (c : Compiler) : Prop where
  ordered : ItemsOrdered c
  pending : PendingLast s c

theorem ItemsOrdered.mono (h : ItemsOrdered c) (hb : d.bounds = c.bounds)
    (hc : c.cursor ≤ d.cursor) : ItemsOrdered d where
  cursor_pos := Nat.lt_of_lt_of_le h.cursor_pos hc
  stop_lt b hm e he := by
    rw [hb] at hm
    exact Nat.lt_of_lt_of_le (h.stop_lt b hm e he) hc
  apart := hb ▸ h.apart

theorem ItemsOrdered.items_apart (h : ItemsOrdered c) :
    c.items.toList.Pairwise ListItem.EndsBefore := by
  have hap := h.apart
  simp only [bounds, List.pairwise_map] at hap
  exact hap

theorem PendingLast.congr (h : PendingLast s c) (hb : d.bounds = c.bounds)
    (ho : d.openItems = c.openItems) (hs : itemOnTop s' = itemOnTop s) : PendingLast s' d := by
  intro k b hk hn
  rw [hb] at hk ⊢
  rw [ho, hs]
  exact h k b hk hn

/-- A state whose items have all ended waits for no item, whatever is open. -/
theorem ItemsApart.of_ended (ho : ItemsOrdered c) (he : ItemsEnded c) : ItemsApart s c := by
  refine ⟨ho, fun k b hk hn => ?_⟩
  have hb := he b (List.mem_of_getElem? hk)
  simp [hn] at hb

/-- Every item has ended when the innermost open item has. -/
theorem PendingLast.ended_of_head (h : PendingLast s c)
    (hk : ∀ k b, c.openItems.head? = some k → c.bounds[k]? = some b → b.2.isSome) :
    ItemsEnded c := by
  intro b hb
  obtain ⟨k, hkb⟩ := List.mem_iff_getElem?.mp hb
  cases hn : b.2 with
  | some _ => rfl
  | none =>
    obtain ⟨-, hhead, -⟩ := h k b hkb hn
    simpa [hn] using hk k b hhead hkb

/-- Every item has ended when no item is the innermost open container. -/
theorem PendingLast.ended_of_itemOnTop (h : PendingLast s c) (hs : itemOnTop s = false) :
    ItemsEnded c := by
  intro b hb
  obtain ⟨k, hkb⟩ := List.mem_iff_getElem?.mp hb
  cases hn : b.2 with
  | some _ => rfl
  | none =>
    obtain ⟨-, -, htop⟩ := h k b hkb hn
    simp [hs] at htop

/-- The innermost open item, waiting for its end, is the last item, and the only one waiting. -/
theorem PendingLast.of_open {idx : Nat} {item : ListItem} (h : PendingLast s c)
    (hi : c.items[idx]? = some item) (hs : item.stop = none) :
    idx + 1 = c.bounds.length ∧ ∀ k b, c.bounds[k]? = some b → b.2 = none → k = idx := by
  have hb : c.bounds[idx]? = some (item.start, item.stop) := by simp [getElem?_bounds, hi]
  obtain ⟨hlast, hhead, -⟩ := h idx _ hb hs
  refine ⟨hlast, fun k b hk hn => ?_⟩
  obtain ⟨-, hk', -⟩ := h k b hk hn
  rw [hhead] at hk'
  exact (Option.some.inj hk').symm

/-! ## Ending an item -/

/-- Ending the line of the last item, the only one waiting for its end, leaves every item
ended and in order: the end is the newline before the cursor, or the one just inserted. -/
theorem ItemsOrdered.finish_last {idx stop : Nat} (h : ItemsOrdered c)
    (hlast : idx + 1 = c.bounds.length) (hother : ∀ k b, c.bounds[k]? = some b → b.2 = none → k = idx)
    (hf : c.finishItemLine = .ok (d, stop)) :
    ItemsOrdered (d.setItemStop idx stop) ∧ ItemsEnded (d.setItemStop idx stop) := by
  have hd : d.bounds = c.bounds ∧ c.cursor ≤ d.cursor ∧ stop < d.cursor := by
    have hpos := h.cursor_pos
    rcases finishItemLine_eq_ok.mp hf with ⟨-, rfl, rfl⟩ | ⟨-, -, rfl, rfl⟩
    · exact ⟨rfl, le_rfl, by omega⟩
    · simp [units16_newline]
  obtain ⟨hb, hc, hstop⟩ := hd
  obtain ⟨l₀, x, hl, hlen, hm⟩ := exists_modify_last hlast fun b => (b.1, some stop)
  have hbounds : (d.setItemStop idx stop).bounds = l₀ ++ [(x.1, some stop)] := by
    rw [bounds_setItemStop, hb, hm]
  have hap := h.apart
  rw [hl, List.pairwise_append] at hap
  refine ⟨⟨Nat.lt_of_lt_of_le h.cursor_pos hc, ?_, ?_⟩, ?_⟩
  · intro b hm' e he
    rw [hbounds, List.mem_append, List.mem_singleton] at hm'
    rcases hm' with hm' | rfl
    · have hlt := h.stop_lt b (by rw [hl]; exact List.mem_append_left _ hm') e he
      exact Nat.lt_of_lt_of_le hlt hc
    · cases he
      exact hstop
  · rw [hbounds, List.pairwise_append]
    refine ⟨hap.1, List.pairwise_singleton _ _, fun a ha b hb' => ?_⟩
    rw [List.mem_singleton] at hb'
    subst hb'
    exact hap.2.2 a ha x List.mem_cons_self
  · intro b hm'
    rw [hbounds, List.mem_append, List.mem_singleton] at hm'
    rcases hm' with hm' | rfl
    · obtain ⟨k, hk⟩ := List.mem_iff_getElem?.mp hm'
      cases hn : b.2 with
      | some _ => rfl
      | none =>
        have hkc : c.bounds[k]? = some b := by
          rw [hl, List.getElem?_append_left (List.getElem?_eq_some_iff.mp hk).1]
          exact hk
        have hk' := hother k b hkc hn
        have := (List.getElem?_eq_some_iff.mp hk).1
        omega
    · rfl

/-- Opening a list ends the line of the innermost open item when it still waits for its end;
after it every item has ended. -/
theorem ItemsApart.endItemLine (hI : ItemsApart s c) (h : c.endItemLine = .ok d) :
    ItemsOrdered d ∧ ItemsEnded d ∧ c.cursor ≤ d.cursor := by
  by_cases hopen : ∃ idx rest item, c.openItems = idx :: rest ∧ c.items[idx]? = some item ∧
      item.stop = none
  · obtain ⟨idx, rest, item, ho, hi, hs⟩ := hopen
    rw [endItemLine_of_open ho hi hs] at h
    obtain ⟨⟨d', stop⟩, hf, h'⟩ := bind_eq_ok.mp h
    obtain rfl := pure_eq_ok.mp h'
    obtain ⟨hlast, hother⟩ := hI.pending.of_open hi hs
    exact ⟨(hI.ordered.finish_last hlast hother hf).1, (hI.ordered.finish_last hlast hother hf).2,
      (finishItemLine_grows hf).cursor_le⟩
  · have hended : ∀ idx item, c.openItems.head? = some idx → c.items[idx]? = some item →
        item.stop.isSome := by
      intro idx item hhead hi
      rw [Option.isSome_iff_ne_none]
      intro hs
      obtain ⟨rest, ho⟩ : ∃ rest, c.openItems = idx :: rest := by
        cases hc : c.openItems with
        | nil => simp [hc] at hhead
        | cons k rest => simp only [hc, List.head?_cons, Option.some.injEq] at hhead; exact ⟨rest, by rw [hhead]⟩
      exact hopen ⟨idx, rest, item, ho, hi, hs⟩
    rw [endItemLine_of_ended hended] at h
    cases h
    refine ⟨hI.ordered, hI.pending.ended_of_head fun k b hk hb => ?_, le_rfl⟩
    rw [getElem?_bounds] at hb
    obtain ⟨item, hi, rfl⟩ := Option.map_eq_some_iff.mp hb
    exact hended k item hk hi

/-! ## One token -/

/-- A token that opens or closes no list or item leaves every item where it was. -/
theorem step_bounds_eq {t : Token} (h : c.step t = .ok d) (ht : t.isListToken = false) :
    d.bounds = c.bounds ∧ d.openItems = c.openItems := by
  by_cases hx : ∃ str, t = .text str
  · obtain ⟨str, rfl⟩ := hx
    rw [step, addText_eq] at h
    have hp : (c.takeTaskPrefix str).1.openItems = c.openItems := by rw [takeTaskPrefix_fst]
    rcases insertStyled_eq_ok.mp h with ⟨-, rfl⟩ | ⟨-, -, rfl⟩
    · exact ⟨bounds_takeTaskPrefix str, hp⟩
    · exact ⟨by simpa [bounds] using bounds_takeTaskPrefix (c := c) str, by simpa using hp⟩
  · obtain ⟨-, hi, ho⟩ := step_items_eq h ht fun str hs => hx ⟨str, hs⟩
    exact ⟨by simp [bounds, hi], ho⟩

/-- Opening an item, directly inside a list: every earlier item has ended, before the cursor
where the new one starts. -/
theorem ItemsApart.openItem (hI : ItemsApart s c) (hs : itemOnTop s = false)
    (h : c.openItem = .ok d) : ItemsApart (.item :: s) d := by
  obtain ⟨frame, rest, -, e, he, e', sp, he', rfl⟩ := openItem_eq_ok.mp h
  have hended := hI.pending.ended_of_itemOnTop hs
  obtain ⟨hbe, -⟩ := ensureLineStart_bounds he
  have hge := (ensureLineStart_grows he).cursor_le
  have hbe' : e'.bounds = e.bounds := by
    rcases insert_cases he' with rfl | rfl <;> simp
  have hge' := (insert_grows he').cursor_le
  have ho : ItemsOrdered e := hI.ordered.mono hbe hge
  have hbounds : ({ e' with
      items := e'.items.push { start := e.cursor, level := frame.level, preset := frame.kind.preset }
      openItems := e'.items.size :: e'.openItems } : Compiler).bounds =
      e.bounds ++ [(e.cursor, none)] := by
    rw [← hbe']
    simp [bounds]
  refine ⟨⟨Nat.lt_of_lt_of_le ho.cursor_pos hge', ?_, ?_⟩, ?_⟩
  · intro b hb x hx
    rw [hbounds, List.mem_append, List.mem_singleton] at hb
    rcases hb with hb | rfl
    · exact Nat.lt_of_lt_of_le (ho.stop_lt b hb x hx) hge'
    · cases hx
  · rw [hbounds, List.pairwise_append]
    refine ⟨ho.apart, List.pairwise_singleton _ _, fun a ha b hb x hx => ?_⟩
    rw [List.mem_singleton] at hb
    subst hb
    exact ho.stop_lt a ha x hx
  · intro k b hk hn
    rw [hbounds] at hk ⊢
    have hlen : e'.items.size = e.items.size := by rw [← length_bounds, hbe', length_bounds]
    by_cases hkl : k < e.bounds.length
    · rw [List.getElem?_append_left hkl] at hk
      have hb := hended b (hbe ▸ List.mem_of_getElem? hk)
      simp [hn] at hb
    · have hk' : k = e.bounds.length := by
        have hlt := (List.getElem?_eq_some_iff.mp hk).1
        rw [List.length_append, List.length_singleton] at hlt
        omega
      subst hk'
      simp [hlen]

/-- Closing the innermost item ends its line when no nested list did; after it every item has
ended. -/
theorem ItemsApart.closeItem (hI : ItemsApart s c) (h : c.closeItem = .ok d) :
    ItemsOrdered d ∧ ItemsEnded d := by
  have hpop : ∀ rest, ItemsOrdered { c with openItems := rest } :=
    fun _ => hI.ordered.mono rfl le_rfl
  rcases ho : c.openItems with _ | ⟨idx, rest⟩
  · rw [closeItem_of_nil ho] at h
    cases h
    exact ⟨hI.ordered, hI.pending.ended_of_head fun k b hk => by simp [ho] at hk⟩
  rcases hi : c.items[idx]? with _ | item
  · rw [closeItem_of_missing ho hi] at h
    cases h
    refine ⟨hpop rest, hI.pending.ended_of_head fun k b hk hb => ?_⟩
    simp only [ho, List.head?_cons, Option.some.injEq] at hk
    subst hk
    simp [getElem?_bounds, hi] at hb
  cases hs : item.stop with
  | none =>
    rw [closeItem_of_open ho hi hs] at h
    obtain ⟨⟨d', stop⟩, hf, h'⟩ := bind_eq_ok.mp h
    obtain rfl := pure_eq_ok.mp h'
    obtain ⟨hlast, hother⟩ := hI.pending.of_open hi hs
    exact (hpop rest).finish_last hlast hother hf
  | some x =>
    rw [closeItem_of_ended ho hi (by simp [hs])] at h
    have hended : ItemsEnded c := hI.pending.ended_of_head fun k b hk hb => by
      simp only [ho, List.head?_cons, Option.some.injEq] at hk
      subst hk
      simp only [getElem?_bounds, hi, Option.map_some, Option.some.injEq] at hb
      simp [← hb, hs]
    obtain ⟨hb, -⟩ := ensureLineStart_bounds h
    exact ⟨(hpop rest).mono hb (ensureLineStart_grows h).cursor_le,
      fun b hm => hended b (by rw [hb] at hm; exact hm)⟩

/-- One token of a well-nested stream keeps the items apart. -/
theorem step_itemsApart {t : Token} (hI : ItemsApart s c) (hn : nest s t = some s')
    (h : c.step t = .ok d) : ItemsApart s' d := by
  cases ht : t.isListToken
  · obtain ⟨hb, ho⟩ := step_bounds_eq h ht
    exact ⟨hI.ordered.mono hb (step_grows h).cursor_le, hI.pending.congr hb ho (itemOnTop_nest hn ht)⟩
  cases t <;> simp only [Token.isListToken, reduceCtorEq] at ht
  case bulletListOpen | orderedListOpen =>
    obtain ⟨e, h₁, e', h₂, rfl⟩ := openList_eq_ok.mp h
    obtain ⟨ho, hend, -⟩ := hI.endItemLine h₁
    obtain ⟨hb, -⟩ := ensureLineStart_bounds h₂
    exact .of_ended (ho.mono hb (ensureLineStart_grows h₂).cursor_le)
      fun b hm => hend b (by rw [← hb]; exact hm)
  case bulletListClose | orderedListClose =>
    simp only [step, Except.ok.injEq] at h
    subst h
    have hs := nest_listClose (by simp) hn
    exact .of_ended (hI.ordered.mono rfl le_rfl) (hI.pending.ended_of_itemOnTop hs)
  case itemOpen =>
    obtain ⟨rfl, hs⟩ := nest_itemOpen hn
    exact hI.openItem hs h
  case itemClose =>
    obtain ⟨ho, hend⟩ := hI.closeItem h
    exact .of_ended ho hend

theorem run_itemsApart {ts : List Token} (hI : ItemsApart s c) (hs : ts.foldlM nest s = some s')
    (h : ts.foldlM step c = .ok d) : ItemsApart s' d :=
  run_lockstep nest ItemsApart (fun _ _ _ _ _ hI hn h => step_itemsApart hI hn h) hI hs h

theorem itemsApart_start {o : CompileOptions} (h : o.startIndex ≠ 0) : ItemsApart [] (start o) :=
  .of_ended ⟨Nat.pos_of_ne_zero h, by simp [bounds, start], by simp [bounds, start]⟩
    (by simp [ItemsEnded, bounds, start])

/-! ## The operations -/

/-- `finish` creates the bullet ranges of the items, and nothing else creates any. -/
theorem finish_bulletRanges (hi : c.inserts.toList.filterMap EditOperation.bulletRange? = []) :
    c.finish.filterMap EditOperation.bulletRange? = mergeBulletRanges c.items.toList := by
  simp [finish, List.filterMap_append, hi, List.filterMap_flatMap, List.filterMap_map,
    Function.comp_def, EditOperation.bulletRange?]
  intro r _
  constructor <;> split <;> simp

end Compiler

theorem filterMap_bulletRange?_placeTexts (i : Nat) (tab : Option String) (ss : List String) :
    (placeTexts i tab ss).filterMap EditOperation.bulletRange? = [] := by
  induction ss generalizing i with
  | nil => rfl
  | cons s ss ih => rw [placeTexts, List.filterMap_cons_none rfl, ih]

/-- The bullet ranges a run creates are those of its items. -/
theorem run_bulletRanges {ts : List Token} {o : CompileOptions} {c : Compiler}
    (hrun : ts.foldlM Compiler.step (Compiler.start o) = .ok c) :
    c.finish.filterMap EditOperation.bulletRange? = mergeBulletRanges c.items.toList := by
  obtain ⟨-, texts, -, hins, -⟩ := Compiler.run_grows hrun
  apply Compiler.finish_bulletRanges
  rw [hins]
  simp [Compiler.start, filterMap_bulletRange?_placeTexts]

/-- The bullet ranges of a compiled well-nested stream, in the order they are emitted: each
starts and ends before the start of every range emitted before it, and ends at least two
offsets before it when they share a preset, so the merge has left no two ranges it would
join. -/
theorem compile_bullet_ranges_apart {T : List Token} {o : CompileOptions} {ops : List EditOperation}
    (hT : WellNested T) (h : compile T o = .ok ops) :
    (ops.filterMap EditOperation.bulletRange?).Pairwise fun p n =>
      n.span.start < p.span.start ∧ n.span.stop < p.span.start ∧
        (n.preset = p.preset → n.span.stop + 1 < p.span.start) := by
  unfold compile at h
  split at h
  · cases h
  rename_i hstart
  split at h
  · cases h
    exact List.Pairwise.nil
  obtain ⟨c, hrun, rfl⟩ := map_eq_ok.mp h
  have hI := Compiler.run_itemsApart (Compiler.itemsApart_start (by simpa using hstart)) hT hrun
  rw [run_bulletRanges hrun]
  obtain ⟨hne, hpw⟩ := mergeBulletRanges_apart hI.ordered.items_apart
  refine hpw.imp_of_mem fun {p n} _ hn hb => ⟨?_, hb.1, hb.2⟩
  have hn' : n.NonEmpty := hne n hn
  exact Nat.lt_trans hn' hb.1

/-- A bullet list holding a numbered list inside its item: the two ranges have different
presets and stay apart. -/
theorem compile_bullet_ranges_apart_nested :
    WellNested [.bulletListOpen, .itemOpen, .text "a", .orderedListOpen, .itemOpen, .text "b",
      .itemClose, .orderedListClose, .itemClose, .bulletListClose] ∧
    ∃ ops, compile [.bulletListOpen, .itemOpen, .text "a", .orderedListOpen, .itemOpen, .text "b",
        .itemClose, .orderedListClose, .itemClose, .bulletListClose] {} = .ok ops ∧
      (ops.filterMap EditOperation.bulletRange?).Pairwise fun p n =>
        n.span.start < p.span.start ∧ n.span.stop < p.span.start ∧
          (n.preset = p.preset → n.span.stop + 1 < p.span.start) := by
  obtain ⟨ops, hops⟩ := exists_eq_ok_of_isOk (by decide +kernel : (compile [.bulletListOpen,
    .itemOpen, .text "a", .orderedListOpen, .itemOpen, .text "b", .itemClose, .orderedListClose,
    .itemClose, .bulletListClose] {}).isOk = true)
  exact ⟨by decide, ops, hops, compile_bullet_ranges_apart (by decide) hops⟩

end DocBridge
