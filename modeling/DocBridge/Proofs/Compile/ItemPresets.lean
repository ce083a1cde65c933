import DocBridge.Proofs.Compile.Nesting

/-!
# The preset of each list item

An item of a bullet list gets the bullet preset, an item of a numbered list the numbered one,
and an item whose first text begins with a task prefix becomes a checkbox. `ItemWalk` reads
this off the stream on its own terms: it keeps the open containers with every item numbered
in the order items open, and notes for each item the kind of the list it opened in and the
first non-empty text that came while it was the innermost open item (`ItemNote.preset`).

`run_itemsAgree` shows that the compiler keeps the same facts: its open items are the
numbered items of the walk, its lists the lists of the walk, and every item it records has the
preset its note gives.
-/

namespace DocBridge

/-- An open container: a list of some kind, an item numbered in the order items open, or any
other container. -/
inductive Block where
  | list (kind : ListKind)
  | item (k : Nat)
  | other
  deriving DecidableEq, Repr

namespace Block

/-- The container of a list of each kind. -/
def listContainer : ListKind → Container
  | .bullet => .bulletList
  | .ordered => .orderedList

/-- The block stands for an open container of kind `c`. -/
def Fits : Block → Container → Prop
  | .list kind, c => c = listContainer kind
  | .item _, c => c = .item
  | .other, c => c ≠ .item ∧ c.isList = false

/-- The number of an item. -/
def item? : Block → Option Nat
  | .item k => some k
  | _ => none

/-- The kind of a list. -/
def list? : Block → Option ListKind
  | .list k => some k
  | _ => none

end Block

/-- What the stream says of one item: the kind of the list it opened in, and the first
non-empty text that came while it was the innermost open item. -/
structure ItemNote where
  kind : ListKind
  firstText : Option String := none
  deriving DecidableEq, Repr

/-- A checkbox when the first text begins with a task prefix, else the preset of the list. -/
def ItemNote.preset (n : ItemNote) : BulletPreset :=
  if (n.firstText.bind stripTaskPrefix).isSome then .checkbox else n.kind.preset

/-- The open containers, innermost first, and the notes of the items so far. -/
structure ItemWalk where
  blocks : List Block := []
  notes : Array ItemNote := #[]
  deriving Repr

namespace ItemWalk

/-- The innermost open item. -/
def innermostItem (w : ItemWalk) : Option Nat :=
  (w.blocks.filterMap Block.item?).head?

/-- The kind of the list directly around the next item. -/
def listKind (w : ItemWalk) : ListKind :=
  match w.blocks with
  | .list k :: _ => k
  | _ => .bullet

/-- A text noted as the first one of the innermost open item, unless it is empty or that
item already has one. -/
def noteText (w : ItemWalk) (s : String) : ItemWalk :=
  if s.isEmpty then w else
  match w.innermostItem with
  | none => w
  | some k =>
    match w.notes[k]? with
    | none => w
    | some n =>
      if n.firstText.isSome then w
      else { w with notes := w.notes.set! k { n with firstText := some s } }

/-- One token: open tokens push their container, an item with the next number; close tokens
pop the innermost one; texts are noted. -/
def step (w : ItemWalk) (t : Token) : ItemWalk :=
  match t.opens, t.closes with
  | some .item, _ =>
    { blocks := .item w.notes.size :: w.blocks, notes := w.notes.push { kind := w.listKind } }
  | some .bulletList, _ => { w with blocks := .list .bullet :: w.blocks }
  | some .orderedList, _ => { w with blocks := .list .ordered :: w.blocks }
  | some _, _ => { w with blocks := .other :: w.blocks }
  | none, some _ => { w with blocks := w.blocks.tail }
  | none, none =>
    match t with
    | .text s => w.noteText s
    | _ => w

end ItemWalk

/-- The notes of the items of a stream, in the order the items open. -/
def itemNotes (T : List Token) : Array ItemNote :=
  ((Token.flatten T).foldl ItemWalk.step {}).notes

namespace Block

variable {b : Block} {k : Container}

theorem eq_other_of_fits (hb : b.Fits k) (hki : k ≠ .item) (hkl : k.isList = false) :
    b = .other := by
  cases b with
  | list kind => cases kind <;> (subst hb; cases hkl)
  | item n => exact absurd hb hki
  | other => rfl

theorem eq_item_of_fits (hb : b.Fits .item) : ∃ n, b = .item n := by
  cases b with
  | list kind => cases kind <;> cases hb
  | item n => exact ⟨n, rfl⟩
  | other => exact absurd rfl hb.1

theorem eq_list_of_fits {kind : ListKind} (hb : b.Fits (listContainer kind)) : b = .list kind := by
  cases b with
  | list kind' => cases kind <;> cases kind' <;> first | rfl | cases hb
  | item n => cases kind <;> cases hb
  | other => cases kind <;> cases hb.2

end Block

namespace ItemWalk

variable {w : ItemWalk} {t : Token} {k : Container}

/-- The preset of every item and whether its first text was noted, in the order the items
opened. -/
def presets (w : ItemWalk) : List (BulletPreset × Bool) :=
  w.notes.toList.map fun n => (n.preset, n.firstText.isSome)

theorem step_text (str : String) : w.step (.text str) = w.noteText str := rfl

theorem step_of_opens (ho : t.opens = some k) (hki : k ≠ .item) (hkl : k.isList = false) :
    w.step t = { w with blocks := .other :: w.blocks } := by
  unfold step
  rw [ho]
  cases k <;> first | rfl | exact absurd rfl hki | cases hkl

theorem step_of_closes (ho : t.opens = none) (hc : t.closes = some k) :
    w.step t = { w with blocks := w.blocks.tail } := by
  unfold step
  rw [ho, hc]

theorem step_of_neither (ho : t.opens = none) (hc : t.closes = none) (hx : ∀ s, t ≠ .text s) :
    w.step t = w := by
  cases t <;> simp only [Token.opens, Token.closes, reduceCtorEq] at ho hc
  all_goals first
    | rfl
    | exact absurd rfl (hx _)

/-- A token that opens or closes no list or item, and is no text, changes neither the notes nor
the open items and lists. -/
theorem step_neutral {s s' : List Container} (hb : List.Forall₂ Block.Fits w.blocks s)
    (hn : nest s t = some s') (ht : t.isListToken = false) (hx : ∀ str, t ≠ .text str) :
    (w.step t).notes = w.notes ∧ List.Forall₂ Block.Fits (w.step t).blocks s' ∧
      (w.step t).blocks.filterMap Block.item? = w.blocks.filterMap Block.item? ∧
      (w.step t).blocks.filterMap Block.list? = w.blocks.filterMap Block.list? := by
  rcases ho : t.opens with _ | k
  · rcases hc : t.closes with _ | k
    · rw [step_of_neither ho hc hx]
      rw [nest_of_neither ho hc] at hn
      cases hn
      exact ⟨rfl, hb, rfl, rfl⟩
    · obtain ⟨hki, hkl⟩ := Token.closes_of_isListToken ht hc
      obtain rfl := (nest_of_closes ho hc).mp hn
      obtain ⟨b, rest, hbk, hrest, hw⟩ := List.forall₂_cons_right_iff.mp hb
      obtain rfl := Block.eq_other_of_fits hbk hki hkl
      rw [step_of_closes ho hc, hw]
      exact ⟨rfl, hrest, rfl, rfl⟩
  · obtain ⟨hki, hkl⟩ := Token.opens_of_isListToken ht ho
    rw [step_of_opens ho hki hkl]
    rw [nest_of_opens ho hki] at hn
    cases hn
    exact ⟨rfl, .cons ⟨hki, hkl⟩ hb, rfl, rfl⟩

end ItemWalk

namespace Compiler

variable {c d : Compiler} {s s' : List Container} {w : ItemWalk}

/-- The preset of every item and whether its first text was looked at, in the order the items
opened. -/
def presets (c : Compiler) : List (BulletPreset × Bool) :=
  c.items.toList.map fun i => (i.preset, i.taskChecked)

@[simp] theorem presets_put (t : String) : (c.put t).presets = c.presets := rfl

@[simp] theorem presets_setItemStop (idx stop : Nat) :
    (c.setItemStop idx stop).presets = c.presets := by
  apply List.ext_getElem?
  intro j
  simp only [presets, setItemStop, Array.toList_modify, List.getElem?_map, List.getElem?_modify]
  cases c.items.toList[j]? <;> by_cases h : idx = j <;> simp [h]

/-- The compiler's open items, lists and item presets agree with the walk, whose blocks stand
for the open containers `s`. -/
structure ItemsAgree (s : List Container) (c : Compiler) (w : ItemWalk) : Prop where
  blocks : List.Forall₂ Block.Fits w.blocks s
  openItems : c.openItems = w.blocks.filterMap Block.item?
  lists : c.lists.map ListFrame.kind = w.blocks.filterMap Block.list?
  presets : c.presets = w.presets

/-! ## Operations that keep the items -/

/-- What an operation keeps of the items, the open items and the lists. -/
def KeepsItems (c d : Compiler) : Prop :=
  d.presets = c.presets ∧ d.openItems = c.openItems ∧ d.lists = c.lists

theorem ItemsAgree.keep (hA : ItemsAgree s c w) (hk : KeepsItems c d) : ItemsAgree s d w :=
  ⟨hA.blocks, hk.2.1.trans hA.openItems, by rw [hk.2.2]; exact hA.lists, hk.1.trans hA.presets⟩

theorem KeepsItems.trans {e : Compiler} (h₁ : KeepsItems c d) (h₂ : KeepsItems d e) :
    KeepsItems c e :=
  ⟨h₂.1.trans h₁.1, h₂.2.1.trans h₁.2.1, h₂.2.2.trans h₁.2.2⟩

theorem keepsItems_of_insert {t : String} {sp : Span} (h : c.insert t = .ok (d, sp)) :
    KeepsItems c d := by
  rcases insert_cases h with rfl | rfl <;> exact ⟨rfl, rfl, rfl⟩

theorem keepsItems_of_ensureLineStart (h : c.ensureLineStart = .ok d) : KeepsItems c d := by
  rcases ensureLineStart_cases h with rfl | rfl <;> exact ⟨rfl, rfl, rfl⟩

theorem keepsItems_of_finishItemLine {stop idx : Nat} (h : c.finishItemLine = .ok (d, stop)) :
    KeepsItems c (d.setItemStop idx stop) := by
  rcases finishItemLine_eq_ok.mp h with ⟨-, rfl, -⟩ | ⟨-, -, rfl, -⟩ <;> exact ⟨by simp, rfl, rfl⟩

theorem keepsItems_of_endItemLine (h : c.endItemLine = .ok d) : KeepsItems c d := by
  rcases endItemLine_cases h with rfl | ⟨idx, e, n, h₁, rfl⟩
  · exact ⟨rfl, rfl, rfl⟩
  · exact keepsItems_of_finishItemLine h₁

/-- Closing an item pops it from the open items and keeps the presets and the lists. -/
theorem closeItem_keeps {idx : Nat} {rest : List Nat} (ho : c.openItems = idx :: rest)
    (h : c.closeItem = .ok d) : KeepsItems { c with openItems := rest } d := by
  have htail : c.openItems.tail = rest := by rw [ho]; rfl
  rcases closeItem_cases h with ⟨hnil, -⟩ | rfl | ⟨i, e, n, h₁, rfl⟩ | h₁
  · simp [ho] at hnil
  · exact ⟨rfl, htail, rfl⟩
  · rw [htail] at h₁
    exact keepsItems_of_finishItemLine h₁
  · rw [htail] at h₁
    exact keepsItems_of_ensureLineStart h₁

/-! ## Texts and task prefixes -/

theorem getElem?_presets (k : Nat) :
    c.presets[k]? = c.items[k]?.map fun i => (i.preset, i.taskChecked) := by
  simp [presets]

/-- A text looked at for a task prefix decides the preset of the innermost open item the way
the walk notes it: a checkbox when the item's first non-empty text begins with a prefix. -/
theorem presets_takeTaskPrefix (ho : c.openItems = w.blocks.filterMap Block.item?)
    (hp : c.presets = w.presets) (str : String) :
    (c.takeTaskPrefix str).1.presets = (w.noteText str).presets := by
  unfold takeTaskPrefix ItemWalk.noteText ItemWalk.innermostItem
  rw [← ho]
  by_cases hs : str.isEmpty
  · simp [hs, hp]
  simp only [hs, if_false, Bool.false_eq_true]
  rcases hc : c.openItems with _ | ⟨idx, rest⟩
  · exact hp
  simp only [List.head?_cons]
  have hidx : c.items[idx]?.map (fun i => (i.preset, i.taskChecked)) =
      w.notes[idx]?.map fun n => (n.preset, n.firstText.isSome) := by
    rw [← getElem?_presets, hp]
    simp [ItemWalk.presets]
  rcases hi : c.items[idx]? with _ | item <;> rcases hn : w.notes[idx]? with _ | n <;>
    simp only [hi, hn, Option.map_none, Option.map_some, reduceCtorEq, Option.some.injEq,
      Prod.mk.injEq] at hidx
  · exact hp
  obtain ⟨hpre, hchk⟩ := hidx
  by_cases hck : item.taskChecked
  · have hf : n.firstText.isSome = true := hchk ▸ hck
    simp [hck, hf, hp]
  have hf : n.firstText = none := by
    rw [← Option.not_isSome_iff_eq_none, ← hchk]
    exact hck
  have hkind : item.preset = n.kind.preset := by
    rw [hpre, ItemNote.preset, hf]
    rfl
  simp only [hck, hf, Bool.false_eq_true, if_false, Option.isSome_none]
  rw [ItemWalk.presets]
  have hp' : c.items.toList.map (fun i => (i.preset, i.taskChecked)) =
      w.notes.toList.map fun n => (n.preset, n.firstText.isSome) := hp
  cases hstrip : stripTaskPrefix str with
  | none =>
    simp only [presets, Array.set!_eq_setIfInBounds, Array.toList_setIfInBounds, List.map_set, hp']
    simp [ItemNote.preset, hstrip, hkind]
  | some rest' =>
    simp only [presets, Array.set!_eq_setIfInBounds, Array.toList_setIfInBounds, List.map_set, hp']
    simp [ItemNote.preset, hstrip]

/-! ## Lists and items -/

theorem ItemsAgree.openList {kind : ListKind} (hA : ItemsAgree s c w) (h : c.openList kind = .ok d) :
    ItemsAgree (Block.listContainer kind :: s) d { w with blocks := .list kind :: w.blocks } := by
  obtain ⟨e, h₁, e', h₂, rfl⟩ := openList_eq_ok.mp h
  have hA' := hA.keep ((keepsItems_of_endItemLine h₁).trans (keepsItems_of_ensureLineStart h₂))
  exact ⟨.cons rfl hA'.blocks, hA'.openItems, by simp [hA'.lists, Block.list?], hA'.presets⟩

theorem ItemsAgree.closeList {kind : ListKind} (hA : ItemsAgree (Block.listContainer kind :: s') c w) :
    ItemsAgree s' { c with lists := c.lists.drop 1 } { w with blocks := w.blocks.tail } := by
  obtain ⟨b, bs, hb, hbs, hw⟩ := List.forall₂_cons_right_iff.mp hA.blocks
  obtain rfl := Block.eq_list_of_fits hb
  have hl := hA.lists
  rw [hw] at hl ⊢
  refine ⟨hbs, ?_, ?_, hA.presets⟩
  · rw [hA.openItems, hw]
    rfl
  · rw [List.map_drop, hl]
    rfl

theorem ItemsAgree.openItem (hA : ItemsAgree s c w) (hs : ∃ k rest, s = k :: rest ∧ k.isList = true)
    (h : c.openItem = .ok d) : ItemsAgree (.item :: s) d (w.step .itemOpen) := by
  obtain ⟨k, rest, rfl, hk⟩ := hs
  obtain ⟨kind, rfl⟩ : ∃ kind, k = Block.listContainer kind := by
    cases k <;> first | exact ⟨.bullet, rfl⟩ | exact ⟨.ordered, rfl⟩ | cases hk
  obtain ⟨b, bs, hb, hbs, hw⟩ := List.forall₂_cons_right_iff.mp hA.blocks
  obtain rfl := Block.eq_list_of_fits hb
  obtain ⟨frame, lrest, hl, e, he, e', sp, he', rfl⟩ := openItem_eq_ok.mp h
  have hkind : frame.kind = kind := by
    have := hA.lists
    rw [hl, hw] at this
    exact (List.cons.inj this).1
  have hk := (keepsItems_of_ensureLineStart he).trans (keepsItems_of_insert he')
  have hp : e'.items.toList.map (fun i => (i.preset, i.taskChecked)) =
      w.notes.toList.map fun n => (n.preset, n.firstText.isSome) := hk.1.trans hA.presets
  have hsize : e'.items.size = w.notes.size := by
    simpa using congrArg List.length hp
  have hstep : w.step .itemOpen =
      { blocks := .item w.notes.size :: w.blocks, notes := w.notes.push { kind := kind } } := by
    simp [ItemWalk.step, Token.opens, Token.closes, ItemWalk.listKind, hw]
  rw [hstep]
  refine ⟨.cons rfl hA.blocks, ?_, ?_, ?_⟩
  · simp [hsize, hk.2.1, hA.openItems, Block.item?]
  · rw [hk.2.2, hA.lists]
    rfl
  · simp only [Compiler.presets, ItemWalk.presets, Array.toList_push, List.map_append, hp]
    simp [ItemNote.preset, hkind]

theorem ItemsAgree.closeItem (hA : ItemsAgree (.item :: s') c w) (h : c.closeItem = .ok d) :
    ItemsAgree s' d { w with blocks := w.blocks.tail } := by
  obtain ⟨b, bs, hb, hbs, hw⟩ := List.forall₂_cons_right_iff.mp hA.blocks
  obtain ⟨n, rfl⟩ := Block.eq_item_of_fits hb
  have ho : c.openItems = n :: bs.filterMap Block.item? := by
    rw [hA.openItems, hw]
    rfl
  have hpop : ItemsAgree s' { c with openItems := bs.filterMap Block.item? }
      { w with blocks := w.blocks.tail } := by
    have hl := hA.lists
    rw [hw] at hl ⊢
    exact ⟨hbs, rfl, hl, hA.presets⟩
  exact hpop.keep (closeItem_keeps ho h)

/-! ## One token, and the whole stream -/

theorem noteText_blocks (str : String) : (w.noteText str).blocks = w.blocks := by
  unfold ItemWalk.noteText
  split
  · rfl
  · split
    · rfl
    · split
      · rfl
      · split <;> rfl

/-- One token of a well-nested stream keeps the compiler in agreement with the walk. -/
theorem step_itemsAgree {t : Token} (hA : ItemsAgree s c w) (hn : nest s t = some s')
    (h : c.step t = .ok d) : ItemsAgree s' d (w.step t) := by
  by_cases hx : ∃ str, t = .text str
  · obtain ⟨str, rfl⟩ := hx
    rw [nest_of_neither rfl rfl] at hn
    cases hn
    rw [step, addText_eq] at h
    rw [ItemWalk.step_text]
    have hkeep : KeepsItems (c.takeTaskPrefix str).1 d := by
      rcases insertStyled_eq_ok.mp h with ⟨-, rfl⟩ | ⟨-, -, rfl⟩
      · exact ⟨rfl, rfl, rfl⟩
      · exact ⟨by simp [Compiler.presets], by simp, by simp⟩
    have hfst : (c.takeTaskPrefix str).1.openItems = c.openItems ∧
        (c.takeTaskPrefix str).1.lists = c.lists := by
      rw [takeTaskPrefix_fst]
      exact ⟨rfl, rfl⟩
    refine ⟨by rw [noteText_blocks]; exact hA.blocks, ?_, ?_, ?_⟩
    · rw [hkeep.2.1, hfst.1, hA.openItems]
      exact congrArg _ (noteText_blocks str).symm
    · rw [hkeep.2.2, hfst.2, hA.lists]
      exact congrArg _ (noteText_blocks str).symm
    · rw [hkeep.1]
      exact presets_takeTaskPrefix hA.openItems hA.presets str
  cases ht : t.isListToken
  · have hx' : ∀ str, t ≠ .text str := fun str hs => hx ⟨str, hs⟩
    obtain ⟨hl, hi, ho⟩ := step_items_eq h ht hx'
    obtain ⟨hnotes, hb, hitem, hlist⟩ := ItemWalk.step_neutral hA.blocks hn ht hx'
    refine ⟨hb, by rw [ho, hitem]; exact hA.openItems, by rw [hl, hlist]; exact hA.lists, ?_⟩
    have hp : d.presets = c.presets := by simp [Compiler.presets, hi]
    rw [hp, hA.presets]
    simp [ItemWalk.presets, hnotes]
  cases t <;> simp only [Token.isListToken, reduceCtorEq] at ht
  case bulletListOpen =>
    rw [nest_of_opens rfl (by decide)] at hn
    cases hn
    exact hA.openList h
  case orderedListOpen =>
    rw [nest_of_opens rfl (by decide)] at hn
    cases hn
    exact hA.openList h
  case bulletListClose =>
    rw [(nest_of_closes rfl rfl).mp hn] at hA
    simp only [step, Except.ok.injEq] at h
    subst h
    have hA' : ItemsAgree (Block.listContainer .bullet :: s') c w := hA
    exact hA'.closeList
  case orderedListClose =>
    rw [(nest_of_closes rfl rfl).mp hn] at hA
    simp only [step, Except.ok.injEq] at h
    subst h
    have hA' : ItemsAgree (Block.listContainer .ordered :: s') c w := hA
    exact hA'.closeList
  case itemOpen =>
    obtain ⟨rfl, hs⟩ := nest_itemOpen_head hn
    exact hA.openItem hs h
  case itemClose =>
    rw [nest_itemClose hn] at hA
    exact hA.closeItem h

/-- Every item the compiler records has the preset of its note. -/
theorem ItemsAgree.preset_eq (hA : ItemsAgree s c w) {k : Nat} {i : ListItem}
    (hi : c.items[k]? = some i) : ∃ n, w.notes[k]? = some n ∧ i.preset = n.preset := by
  have hk := congrArg (·[k]?) hA.presets
  simp only [getElem?_presets, hi, Option.map_some, ItemWalk.presets, List.getElem?_map,
    Array.getElem?_toList] at hk
  obtain ⟨n, hn, he⟩ := Option.map_eq_some_iff.mp hk.symm
  exact ⟨n, hn, (Prod.mk.inj he).1.symm⟩

end Compiler

/-- The walk of the open containers and of the items together: it fails where `nest` does. -/
def nestItems (p : List Container × ItemWalk) (t : Token) : Option (List Container × ItemWalk) :=
  (nest p.1 t).map fun s => (s, p.2.step t)

theorem foldlM_nestItems : ∀ {ts : List Token} {s : List Container} {w : ItemWalk},
    ts.foldlM nestItems (s, w) = (ts.foldlM nest s).map fun s' => (s', ts.foldl ItemWalk.step w)
  | [], _, _ => rfl
  | t :: ts, s, w => by
    rw [List.foldlM_cons, List.foldlM_cons, List.foldl_cons]
    cases h : nest s t with
    | none => simp [nestItems, h]
    | some s₁ => simp [nestItems, h, foldlM_nestItems]

/-- After a well-nested stream the compiler agrees with the walk of the whole stream: every
item it records has the preset of that item's note. -/
theorem run_itemsAgree {T : List Token} {o : CompileOptions} {c : Compiler} (hT : WellNested T)
    (hrun : (Token.flatten T).foldlM Compiler.step (Compiler.start o) = .ok c) :
    Compiler.ItemsAgree [] c ((Token.flatten T).foldl ItemWalk.step {}) := by
  have hw : (Token.flatten T).foldlM nestItems ([], {}) =
      some ([], (Token.flatten T).foldl ItemWalk.step {}) := by
    rw [foldlM_nestItems, hT]
    rfl
  refine run_lockstep nestItems (fun p c => Compiler.ItemsAgree p.1 c p.2) ?_ ⟨.nil, rfl, rfl, rfl⟩ hw hrun
  intro p c t p' c' hA hn h
  obtain ⟨s', hs', rfl⟩ := Option.map_eq_some_iff.mp hn
  exact Compiler.step_itemsAgree hA hs' h

end DocBridge
