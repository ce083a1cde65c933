import DocBridge.Proofs.Compile.Insertions

/-!
# Moving a compilation along the document

The compiler compares offsets only with one another, with one exception: an insertion may not
take the cursor past its limit. So a compilation from one start index is a compilation from
another one moved along the document, and a compilation on 64-bit offsets is the same algorithm
on unbounded ones, for as long as no insertion reaches the limit.

`Compiler.relocate k L c` moves every offset that the state `c` holds `k` further on and gives
its cursor the limit `L`. `Moves` compares the outcome of an operation on the moved state with
its outcome on `c`: it is that outcome moved, or an offset overflow where the moved outcome would
end past `L`. Every operation of the compiler moves so, and therefore every run
(`run_relocate`), provided `L` is no looser than the limit of `c` moved by `k` (`Tighter`) and
the cursor is past offset 0: an item whose line has already ended ends one offset before the
cursor. `finish_relocate` moves the finished operations the same way.

Every operation keeps the limit of its state, and leaves the cursor where it was or within that
limit (`Stays`); a run that starts within its limit never passes it (`run_within`).
-/

namespace DocBridge

/-! ## Moving offsets -/

/-- The span `k` offsets further on. -/
def Span.shift (k : Nat) (s : Span) : Span := ⟨s.start + k, s.stop + k⟩

@[simp] theorem Span.isEmpty_shift (k : Nat) (s : Span) : (s.shift k).isEmpty = s.isEmpty := by
  simp only [shift, isEmpty, len]
  congr 1
  omega

/-- The operation `k` offsets further on: its location, or its range. -/
def EditOperation.shift (k : Nat) : EditOperation → EditOperation
  | .insertText i s t => .insertText (i + k) s t
  | .updateTextStyle r s => .updateTextStyle ⟨r.span.shift k, r.tabId⟩ s
  | .updateParagraphStyle r s => .updateParagraphStyle ⟨r.span.shift k, r.tabId⟩ s
  | .createBulletRange r p => .createBulletRange ⟨r.span.shift k, r.tabId⟩ p
  | .deleteContentRange r => .deleteContentRange ⟨r.span.shift k, r.tabId⟩

/-- The list item `k` offsets further on. -/
def ListItem.shift (k : Nat) (i : ListItem) : ListItem :=
  { i with start := i.start + k, stop := i.stop.map (· + k) }

/-- The bullet range `k` offsets further on. -/
def BulletRange.shift (k : Nat) (b : BulletRange) : BulletRange :=
  { b with span := b.span.shift k }

theorem Within.mono {L : Option Nat} {m n : Nat} (h : Within L n) (hmn : m ≤ n) : Within L m :=
  fun l hl => hmn.trans (h l hl)

/-- Changing one element of an array commutes with a map that the change commutes with. -/
theorem Array.map_modify_of_comm {α β : Type} (f : α → β) (g : α → α) (u : β → β)
    (h : ∀ a, u (f a) = f (g a)) (xs : Array α) (i : Nat) :
    (xs.map f).modify i u = (xs.modify i g).map f := by
  apply Array.ext_getElem?
  intro j
  simp only [Array.getElem?_modify, Array.getElem?_map]
  split
  · cases xs[j]? <;> simp [h]
  · rfl

/-- The limit `L` is no looser than `L₀` moved `k` on: an offset within `L` lies `k` past one
within `L₀`. -/
def Tighter (k : Nat) (L L₀ : Option Nat) : Prop :=
  ∀ n, Within L (n + k) → Within L₀ n

namespace Compiler

/-- The state with every offset it holds `k` further on, and `L` as the limit of its cursor. -/
@[simps]
def relocate (k : Nat) (L : Option Nat) (c : Compiler) : Compiler :=
  { c with
    cursor := c.cursor + k
    limit := L
    inserts := c.inserts.map (EditOperation.shift k)
    items := c.items.map (ListItem.shift k)
    heading := c.heading.map fun h => { h with start := h.start + k }
    textRanges := c.textRanges.map fun r => { r with span := r.span.shift k }
    headingRanges := c.headingRanges.map fun p => (p.1.shift k, p.2)
    ruleRanges := c.ruleRanges.map (Span.shift k) }

variable {c : Compiler} {k : Nat} {L : Option Nat}

theorem put_relocate (s : String) : (c.relocate k L).put s = (c.put s).relocate k L := by
  simp [relocate, put, EditOperation.shift, Nat.add_right_comm]

end Compiler

/-! ## Outcomes that move -/

section Moves

variable {α β : Type} {L : Option Nat} {mα : α → α} {pα : α → Nat} {mβ : β → β} {pβ : β → Nat}

/-- The outcome `r` of an operation on a moved state, against its outcome `r₀` on the state
itself: `r₀` moved by `move`, or an offset overflow where the moved outcome of `r₀` would end
(`pos`) past the limit `L`. -/
def Moves (L : Option Nat) (move : α → α) (pos : α → Nat) (r r₀ : Except CompileError α) : Prop :=
  r = r₀.map move ∨ (r = .error .offsetOverflow ∧ ∀ a, r₀ = .ok a → ¬ Within L (pos (move a)))

theorem Moves.bind {x x₀ : Except CompileError α} {f f₀ : α → Except CompileError β}
    (hx : Moves L mα pα x x₀) (hf : ∀ a, x₀ = .ok a → Moves L mβ pβ (f (mα a)) (f₀ a))
    (hp : ∀ a b, x₀ = .ok a → f₀ a = .ok b → pα (mα a) ≤ pβ (mβ b)) :
    Moves L mβ pβ (x >>= f) (x₀ >>= f₀) := by
  rcases hx with rfl | ⟨rfl, hx⟩
  · cases x₀ with
    | error e => exact .inl rfl
    | ok a => exact hf a rfl
  · refine .inr ⟨rfl, fun b hb hw => ?_⟩
    obtain ⟨a, ha, hb⟩ := bind_eq_ok.mp hb
    exact hx a ha (hw.mono (hp a b ha hb))

theorem Moves.map {x x₀ : Except CompileError α} {g g₀ : α → β} (hx : Moves L mα pα x x₀)
    (hg : ∀ a, g (mα a) = mβ (g₀ a)) (hp : ∀ a, pβ (mβ (g₀ a)) = pα (mα a)) :
    Moves L mβ pβ (x.map g) (x₀.map g₀) := by
  rcases hx with rfl | ⟨rfl, hx⟩
  · left
    cases x₀ <;> simp [Except.map, hg]
  · refine .inr ⟨rfl, fun b hb => ?_⟩
    obtain ⟨a, ha, rfl⟩ := map_eq_ok.mp hb
    rw [hp]
    exact hx a ha

/-- An outcome that ends within the limit once moved is moved as it is. -/
theorem Moves.eq_ok {x x₀ : Except CompileError α} {a : α} (hx : Moves L mα pα x x₀)
    (h₀ : x₀ = .ok a) (hw : Within L (pα (mα a))) : x = .ok (mα a) := by
  rcases hx with rfl | ⟨-, hx⟩
  · rw [h₀]
    rfl
  · exact absurd hw (hx a h₀)

/-- An outcome that ends past the limit once moved is an overflow, when no outcome on the moved
state ends past the limit. -/
theorem Moves.eq_overflow {x x₀ : Except CompileError α} {a : α} (hx : Moves L mα pα x x₀)
    (h₀ : x₀ = .ok a) (hw : ¬ Within L (pα (mα a))) (hx' : ∀ b, x = .ok b → Within L (pα b)) :
    x = .error .offsetOverflow := by
  rcases hx with rfl | ⟨hx, -⟩
  · rw [h₀] at hx'
    exact absurd (hx' _ rfl) hw
  · exact hx

/-- An error is kept, or becomes an overflow. -/
theorem Moves.eq_error {x x₀ : Except CompileError α} {e : CompileError} (hx : Moves L mα pα x x₀)
    (h₀ : x₀ = .error e) : x = .error e ∨ x = .error .offsetOverflow := by
  rcases hx with rfl | ⟨hx, -⟩
  · rw [h₀]
    exact .inl rfl
  · exact .inr hx

end Moves

/-! ## The limit stays -/

namespace Compiler

/-- `d` keeps the limit of `c`, and its cursor is where the cursor of `c` was or within that
limit. -/
def Stays (c d : Compiler) : Prop :=
  d.limit = c.limit ∧ (d.cursor = c.cursor ∨ Within c.limit d.cursor)

variable {c d e : Compiler}

theorem Stays.refl (c : Compiler) : Stays c c := ⟨rfl, .inl rfl⟩

theorem Stays.trans (h₁ : Stays c d) (h₂ : Stays d e) : Stays c e := by
  obtain ⟨hl₁, hc₁⟩ := h₁
  obtain ⟨hl₂, hc₂⟩ := h₂
  refine ⟨hl₂.trans hl₁, ?_⟩
  rcases hc₂ with h | h
  · rcases hc₁ with h' | h'
    · exact .inl (h.trans h')
    · exact .inr (h ▸ h')
  · exact .inr (hl₁ ▸ h)

/-- Staying looks only at the limit and the cursor. -/
theorem Stays.congr {d' : Compiler} (h : Stays c d) (hl : d'.limit = d.limit)
    (hc : d'.cursor = d.cursor) : Stays c d' := by
  obtain ⟨h₁, h₂⟩ := h
  exact ⟨hl.trans h₁, hc ▸ h₂⟩

theorem Stays.within (h : Stays c d) (hc : Within c.limit c.cursor) : Within d.limit d.cursor := by
  obtain ⟨hl, h | h⟩ := h
  · rw [hl, h]
    exact hc
  · rw [hl]
    exact h

theorem insert_stays {s : String} {sp : Span} (h : c.insert s = .ok (d, sp)) : Stays c d := by
  rcases insert_eq_ok.mp h with ⟨-, h⟩ | ⟨-, hw, h⟩
  · obtain rfl := (Prod.mk.inj h).1
    exact Stays.refl _
  · obtain rfl := (Prod.mk.inj h).1
    exact ⟨rfl, .inr hw⟩

theorem ensureLineStart_stays (h : c.ensureLineStart = .ok d) : Stays c d := by
  rcases ensureLineStart_eq_ok.mp h with ⟨-, rfl⟩ | ⟨-, hw, rfl⟩
  · exact Stays.refl _
  · exact ⟨rfl, .inr hw⟩

theorem finishItemLine_stays {n : Nat} (h : c.finishItemLine = .ok (d, n)) : Stays c d := by
  rcases finishItemLine_eq_ok.mp h with ⟨-, rfl, -⟩ | ⟨-, hw, rfl, -⟩
  · exact Stays.refl _
  · exact ⟨rfl, .inr hw⟩

theorem endItemLine_stays (h : c.endItemLine = .ok d) : Stays c d := by
  rcases endItemLine_cases h with rfl | ⟨idx, e, n, h₁, rfl⟩
  · exact Stays.refl _
  · exact (finishItemLine_stays h₁).congr rfl rfl

theorem insertStyled_stays {s : String} {f : InlineFormat} (h : c.insertStyled s f = .ok d) :
    Stays c d := by
  rcases insertStyled_eq_ok.mp h with ⟨-, rfl⟩ | ⟨-, hw, rfl⟩
  · exact Stays.refl _
  · refine ⟨?_, .inr (by simpa using hw)⟩
    unfold putStyled
    split <;> rfl

theorem codeLineStep_stays {line : String} (h : c.codeLineStep line = .ok d) : Stays c d := by
  obtain ⟨hw, rfl⟩ := codeLineStep_eq_ok.mp h
  refine ⟨rfl, .inr ?_⟩
  simpa [Text.units16_append, units16_newline, Nat.add_assoc] using hw

theorem foldlM_codeLineStep_stays {lines : List String} (h : lines.foldlM codeLineStep c = .ok d) :
    Stays c d :=
  foldlM_invariant (Stays c) (fun _ _ _ hs hl => hs.trans (codeLineStep_stays hl)) (Stays.refl c) h

theorem addCode_stays {content : String} (h : c.addCode content = .ok d) : Stays c d := by
  simp only [addCode_eq, bind_eq_ok] at h
  obtain ⟨e₁, h₁, e₂, h₂, h₃⟩ := h
  obtain ⟨⟨e₃, sp⟩, he₃, rfl⟩ := map_eq_ok.mp h₃
  exact (ensureLineStart_stays h₁).trans
    ((foldlM_codeLineStep_stays h₂).trans (insert_stays he₃))

/-- Every step keeps the limit, and leaves the cursor where it was or within the limit. -/
theorem step_stays {t : Token} (h : c.step t = .ok d) : Stays c d := by
  cases t
  case headingOpen l =>
    obtain ⟨-, e, he, rfl⟩ := openHeading_eq_ok.mp h
    exact (ensureLineStart_stays he).congr rfl rfl
  case headingClose =>
    rcases closeHeading_eq_ok.mp h with ⟨-, rfl⟩ | ⟨hd, -, hw, rfl⟩
    · exact Stays.refl _
    · exact ⟨rfl, .inr hw⟩
  case paragraphClose => exact ensureLineStart_stays h
  case text s =>
    rw [step, addText_eq] at h
    have hfst := takeTaskPrefix_fst (c := c) s
    exact ((Stays.refl c).congr (by rw [hfst]) (by rw [hfst])).trans (insertStyled_stays h)
  case codeInline s => exact insertStyled_stays h
  case bulletListOpen | orderedListOpen =>
    obtain ⟨e, h₁, e', h₂, rfl⟩ := openList_eq_ok.mp h
    exact ((endItemLine_stays h₁).trans (ensureLineStart_stays h₂)).congr rfl rfl
  case itemOpen =>
    obtain ⟨frame, rest, -, e, he, e', sp, he', rfl⟩ := openItem_eq_ok.mp h
    exact ((ensureLineStart_stays he).trans (insert_stays he')).congr rfl rfl
  case itemClose =>
    have hpop : Stays c { c with openItems := c.openItems.tail } := Stays.refl _
    rcases closeItem_cases h with ⟨-, rfl⟩ | rfl | ⟨idx, e, n, h₁, rfl⟩ | h₁
    · exact Stays.refl _
    · exact hpop
    · exact (hpop.trans (finishItemLine_stays h₁)).congr rfl rfl
    · exact hpop.trans (ensureLineStart_stays h₁)
  case softBreak | hardBreak =>
    obtain ⟨⟨e, sp⟩, he, rfl⟩ := map_eq_ok.mp h
    exact insert_stays he
  case fence _ content | codeBlock content => exact addCode_stays h
  case rule =>
    obtain ⟨e, he, hw, rfl⟩ := rule_eq_ok.mp h
    exact (ensureLineStart_stays he).trans ⟨rfl, .inr hw⟩
  all_goals
    simp only [step, Except.ok.injEq] at h
    subst h
    exact Stays.refl _

theorem run_stays {ts : List Token} (h : ts.foldlM step c = .ok d) : Stays c d :=
  foldlM_invariant (Stays c) (fun _ _ _ hs hl => hs.trans (step_stays hl)) (Stays.refl c) h

/-- A run that starts within its limit never passes it. -/
theorem run_within {ts : List Token} (hc : Within c.limit c.cursor) (h : ts.foldlM step c = .ok d) :
    Within d.limit d.cursor :=
  (run_stays h).within hc

end Compiler

/-! ## One operation, moved -/

namespace Compiler

variable {c : Compiler} {k : Nat} {L : Option Nat}

/-- The outcome on the moved state against the outcome on the state, for an operation that
ends in a state. -/
abbrev Relocates (k : Nat) (L : Option Nat) : Except CompileError Compiler → Except CompileError Compiler → Prop :=
  Moves L (relocate k L) cursor

theorem insert_eq_overflow {s : String} (hs : s ≠ "") (hw : ¬ Within c.limit (c.cursor + Text.units16 s)) :
    c.insert s = .error .offsetOverflow := by
  have hempty : s.isEmpty = false := by simpa [String.isEmpty_iff] using hs
  have hany : c.limit.any (· < c.cursor + Text.units16 s) = true := by
    simpa [← any_lt_eq_false_iff] using hw
  simp [insert, hempty, hany]

theorem insert_relocate (hT : Tighter k L c.limit) (s : String) :
    Moves L (fun p : Compiler × Span => (p.1.relocate k L, p.2.shift k)) (·.1.cursor)
      ((c.relocate k L).insert s) (c.insert s) := by
  by_cases hs : s = ""
  · subst hs
    exact .inl rfl
  by_cases hw : Within L (c.cursor + Text.units16 s + k)
  · have h₀ : c.insert s = .ok (c.put s, ⟨c.cursor, c.cursor + Text.units16 s⟩) :=
      insert_eq_ok.mpr (.inr ⟨hs, hT _ hw, rfl⟩)
    have h : (c.relocate k L).insert s =
        .ok ((c.put s).relocate k L, ⟨c.cursor + k, c.cursor + k + Text.units16 s⟩) :=
      insert_eq_ok.mpr (.inr ⟨hs, by simpa [Nat.add_right_comm] using hw, by rw [put_relocate]; rfl⟩)
    left
    rw [h, h₀]
    simp [Except.map, Span.shift, Nat.add_right_comm]
  · refine .inr ⟨insert_eq_overflow hs (by simpa [Nat.add_right_comm] using hw), fun a ha => ?_⟩
    rcases insert_eq_ok.mp ha with ⟨h, -⟩ | ⟨-, -, rfl⟩
    · exact absurd h hs
    · simpa using hw

theorem ensureLineStart_relocate (hT : Tighter k L c.limit) :
    Relocates k L (c.relocate k L).ensureLineStart c.ensureLineStart := by
  unfold ensureLineStart
  cases h : c.atLineStart
  · simp only [relocate_atLineStart, h, Bool.false_eq_true, if_false]
    exact (insert_relocate hT "\n").map (fun _ => rfl) (fun _ => rfl)
  · simp only [relocate_atLineStart, h, if_true]
    exact .inl rfl

theorem finishItemLine_relocate (h1 : 1 ≤ c.cursor) (hT : Tighter k L c.limit) :
    Moves L (fun p : Compiler × Nat => (p.1.relocate k L, p.2 + k)) (·.1.cursor)
      (c.relocate k L).finishItemLine c.finishItemLine := by
  unfold finishItemLine
  cases h : c.atLineStart
  · simp only [relocate_atLineStart, h, Bool.false_eq_true, if_false]
    exact (insert_relocate hT "\n").map (fun _ => rfl) (fun _ => rfl)
  · simp only [relocate_atLineStart, h, if_true, relocate_cursor]
    left
    simp only [Except.map, Prod.mk.injEq, Except.ok.injEq, true_and]
    omega

theorem insertStyled_relocate (hT : Tighter k L c.limit) (s : String) (f : InlineFormat) :
    Relocates k L ((c.relocate k L).insertStyled s f) (c.insertStyled s f) := by
  unfold insertStyled
  refine (insert_relocate hT s).bind (fun ⟨d, sp⟩ _ => .inl ?_) (fun ⟨d, sp⟩ b _ hb => ?_)
  · dsimp only
    rw [Span.isEmpty_shift]
    split <;> simp [Except.map, pure, Except.pure, relocate]
  · dsimp only at hb
    split at hb <;> obtain rfl := pure_eq_ok.mp hb <;> simp

theorem takeTaskPrefix_relocate (s : String) :
    (c.relocate k L).takeTaskPrefix s =
      ((c.takeTaskPrefix s).1.relocate k L, (c.takeTaskPrefix s).2) := by
  unfold takeTaskPrefix
  by_cases hs : s.isEmpty
  · simp [hs]
  rcases ho : c.openItems with _ | ⟨idx, rest⟩
  · simp [hs, ho]
  cases hi : c.items[idx]? with
  | none => simp [hs, ho, hi]
  | some item =>
    cases ht : item.taskChecked
    · cases stripTaskPrefix s <;> simp [hs, ho, hi, ht, relocate, ListItem.shift]
    · simp [hs, ho, hi, ht, ListItem.shift]

theorem addText_relocate (hT : Tighter k L c.limit) (s : String) :
    Relocates k L ((c.relocate k L).addText s) (c.addText s) := by
  rw [addText_eq, addText_eq, takeTaskPrefix_relocate, relocate_marks]
  have hl : (c.takeTaskPrefix s).1.limit = c.limit := by rw [takeTaskPrefix_fst]
  exact insertStyled_relocate (hl ▸ hT) _ _

theorem openHeading_relocate (hT : Tighter k L c.limit) (l : Nat) :
    Relocates k L ((c.relocate k L).openHeading l) (c.openHeading l) := by
  unfold openHeading
  cases h : c.heading with
  | some hd => exact .inl (by simp [h]; rfl)
  | none =>
    simp only [relocate_heading, h, Option.map_none, Option.isSome_none, Bool.false_eq_true,
      if_false]
    refine (ensureLineStart_relocate hT).bind (fun e _ => .inl ?_) (fun e d _ hd => ?_)
    · simp [relocate, Except.map, pure, Except.pure]
    · obtain rfl := pure_eq_ok.mp hd
      simp

theorem recordHeading_relocate (h : OpenHeading) :
    (c.relocate k L).recordHeading { h with start := h.start + k } =
      (c.recordHeading h).relocate k L := by
  have he : (⟨h.start + k, c.cursor + k⟩ : Span).isEmpty = (⟨h.start, c.cursor⟩ : Span).isEmpty :=
    Span.isEmpty_shift k ⟨h.start, c.cursor⟩
  simp only [recordHeading, relocate, he]
  split <;> simp [Span.shift]

theorem closeHeading_relocate (hT : Tighter k L c.limit) :
    Relocates k L (c.relocate k L).closeHeading c.closeHeading := by
  cases hh : c.heading with
  | none => exact .inl (by simp [closeHeading, hh]; rfl)
  | some h =>
    have hh' : (c.relocate k L).heading = some { h with start := h.start + k } := by simp [hh]
    rw [closeHeading_of_some hh, closeHeading_of_some hh', recordHeading_relocate]
    exact (insert_relocate (by simpa using hT) "\n").map (fun _ => rfl) (fun _ => rfl)

theorem setItemStop_relocate (idx n : Nat) :
    (c.relocate k L).setItemStop idx (n + k) = (c.setItemStop idx n).relocate k L := by
  simp only [setItemStop, relocate]
  rw [Array.map_modify_of_comm (ListItem.shift k) (fun i => { i with stop := some n })
    (fun i => { i with stop := some (n + k) }) (fun _ => rfl)]

theorem endItemLine_relocate (h1 : 1 ≤ c.cursor) (hT : Tighter k L c.limit) :
    Relocates k L (c.relocate k L).endItemLine c.endItemLine := by
  unfold endItemLine
  rcases ho : c.openItems with _ | ⟨idx, rest⟩
  · exact .inl (by simp [ho]; rfl)
  cases hi : c.items[idx]? with
  | none => exact .inl (by simp [ho, hi]; rfl)
  | some item =>
    cases hs : item.stop with
    | some e => exact .inl (by simp [ho, hi, hs, ListItem.shift]; rfl)
    | none =>
      simp only [relocate_openItems, relocate_items, ho, Array.getElem?_map, hi, Option.map_some,
        ListItem.shift, hs, Option.map_none, Option.isNone_none, if_true]
      refine (finishItemLine_relocate h1 hT).bind (fun ⟨d, n⟩ _ => .inl ?_)
        (fun ⟨d, n⟩ b _ hb => ?_)
      · simp [Except.map, pure, Except.pure, setItemStop_relocate]
      · obtain rfl := pure_eq_ok.mp hb
        simp [setItemStop]

theorem openList_relocate (h1 : 1 ≤ c.cursor) (hT : Tighter k L c.limit) (kind : ListKind) :
    Relocates k L ((c.relocate k L).openList kind) (c.openList kind) := by
  rw [openList_eq, openList_eq]
  refine (endItemLine_relocate h1 hT).bind (fun e he => ?_) (fun e d _ hd => ?_)
  · refine (ensureLineStart_relocate ((endItemLine_stays he).1 ▸ hT)).bind
      (fun e' _ => .inl ?_) (fun e' d' _ hd' => ?_)
    · simp [relocate, Except.map, pure, Except.pure]
    · obtain rfl := pure_eq_ok.mp hd'
      simp
  · obtain ⟨e', h₁, h₂⟩ := bind_eq_ok.mp hd
    obtain rfl := pure_eq_ok.mp h₂
    simpa using (ensureLineStart_grows h₁).cursor_le

theorem openItem_relocate (hT : Tighter k L c.limit) :
    Relocates k L (c.relocate k L).openItem c.openItem := by
  unfold openItem
  rcases hl : c.lists with _ | ⟨frame, rest⟩
  · exact .inl (by simp [hl]; rfl)
  simp only [relocate_lists, hl]
  refine (ensureLineStart_relocate hT).bind (fun e he => ?_) (fun e d _ hd => ?_)
  · refine (insert_relocate ((ensureLineStart_stays he).1 ▸ hT) _).bind
      (fun ⟨e', sp⟩ _ => .inl ?_) (fun ⟨e', sp⟩ d' _ hd' => ?_)
    · simp [relocate, Except.map, pure, Except.pure, ListItem.shift]
    · obtain rfl := pure_eq_ok.mp hd'
      simp
  · obtain ⟨⟨e', sp⟩, h₁, h₂⟩ := bind_eq_ok.mp hd
    obtain rfl := pure_eq_ok.mp h₂
    simpa using (insert_grows h₁).cursor_le

theorem closeItem_relocate (h1 : 1 ≤ c.cursor) (hT : Tighter k L c.limit) :
    Relocates k L (c.relocate k L).closeItem c.closeItem := by
  have hr : ∀ rest, ({ c.relocate k L with openItems := rest } : Compiler) =
      ({ c with openItems := rest } : Compiler).relocate k L := fun _ => rfl
  rcases h : c.openItems with _ | ⟨idx, rest⟩
  · rw [closeItem_of_nil h, closeItem_of_nil (by simpa using h)]
    exact .inl rfl
  have h' : (c.relocate k L).openItems = idx :: rest := by simpa using h
  rcases hi : c.items[idx]? with _ | item
  · rw [closeItem_of_missing h hi, closeItem_of_missing h' (by simp [hi]), hr]
    exact .inl rfl
  have hi' : (c.relocate k L).items[idx]? = some (item.shift k) := by simp [hi]
  cases hs : item.stop with
  | none =>
    rw [closeItem_of_open h hi hs, closeItem_of_open h' hi' (by simp [ListItem.shift, hs]), hr]
    refine (finishItemLine_relocate (c := { c with openItems := rest }) h1 hT).bind
      (fun ⟨d, n⟩ _ => .inl ?_) (fun ⟨d, n⟩ b _ hb => ?_)
    · simp [Except.map, pure, Except.pure, setItemStop_relocate]
    · obtain rfl := pure_eq_ok.mp hb
      simp [setItemStop]
  | some e =>
    rw [closeItem_of_ended h hi (by simp [hs]), closeItem_of_ended h' hi' (by simp [ListItem.shift, hs]),
      hr]
    exact ensureLineStart_relocate hT

/-- A code line on the moved state is the code line moved, or an overflow: the line and its newline
are not empty, so the range of the line ends one before the cursor. -/
theorem codeLineStep_relocate (hT : Tighter k L c.limit) (line : String) :
    Relocates k L ((c.relocate k L).codeLineStep line) (c.codeLineStep line) := by
  unfold codeLineStep
  refine (insert_relocate hT _).bind (fun ⟨d, sp⟩ h => .inl ?_) (fun ⟨d, sp⟩ b _ hb => ?_)
  · have hstop : 1 ≤ sp.stop := by
      rcases insert_eq_ok.mp h with ⟨hs, -⟩ | ⟨hs, -, h'⟩
      · simp at hs
      · rw [(Prod.mk.inj h').2]
        have := units16_pos hs
        simp only
        omega
    have hsub : sp.stop + k - 1 = sp.stop - 1 + k := by omega
    simp [relocate, Except.map, pure, Except.pure, Span.shift, hsub]
  · obtain rfl := pure_eq_ok.mp hb
    simp

theorem foldlM_codeLineStep_grows {d : Compiler} {lines : List String}
    (h : lines.foldlM codeLineStep c = .ok d) : Grows c d :=
  foldlM_invariant (Grows c) (fun _ _ _ hg hs => hg.trans (codeLineStep_grows hs)) (Grows.refl c) h

theorem foldlM_codeLineStep_relocate (lines : List String) :
    ∀ {c : Compiler}, Tighter k L c.limit →
      Relocates k L (lines.foldlM codeLineStep (c.relocate k L)) (lines.foldlM codeLineStep c) := by
  induction lines with
  | nil => exact fun _ => .inl rfl
  | cons line lines ih =>
    intro c hT
    simp only [List.foldlM_cons]
    refine (codeLineStep_relocate hT line).bind (fun e he => ih ((codeLineStep_stays he).1 ▸ hT))
      (fun e d _ hd => ?_)
    simpa using (foldlM_codeLineStep_grows hd).cursor_le

theorem addCode_relocate (hT : Tighter k L c.limit) (content : String) :
    Relocates k L ((c.relocate k L).addCode content) (c.addCode content) := by
  rw [addCode_eq, addCode_eq]
  refine (ensureLineStart_relocate hT).bind (fun e he => ?_) (fun e d _ hd => ?_)
  · have hTe : Tighter k L e.limit := (ensureLineStart_stays he).1 ▸ hT
    refine (foldlM_codeLineStep_relocate _ hTe).bind (fun e' he' => ?_) (fun e' d' _ hd' => ?_)
    · have hTe' : Tighter k L e'.limit := (foldlM_codeLineStep_stays he').1 ▸ hTe
      exact (insert_relocate hTe' "\n").map (fun _ => rfl) (fun _ => rfl)
    · obtain ⟨⟨e'', sp⟩, h₁, rfl⟩ := map_eq_ok.mp hd'
      simpa using (insert_grows h₁).cursor_le
  · simp only [bind_eq_ok, map_eq_ok] at hd
    obtain ⟨e', h₁, ⟨e'', sp⟩, h₂, rfl⟩ := hd
    simpa using (foldlM_codeLineStep_grows h₁).cursor_le.trans (insert_grows h₂).cursor_le

/-! ## Runs, moved -/

theorem step_relocate (h1 : 1 ≤ c.cursor) (hT : Tighter k L c.limit) (t : Token) :
    Relocates k L ((c.relocate k L).step t) (c.step t) := by
  cases t
  case headingOpen l => exact openHeading_relocate hT l
  case headingClose => exact closeHeading_relocate hT
  case paragraphClose => exact ensureLineStart_relocate hT
  case text s => exact addText_relocate hT s
  case codeInline s => exact insertStyled_relocate hT s _
  case bulletListOpen => exact openList_relocate h1 hT .bullet
  case orderedListOpen => exact openList_relocate h1 hT .ordered
  case itemOpen => exact openItem_relocate hT
  case itemClose => exact closeItem_relocate h1 hT
  case softBreak | hardBreak => exact (insert_relocate hT _).map (fun _ => rfl) (fun _ => rfl)
  case fence _ content | codeBlock content => exact addCode_relocate hT content
  case rule =>
    simp only [step]
    refine (ensureLineStart_relocate hT).bind (fun e he => ?_) (fun e d _ hd => ?_)
    · refine (insert_relocate ((ensureLineStart_stays he).1 ▸ hT) "\n").bind
        (fun p _ => .inl ?_) (fun p d' _ hd' => ?_)
      · obtain ⟨e', sp⟩ := p
        simp [relocate, Except.map, pure, Except.pure]
      · obtain ⟨e', sp⟩ := p
        obtain rfl := pure_eq_ok.mp hd'
        simp
    · obtain ⟨⟨e', sp⟩, h₁, h₂⟩ := bind_eq_ok.mp hd
      obtain rfl := pure_eq_ok.mp h₂
      simpa using (insert_grows h₁).cursor_le
  all_goals exact .inl rfl

/-- A run on the moved state ends as the run on the state, moved, or overflows where the moved
cursor of that run would pass the limit. -/
theorem run_relocate : ∀ {ts : List Token} {c : Compiler}, 1 ≤ c.cursor → Tighter k L c.limit →
    Relocates k L (ts.foldlM step (c.relocate k L)) (ts.foldlM step c)
  | [], _, _, _ => .inl rfl
  | t :: ts, c, h1, hT => by
    simp only [List.foldlM_cons]
    refine (step_relocate h1 hT t).bind
      (fun d hd => run_relocate (h1.trans (step_grows hd).cursor_le) ((step_stays hd).1 ▸ hT))
      (fun d e _ he => ?_)
    simpa using (run_grows he).cursor_le

/-! ## Finished operations, moved -/

theorem ListItem.span?_shift (k : Nat) (i : ListItem) :
    (i.shift k).span? = i.span?.map (Span.shift k) := by
  unfold ListItem.span? ListItem.shift
  cases i.stop with
  | none => rfl
  | some e =>
    by_cases h : i.start < e
    · simp [h, Span.shift]
    · simp [h]

/-- Joining moved ranges gives the joined ranges moved: the join test compares two offsets. -/
theorem mergeStep_shift (k : Nat) (acc : List BulletRange) (r : BulletRange) :
    mergeStep (acc.map (BulletRange.shift k)) (r.shift k) =
      (mergeStep acc r).map (BulletRange.shift k) := by
  cases acc with
  | nil => rfl
  | cons last done =>
    have hle : (r.span.start + k ≤ last.span.stop + k + 1) = (r.span.start ≤ last.span.stop + 1) := by
      apply propext
      omega
    simp only [List.map_cons, mergeStep, BulletRange.shift, Span.shift, hle]
    split <;> simp [BulletRange.shift, Span.shift, Nat.add_max_add_right]

theorem foldl_mergeStep_shift (k : Nat) :
    ∀ (rs acc : List BulletRange), (rs.map (BulletRange.shift k)).foldl mergeStep
      (acc.map (BulletRange.shift k)) = (rs.foldl mergeStep acc).map (BulletRange.shift k)
  | [], _ => rfl
  | r :: rs, acc => by
    rw [List.map_cons, List.foldl_cons, mergeStep_shift, foldl_mergeStep_shift k rs]
    rfl

@[simp] theorem ListItem.preset_shift (k : Nat) (i : ListItem) : (i.shift k).preset = i.preset := rfl

/-- The bullet ranges of moved items are the bullet ranges moved. Both sorts compare starts, which
moving keeps in order. -/
theorem mergeBulletRanges_shift (k : Nat) (items : List ListItem) :
    mergeBulletRanges (items.map (ListItem.shift k)) =
      (mergeBulletRanges items).map (BulletRange.shift k) := by
  have hvalid : (items.map (ListItem.shift k)).filterMap
      (fun i => i.span?.map fun s => BulletRange.mk s i.preset) =
      (items.filterMap fun i => i.span?.map fun s => BulletRange.mk s i.preset).map
        (BulletRange.shift k) := by
    rw [List.filterMap_map, List.map_filterMap]
    congr 1
    funext i
    cases h : i.span? <;> simp [ListItem.span?_shift, h, BulletRange.shift]
  unfold mergeBulletRanges
  simp only
  rw [hvalid, ← List.map_mergeSort (r := fun a b => decide (a.span.start ≤ b.span.start))
      (fun a _ b _ => by simp [BulletRange.shift, Span.shift]),
    ← List.map_nil (f := BulletRange.shift k), foldl_mergeStep_shift, ← List.map_reverse,
    ← List.map_mergeSort (r := fun a b => decide (b.span.start ≤ a.span.start))
      (fun a _ b _ => by simp [BulletRange.shift, Span.shift]), List.map_nil]

/-- Finishing a moved state gives the operations of the state, each moved. The text styles need a
look at each range's decoration and link. -/
theorem finish_relocate : (c.relocate k L).finish = c.finish.map (EditOperation.shift k) := by
  simp only [finish, relocate_inserts, relocate_tabId, relocate_textRanges, relocate_headingRanges,
    relocate_ruleRanges, relocate_items, Array.toList_map, mergeBulletRanges_shift, List.map_append,
    List.map_flatMap, List.flatMap_map, List.map_map, Function.comp_def, EditOperation.shift,
    BulletRange.shift]
  congr 5
  funext r
  cases r.format.decoration <;> cases r.format.link <;> rfl

/-! ## First states, moved -/

/-- Moving by no offset only sets the limit. -/
theorem relocate_zero (c : Compiler) (L : Option Nat) : c.relocate 0 L = { c with limit := L } := by
  have hspan : Span.shift 0 = id := rfl
  have hop : EditOperation.shift 0 = id := by
    funext op
    cases op <;> rfl
  have hitem : ListItem.shift 0 = id := by
    funext i
    simp [ListItem.shift]
  simp [relocate, hspan, hop, hitem, Span.shift]

/-- The first state of a compilation from a later start index is the first state moved. -/
theorem start_relocate (o : CompileOptions) (k : Nat) :
    (start o).relocate k (some maxOffset) = start { o with startIndex := o.startIndex + k } := by
  simp [start, relocate]

end Compiler

end DocBridge
