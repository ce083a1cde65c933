import DocBridge.Compile
import Mathlib

/-!
# What one step of the compiler does

The compiler's operations are written in the `Except` monad, and most of them are a few
insertions at the cursor around an update of the other fields. This file takes each of
them apart once, so that the invariants of later files never unfold an operation again.

`Compiler.put` is an insertion with no check of the offsets: `insert_eq_ok` says an
insertion either inserts nothing (empty text) or is `put` on an offset within the cursor's
limit (`Within`). `ensureLineStart_eq_ok` and `finishItemLine_eq_ok` follow from it, and every other
operation is stated in terms of these three: what it reads, which of them it calls, and
how it changes the fields they do not touch.
-/

namespace DocBridge

/-! ## Results of `Except` -/

section Except

variable {ε α β : Type}

@[simp] theorem bind_eq_ok {x : Except ε α} {f : α → Except ε β} {b : β} :
    x >>= f = .ok b ↔ ∃ a, x = .ok a ∧ f a = .ok b := by
  cases x <;> simp [bind, Except.bind]

@[simp] theorem map_eq_ok {x : Except ε α} {f : α → β} {b : β} :
    Except.map f x = .ok b ↔ ∃ a, x = .ok a ∧ f a = b := by
  cases x <;> simp [Except.map]

@[simp] theorem fmap_eq_ok {x : Except ε α} {f : α → β} {b : β} :
    f <$> x = .ok b ↔ ∃ a, x = .ok a ∧ f a = b := by
  cases x <;> simp [Functor.map, Except.map]

@[simp] theorem pure_eq_ok {a b : α} : (pure a : Except ε α) = .ok b ↔ a = b := by
  simp [pure, Except.pure]

@[simp] theorem throw_bind_ne_ok {e : ε} {f : α → Except ε β} {b : β} :
    (throw e >>= f) ≠ .ok b := by
  simp [throw, throwThe, MonadExceptOf.throw, bind, Except.bind]

@[simp] theorem ok_bind {a : α} {f : α → Except ε β} : (Except.ok a >>= f) = f a := rfl

theorem eq_ok_of_toOption {x : Except ε α} {a : α} (h : x.toOption = some a) : x = .ok a := by
  cases x <;> simp_all [Except.toOption]

theorem exists_eq_ok_of_isOk {x : Except ε α} (h : x.isOk = true) : ∃ a, x = .ok a := by
  cases x with
  | error e => simp [Except.isOk, Except.toBool] at h
  | ok a => exact ⟨a, rfl⟩

/-- What every step of a successful fold keeps, the fold keeps. -/
theorem foldlM_invariant {f : β → α → Except ε β} (P : β → Prop)
    (hf : ∀ b a b', P b → f b a = .ok b' → P b') :
    ∀ {l : List α} {b b' : β}, P b → l.foldlM f b = .ok b' → P b'
  | [], b, b', hb, h => by
    simp only [List.foldlM_nil, pure_eq_ok] at h
    exact h ▸ hb
  | a :: l, b, b', hb, h => by
    rw [List.foldlM_cons, bind_eq_ok] at h
    obtain ⟨b₁, h₁, h₂⟩ := h
    exact foldlM_invariant P hf (hf b a b₁ hb h₁) h₂

/-- A fold commutes with a map of its states that commutes with each of its steps. -/
theorem foldlM_hom {γ : Type} (φ : β → γ) {f : β → α → Except ε β} {g : γ → α → Except ε γ}
    (h : ∀ b a, g (φ b) a = φ <$> f b a) : ∀ (l : List α) (b : β), l.foldlM g (φ b) = φ <$> l.foldlM f b
  | [], _ => rfl
  | a :: l, b => by simp only [List.foldlM_cons, h, bind_map_left, foldlM_hom φ h l, map_bind]

end Except

/-- The tokens that open or close a list or an item. -/
def Token.isListToken : Token → Bool
  | .bulletListOpen | .orderedListOpen | .bulletListClose | .orderedListClose
  | .itemOpen | .itemClose => true
  | _ => false

namespace Compiler

variable {c d : Compiler}

/-! ## Insertions -/

/-- The state after `text` is inserted at the cursor, whatever the offsets. -/
@[simps]
def put (c : Compiler) (text : String) : Compiler :=
  { c with
    inserts := c.inserts.push (.insertText c.cursor text c.tabId)
    cursor := c.cursor + Text.units16 text
    atLineStart := text.endsWith "\n" }

theorem units16_newline : Text.units16 "\n" = 1 := rfl

end Compiler

/-- Offset `n` is within the limit `L`: there is none, or `n` is at most it. -/
def Within (L : Option Nat) (n : Nat) : Prop := ∀ l ∈ L, n ≤ l

@[simp] theorem within_none (n : Nat) : Within none n := by simp [Within]

@[simp] theorem within_some {l n : Nat} : Within (some l) n ↔ n ≤ l := by simp [Within]

theorem any_lt_eq_false_iff {L : Option Nat} {n : Nat} : L.any (· < n) = false ↔ Within L n := by
  cases L <;> simp

namespace Compiler

variable {c d : Compiler}

theorem insert_eq_ok {s : String} {r : Compiler × Span} :
    c.insert s = .ok r ↔ (s = "" ∧ r = (c, ⟨c.cursor, c.cursor⟩)) ∨
      (s ≠ "" ∧ Within c.limit (c.cursor + Text.units16 s) ∧
        r = (c.put s, ⟨c.cursor, c.cursor + Text.units16 s⟩)) := by
  unfold insert
  by_cases hs : s = ""
  · subst hs; simp; exact eq_comm
  · have hempty : s.isEmpty = false := by simpa [String.isEmpty_iff] using hs
    by_cases ho : Within c.limit (c.cursor + Text.units16 s)
    · simp [hempty, hs, ho, any_lt_eq_false_iff.mpr ho, put, eq_comm]
    · have hany : c.limit.any (· < c.cursor + Text.units16 s) = true := by
        simpa [← any_lt_eq_false_iff] using ho
      simp [hempty, hs, ho, hany]

theorem insert_newline_eq_ok {r : Compiler × Span} :
    c.insert "\n" = .ok r ↔ Within c.limit (c.cursor + 1) ∧
      r = (c.put "\n", ⟨c.cursor, c.cursor + 1⟩) := by
  simp [insert_eq_ok, units16_newline]

theorem insert_cases {s : String} {sp : Span} (h : c.insert s = .ok (d, sp)) :
    d = c ∨ d = c.put s := by
  rcases insert_eq_ok.mp h with ⟨-, h⟩ | ⟨-, -, h⟩
  · exact .inl (Prod.mk.inj h).1
  · exact .inr (Prod.mk.inj h).1

theorem ensureLineStart_eq_ok :
    c.ensureLineStart = .ok d ↔ (c.atLineStart = true ∧ d = c) ∨
      (c.atLineStart = false ∧ Within c.limit (c.cursor + 1) ∧ d = c.put "\n") := by
  unfold ensureLineStart
  cases h : c.atLineStart <;> simp [insert_newline_eq_ok, @eq_comm _ _ d]

theorem ensureLineStart_cases (h : c.ensureLineStart = .ok d) : d = c ∨ d = c.put "\n" := by
  rcases ensureLineStart_eq_ok.mp h with ⟨-, rfl⟩ | ⟨-, -, rfl⟩
  · exact .inl rfl
  · exact .inr rfl

theorem finishItemLine_eq_ok {e : Nat} :
    c.finishItemLine = .ok (d, e) ↔ (c.atLineStart = true ∧ d = c ∧ e = c.cursor - 1) ∨
      (c.atLineStart = false ∧ Within c.limit (c.cursor + 1) ∧ d = c.put "\n" ∧ e = c.cursor) := by
  unfold finishItemLine
  cases h : c.atLineStart <;>
    simp [insert_newline_eq_ok, and_assoc, @eq_comm _ _ d, @eq_comm _ _ e]

/-! ## Headings, lists and items -/

theorem openHeading_eq_ok {l : Nat} :
    c.openHeading l = .ok d ↔ c.heading = none ∧ ∃ e, c.ensureLineStart = .ok e ∧
      d = { e with heading := some ⟨e.cursor, min (max l 1) 6⟩ } := by
  unfold openHeading
  cases h : c.heading <;> simp [@eq_comm _ _ d]

/-- The state once the open heading `h` is recorded, before its closing newline: the first
top-level heading may take the title, and a heading with text gets its range. -/
@[simps]
def recordHeading (c : Compiler) (h : OpenHeading) : Compiler :=
  let title := h.level == 1 && c.titleForFirstH1 && !c.titleConsumed
  { c with
    heading := none
    titleConsumed := c.titleConsumed || title
    headingRanges :=
      if (⟨h.start, c.cursor⟩ : Span).isEmpty then c.headingRanges
      else c.headingRanges.push (⟨h.start, c.cursor⟩, if title then .title else .heading h.level) }

theorem closeHeading_of_some {h : OpenHeading} (hh : c.heading = some h) :
    c.closeHeading = ((c.recordHeading h).insert "\n").map (·.1) := by
  unfold closeHeading recordHeading
  rw [hh]
  dsimp only
  split <;> rfl

theorem closeHeading_eq_ok :
    c.closeHeading = .ok d ↔ (c.heading = none ∧ d = c) ∨
      ∃ h, c.heading = some h ∧ Within c.limit (c.cursor + 1) ∧ d = (c.recordHeading h).put "\n" := by
  cases hh : c.heading with
  | none => simp [closeHeading, hh, @eq_comm _ _ d]
  | some h => simp [closeHeading_of_some hh, insert_newline_eq_ok, @eq_comm _ _ d]

/-- The part of opening a list that ends the line of the innermost open item, when that
line has not ended yet. -/
def endItemLine (c : Compiler) : Except CompileError Compiler :=
  match c.openItems with
  | idx :: _ =>
    match c.items[idx]? with
    | some item =>
      if item.stop.isNone then do
        let (c, stop) ← c.finishItemLine
        pure (c.setItemStop idx stop)
      else pure c
    | none => pure c
  | [] => pure c

theorem openList_eq (k : ListKind) : c.openList k = (do
    let c ← c.endItemLine
    let c ← c.ensureLineStart
    pure { c with lists := ⟨k, c.lists.length⟩ :: c.lists }) := by
  unfold openList endItemLine
  rcases c.openItems with _ | ⟨idx, rest⟩
  · simp
  · rcases hi : c.items[idx]? with _ | item
    · simp [hi]
    · cases hs : item.stop <;> simp [hi, hs]

/-- Opening a list ends the line of the innermost open item, starts a line, and pushes a frame
numbered by the frames already open. -/
theorem openList_eq_ok {k : ListKind} : c.openList k = .ok d ↔ ∃ e, c.endItemLine = .ok e ∧
    ∃ e', e.ensureLineStart = .ok e' ∧ d = { e' with lists := ⟨k, e'.lists.length⟩ :: e'.lists } := by
  simp only [openList_eq, bind_eq_ok, pure_eq_ok, @eq_comm _ _ d]

theorem endItemLine_of_open {idx : Nat} {rest : List Nat} {item : ListItem}
    (h : c.openItems = idx :: rest) (hi : c.items[idx]? = some item) (hs : item.stop = none) :
    c.endItemLine = (do
      let (d, e) ← c.finishItemLine
      pure (d.setItemStop idx e)) := by
  simp [endItemLine, h, hi, hs]

theorem endItemLine_of_ended
    (h : ∀ idx item, c.openItems.head? = some idx → c.items[idx]? = some item → item.stop.isSome) :
    c.endItemLine = .ok c := by
  unfold endItemLine
  rcases ho : c.openItems with _ | ⟨idx, rest⟩
  · rfl
  · rcases hi : c.items[idx]? with _ | item
    · simp [hi, pure, Except.pure]
    · have hs : item.stop ≠ none := Option.isSome_iff_ne_none.mp (h idx item (by simp [ho]) hi)
      simp [hi, hs, pure, Except.pure]

/-- `n` tabs, the indentation of an item at nesting level `n`. -/
def tabs (n : Nat) : String := String.ofList (List.replicate n '\t')

theorem openItem_eq_ok : c.openItem = .ok d ↔ ∃ frame rest, c.lists = frame :: rest ∧
    ∃ e, c.ensureLineStart = .ok e ∧ ∃ e' sp, e.insert (tabs frame.level) = .ok (e', sp) ∧
      d = { e' with
        items := e'.items.push { start := e.cursor, level := frame.level, preset := frame.kind.preset }
        openItems := e'.items.size :: e'.openItems } := by
  unfold openItem
  rcases h : c.lists with _ | ⟨frame, rest⟩
  · simp
  · simp [tabs, @eq_comm _ _ d]

theorem closeItem_of_nil (h : c.openItems = []) : c.closeItem = .ok c := by
  simp [closeItem, h, pure, Except.pure]

theorem closeItem_of_open {idx : Nat} {rest : List Nat} {item : ListItem}
    (h : c.openItems = idx :: rest) (hi : c.items[idx]? = some item) (hs : item.stop = none) :
    c.closeItem = (do
      let (d, e) ← { c with openItems := rest }.finishItemLine
      pure (d.setItemStop idx e)) := by
  simp [closeItem, h, hi, hs]

theorem closeItem_of_ended {idx : Nat} {rest : List Nat} {item : ListItem}
    (h : c.openItems = idx :: rest) (hi : c.items[idx]? = some item) (hs : item.stop.isSome) :
    c.closeItem = { c with openItems := rest }.ensureLineStart := by
  simp [closeItem, h, hi, Option.isSome_iff_ne_none.mp hs]

theorem closeItem_of_missing {idx : Nat} {rest : List Nat}
    (h : c.openItems = idx :: rest) (hi : c.items[idx]? = none) :
    c.closeItem = .ok { c with openItems := rest } := by
  simp [closeItem, h, hi, pure, Except.pure]

/-- Ending the line of the innermost open item changes nothing, or ends the line and records
where. -/
theorem endItemLine_cases (h : c.endItemLine = .ok d) :
    d = c ∨ ∃ idx e n, c.finishItemLine = .ok (e, n) ∧ d = e.setItemStop idx n := by
  unfold endItemLine at h
  split at h
  · split at h
    · split at h
      · obtain ⟨⟨e, n⟩, h₁, h₂⟩ := bind_eq_ok.mp h
        exact .inr ⟨_, e, n, h₁, (pure_eq_ok.mp h₂).symm⟩
      · exact .inl (pure_eq_ok.mp h).symm
    · exact .inl (pure_eq_ok.mp h).symm
  · exact .inl (pure_eq_ok.mp h).symm

/-- Closing an item changes nothing when none is open; otherwise it drops the innermost open
item and then ends that item's line and records where, starts a new line, or neither. -/
theorem closeItem_cases (h : c.closeItem = .ok d) :
    (c.openItems = [] ∧ d = c) ∨ d = { c with openItems := c.openItems.tail } ∨
      (∃ idx e n, { c with openItems := c.openItems.tail }.finishItemLine = .ok (e, n) ∧
        d = e.setItemStop idx n) ∨
      { c with openItems := c.openItems.tail }.ensureLineStart = .ok d := by
  rcases ho : c.openItems with _ | ⟨idx, rest⟩
  · rw [closeItem_of_nil ho] at h
    exact .inl ⟨rfl, (Except.ok.inj h).symm⟩
  rcases hi : c.items[idx]? with _ | item
  · rw [closeItem_of_missing ho hi] at h
    exact .inr (.inl (Except.ok.inj h).symm)
  cases hs : item.stop with
  | none =>
    rw [closeItem_of_open ho hi hs] at h
    obtain ⟨⟨e, n⟩, h₁, h₂⟩ := bind_eq_ok.mp h
    exact .inr (.inr (.inl ⟨idx, e, n, h₁, (pure_eq_ok.mp h₂).symm⟩))
  | some x =>
    rw [closeItem_of_ended ho hi (by simp [hs])] at h
    exact .inr (.inr (.inr h))

/-! ## Text and code -/

/-- `text` put at the cursor, with its span recorded in format `f` unless `f` is plain. -/
def putStyled (c : Compiler) (text : String) (f : InlineFormat) : Compiler :=
  if f.isPlain then c.put text
  else { c.put text with textRanges := c.textRanges.push ⟨⟨c.cursor, c.cursor + Text.units16 text⟩, f⟩ }

@[simp] theorem putStyled_items {s : String} {f : InlineFormat} :
    (c.putStyled s f).items = c.items := by
  unfold putStyled
  split <;> rfl

@[simp] theorem putStyled_openItems {s : String} {f : InlineFormat} :
    (c.putStyled s f).openItems = c.openItems := by
  unfold putStyled
  split <;> rfl

@[simp] theorem putStyled_lists {s : String} {f : InlineFormat} :
    (c.putStyled s f).lists = c.lists := by
  unfold putStyled
  split <;> rfl

@[simp] theorem putStyled_marks {s : String} {f : InlineFormat} :
    (c.putStyled s f).marks = c.marks := by
  unfold putStyled
  split <;> rfl

@[simp] theorem putStyled_cursor {s : String} {f : InlineFormat} :
    (c.putStyled s f).cursor = c.cursor + Text.units16 s := by
  unfold putStyled
  split <;> rfl

@[simp] theorem putStyled_inserts {s : String} {f : InlineFormat} :
    (c.putStyled s f).inserts = (c.put s).inserts := by
  unfold putStyled
  split <;> rfl

@[simp] theorem putStyled_tabId {s : String} {f : InlineFormat} :
    (c.putStyled s f).tabId = c.tabId := by
  unfold putStyled
  split <;> rfl

theorem units16_pos {s : String} (h : s ≠ "") : 0 < Text.units16 s := by
  rcases Nat.eq_zero_or_pos (Text.units16 s) with h0 | h0
  · exact absurd ((Text.units16_eq_zero_iff s).mp h0) h
  · exact h0

theorem insertStyled_eq_ok {s : String} {f : InlineFormat} :
    c.insertStyled s f = .ok d ↔ (s = "" ∧ d = c) ∨
      (s ≠ "" ∧ Within c.limit (c.cursor + Text.units16 s) ∧ d = c.putStyled s f) := by
  unfold insertStyled
  by_cases hs : s = ""
  · subst hs
    simp [insert_eq_ok, Span.isEmpty, Span.len, @eq_comm _ _ d]
  · have hpos := units16_pos hs
    have hne : (⟨c.cursor, c.cursor + Text.units16 s⟩ : Span).isEmpty = false := by
      simp [Span.isEmpty, Span.len]; omega
    cases hp : f.isPlain <;> simp [insert_eq_ok, hs, hne, hp, putStyled, and_assoc, @eq_comm _ _ d]

theorem takeTaskPrefix_fst (s : String) :
    (c.takeTaskPrefix s).1 = { c with items := (c.takeTaskPrefix s).1.items } := by
  unfold takeTaskPrefix
  split
  · rfl
  · split
    · rfl
    · split
      · rfl
      · split
        · rfl
        · split <;> rfl

theorem addText_eq (s : String) :
    c.addText s = (c.takeTaskPrefix s).1.insertStyled (c.takeTaskPrefix s).2 c.marks.snapshot := by
  have hm : (c.takeTaskPrefix s).1.marks = c.marks := by rw [takeTaskPrefix_fst]
  rw [← hm]
  rfl

/-- The lines of a code block: a final newline ends the last line rather than starting
another. -/
def codeLines (content : String) : List String :=
  ((if content.endsWith "\n" then content.toList.dropLast else content.toList).splitOn '\n').map
    String.ofList

/-- One line of a code block, recorded in the code style without its newline. -/
def codeLineStep (c : Compiler) (line : String) : Except CompileError Compiler := do
  let (c, span) ← c.insert (codeLine line ++ "\n")
  pure { c with textRanges := c.textRanges.push ⟨⟨span.start, span.stop - 1⟩, .codeOnly⟩ }

theorem addCode_eq (content : String) : c.addCode content = (do
    let c ← c.ensureLineStart
    let c ← (codeLines content).foldlM codeLineStep c
    (c.insert "\n").map (·.1)) := rfl

/-- A line of a code block put at the cursor, with the span of the line in the code style. -/
def putCodeLine (c : Compiler) (line : String) : Compiler :=
  { c.put (codeLine line ++ "\n") with
    textRanges := c.textRanges.push
      ⟨⟨c.cursor, c.cursor + Text.units16 (codeLine line)⟩, .codeOnly⟩ }

section

variable {line : String}

@[simp] theorem putCodeLine_tabId : (c.putCodeLine line).tabId = c.tabId := by simp [putCodeLine]

@[simp] theorem putCodeLine_marks : (c.putCodeLine line).marks = c.marks := by simp [putCodeLine]

@[simp] theorem putCodeLine_inserts :
    (c.putCodeLine line).inserts = (c.put (codeLine line ++ "\n")).inserts := by
  simp [putCodeLine]

@[simp] theorem putCodeLine_cursor :
    (c.putCodeLine line).cursor = (c.put (codeLine line ++ "\n")).cursor := by
  simp [putCodeLine]

@[simp] theorem putCodeLine_textRanges :
    (c.putCodeLine line).textRanges =
      c.textRanges.push ⟨⟨c.cursor, c.cursor + Text.units16 (codeLine line)⟩, .codeOnly⟩ := by
  simp [putCodeLine]

end

theorem codeLineStep_eq_ok {line : String} :
    c.codeLineStep line = .ok d ↔
      Within c.limit (c.cursor + Text.units16 (codeLine line) + 1) ∧ d = c.putCodeLine line := by
  unfold codeLineStep
  simp [insert_eq_ok, Text.units16_append, units16_newline, putCodeLine,
    and_assoc, @eq_comm _ _ d, Nat.add_assoc]

theorem rule_eq_ok : c.step .rule = .ok d ↔ ∃ e, c.ensureLineStart = .ok e ∧
    Within e.limit (e.cursor + 1) ∧
    d = { e.put "\n" with ruleRanges := e.ruleRanges.push ⟨e.cursor, e.cursor + 1⟩ } := by
  simp [step, insert_newline_eq_ok, and_assoc, @eq_comm _ _ d]

/-! ## What a step leaves alone -/

/-- A token that opens or closes no list or item, and is no text, leaves the lists and the
items as they were. -/
theorem step_items_eq {t : Token} (h : c.step t = .ok d) (ht : t.isListToken = false)
    (hx : ∀ s, t ≠ .text s) : d.lists = c.lists ∧ d.items = c.items ∧ d.openItems = c.openItems := by
  cases t <;> simp only [Token.isListToken, reduceCtorEq] at ht
  case headingOpen l =>
    obtain ⟨-, e, he, rfl⟩ := openHeading_eq_ok.mp h
    rcases ensureLineStart_cases he with rfl | rfl <;> simp
  case headingClose =>
    rcases closeHeading_eq_ok.mp h with ⟨-, rfl⟩ | ⟨hd, -, -, rfl⟩
    · simp
    · simp
  case paragraphOpen | quoteOpen | quoteClose | tableOpen | tableClose | rowOpen | rowClose
      | cellOpen | cellClose | inline =>
    simp only [step, Except.ok.injEq] at h
    simp [h]
  case paragraphClose =>
    rcases ensureLineStart_cases h with rfl | rfl <;> simp
  case text s => exact absurd rfl (hx s)
  case codeInline s =>
    rcases insertStyled_eq_ok.mp h with ⟨-, rfl⟩ | ⟨-, -, rfl⟩ <;> simp
  case strongOpen | strongClose | emOpen | emClose | strikeOpen | strikeClose | linkOpen
      | linkClose =>
    simp only [step, Except.ok.injEq] at h
    simp [← h]
  case softBreak | hardBreak =>
    obtain ⟨⟨e, sp⟩, he, rfl⟩ := map_eq_ok.mp h
    rcases insert_cases he with rfl | rfl <;> simp
  case fence _ content | codeBlock content =>
    simp only [step, addCode_eq, bind_eq_ok] at h
    obtain ⟨e₁, h₁, e₂, h₂, h₃⟩ := h
    obtain ⟨⟨e₃, sp⟩, he₃, rfl⟩ := map_eq_ok.mp h₃
    have hlines : e₂.lists = e₁.lists ∧ e₂.items = e₁.items ∧ e₂.openItems = e₁.openItems :=
      foldlM_invariant (fun e => e.lists = e₁.lists ∧ e.items = e₁.items ∧ e.openItems = e₁.openItems)
        (fun e line e' he hs => by
          obtain ⟨-, rfl⟩ := codeLineStep_eq_ok.mp hs
          simpa [putCodeLine] using he) (by simp) h₂
    rcases ensureLineStart_cases h₁ with rfl | rfl <;> rcases insert_cases he₃ with rfl | rfl <;>
      simpa using hlines
  case rule =>
    obtain ⟨e, he, -, rfl⟩ := rule_eq_ok.mp h
    rcases ensureLineStart_cases he with rfl | rfl <;> simp

end Compiler

end DocBridge
