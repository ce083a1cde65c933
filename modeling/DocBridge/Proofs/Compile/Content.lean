import DocBridge.Proofs.Compile.ItemPresets
import DocBridge.Proofs.Compile.Insertions
import DocBridge.Proofs.Text.Visible

/-!
# A compilation shows the content of its stream

The texts a compilation inserts hold the stream's content and white space the compiler adds of
its own: the newlines that end lines and blocks, a space for a soft break and for an empty code
line, the tabs that indent an item. It drops a carriage return before a code line's newline,
and a task item's first text loses its prefix `[ ]`, `[x]` or `[X]`. Leaving white space aside
(`Text.visible`), what is inserted is therefore what the stream holds.

`shownChars` reads this off the stream on its own terms. It walks the tokens with, for each
open item, innermost first, whether its first non-empty text has come (`Token.shows`), and
collects the visible characters of the texts, the inline code and the code blocks, taking the
task prefix off the first non-empty text of each item while that item is the innermost open one.

On the compiler's side `Compiler.shown` gathers the visible characters of the texts a state has
inserted, and `Compiler.firsts` reads the flags off its open items. Each step adds to `shown`
what `Token.shows` says the token shows, and moves `firsts` as the walk does (`step_shown`,
`step_firsts`), as long as the open items are distinct items that exist (`OpenItemsFresh`).

`compile_shows_content` is the result: for every token stream, the visible characters of the
inserted texts are those the stream shows, in order.
-/

namespace DocBridge

/-- The text an operation inserts; nothing, for any other operation. -/
def EditOperation.insertedText : EditOperation → String
  | .insertText _ s _ => s
  | _ => ""

theorem EditOperation.insertedText_of_not_insert {op : EditOperation} (h : op.isInsert = false) :
    op.insertedText = "" := by
  cases op <;> simp_all [EditOperation.isInsert, EditOperation.insertedText]

/-! ## The walk over the stream -/

/-- `stripTaskPrefix` takes off a match of `^\[[ xX]\]\s+`: a bracket holding a space, `x` or `X`,
then all the white space after it, at least one character of it. The white space taken is all there
is: what follows starts with something else. -/
theorem stripTaskPrefix_eq_some {s r : String} :
    stripTaskPrefix s = some r ↔ ∃ m ws, (m = ' ' ∨ m = 'x' ∨ m = 'X') ∧ ws ≠ [] ∧
      (∀ w ∈ ws, Text.isBlank w = true) ∧ s.toList = '[' :: m :: ']' :: (ws ++ r.toList) ∧
      ∀ ch ∈ r.toList.head?, Text.isBlank ch = false := by
  constructor
  · intro h
    unfold stripTaskPrefix at h
    split at h
    · rename_i m w rest hs
      split at h
      · rename_i hc
        obtain rfl := Option.some.inj h
        simp only [Bool.and_eq_true, Bool.or_eq_true, beq_iff_eq] at hc
        refine ⟨m, w :: rest.takeWhile Text.isBlank, or_assoc.mp hc.1, List.cons_ne_nil _ _,
          fun x hx => ?_, ?_, fun ch hch => ?_⟩
        · rcases List.mem_cons.mp hx with rfl | hx
          · exact hc.2
          · exact List.mem_takeWhile_imp hx
        · rw [hs, String.toList_ofList, Text.dropBlank, List.cons_append,
            List.takeWhile_append_dropWhile]
        · have hnot := List.head?_dropWhile_not Text.isBlank rest
          rw [String.toList_ofList, Text.dropBlank] at hch
          rw [Option.mem_def.mp hch] at hnot
          exact hnot
      · cases h
    · cases h
  · rintro ⟨m, ws, hm, hws, hblank, hs, hhead⟩
    obtain ⟨w, ws', rfl⟩ := List.exists_cons_of_ne_nil hws
    have hw : Text.isBlank w = true := hblank w List.mem_cons_self
    have hcond : ((m == ' ' || m == 'x' || m == 'X') && Text.isBlank w) = true := by
      rcases hm with rfl | rfl | rfl <;> simp [hw]
    have hkeep : List.dropWhile Text.isBlank r.toList = r.toList := by
      cases hr : r.toList with
      | nil => rfl
      | cons a l =>
        have ha : Text.isBlank a = false := hhead a (by simp [hr])
        simp [ha]
    unfold stripTaskPrefix
    rw [hs, List.cons_append]
    simp only
    rw [if_pos hcond, Text.dropBlank,
      List.dropWhile_append_of_pos fun a ha => hblank a (List.mem_cons_of_mem _ ha), hkeep,
      String.ofList_toList]

/-- What one token shows, given for each open item, innermost first, whether its first non-empty
text has come; and those flags after the token. A text that is the first non-empty one of the
innermost open item shows without its task prefix. -/
def Token.shows (firsts : List Bool) : Token → List Char × List Bool
  | .itemOpen => ([], false :: firsts)
  | .itemClose => ([], firsts.tail)
  | .text s =>
    match firsts with
    | false :: rest =>
      if s.isEmpty then ([], firsts) else (Text.visible ((stripTaskPrefix s).getD s), true :: rest)
    | _ => (Text.visible s, firsts)
  | .codeInline s => (Text.visible s, firsts)
  | .fence _ content => (Text.visible content, firsts)
  | .codeBlock content => (Text.visible content, firsts)
  | _ => ([], firsts)

/-- The visible characters a stream shows, token after token. -/
def shownChars : List Bool → List Token → List Char
  | _, [] => []
  | firsts, t :: ts => (t.shows firsts).1 ++ shownChars (t.shows firsts).2 ts

/-- Only the first text of an item loses its task prefix. -/
example : shownChars [] [.itemOpen, .text "[x] done", .text "[ ] kept"] = "done[]kept".toList := by
  decide

/-! ## What a token shows -/

theorem Token.shows_text_of_isEmpty {s : String} (hs : s.isEmpty = true) (firsts : List Bool) :
    (Token.text s).shows firsts = ([], firsts) := by
  obtain rfl := String.isEmpty_iff.mp hs
  rcases firsts with _ | ⟨_ | _, rest⟩ <;> simp [Token.shows]

theorem Token.shows_text_first {s : String} (hs : s.isEmpty = false) (rest : List Bool) :
    (Token.text s).shows (false :: rest) =
      (Text.visible ((stripTaskPrefix s).getD s), true :: rest) := by
  simp [Token.shows, hs]

theorem Token.shows_text_of_head {firsts : List Bool} (h : firsts.head? ≠ some false) (s : String) :
    (Token.text s).shows firsts = (Text.visible s, firsts) := by
  rcases firsts with _ | ⟨_ | _, rest⟩
  · rfl
  · simp at h
  · rfl

/-- Only items and texts move the flags. -/
theorem Token.shows_snd {t : Token} (ht : t.isListToken = false) (hx : ∀ s, t ≠ .text s)
    (firsts : List Bool) : (t.shows firsts).2 = firsts := by
  cases t <;> simp [Token.isListToken] at ht
  case text s => exact absurd rfl (hx s)
  all_goals rfl

@[simp] theorem Compiler.visible_tabs (n : Nat) : Text.visible (Compiler.tabs n) = [] :=
  Text.visible_eq_nil fun ch hch => by
    rw [Compiler.tabs, String.toList_ofList] at hch
    rw [List.eq_of_mem_replicate hch]
    decide

namespace Compiler

/-- A code line shows what its line shows: the carriage return it drops and the space it writes
for an empty line are white space. -/
theorem visible_codeLine (line : String) : Text.visible (codeLine line) = Text.visible line := by
  have hcut : Text.visible (if line.endsWith "\r" then String.ofList line.toList.dropLast else line) =
      Text.visible line := by
    split
    · rename_i h
      rw [Text.visible, String.toList_ofList]
      exact Text.visible_of_endsWith '\r' (by decide) h
    · rfl
  unfold codeLine
  generalize (if line.endsWith "\r" then String.ofList line.toList.dropLast else line) = cut at hcut
  dsimp only
  split
  · rename_i h
    rw [String.isEmpty_iff.mp h] at hcut
    rw [Text.visible_space, ← hcut, Text.visible_empty]
  · exact hcut

/-- Lines cut at newlines show what the text they were cut from shows. -/
theorem visible_splitOn (body : List Char) :
    ((body.splitOn '\n').map String.ofList).flatMap (fun l => Text.visible (codeLine l)) =
      body.filter (fun ch => !Text.isBlank ch) :=
  calc ((body.splitOn '\n').map String.ofList).flatMap (fun l => Text.visible (codeLine l))
      = (body.splitOn '\n').flatMap (·.filter fun ch => !Text.isBlank ch) := by
        simp only [List.flatMap_map, visible_codeLine]
        simp only [Text.visible, String.toList_ofList]
    _ = (['\n'].intercalate (body.splitOn '\n')).filter (fun ch => !Text.isBlank ch) :=
        (filter_intercalate (by decide) _).symm
    _ = body.filter (fun ch => !Text.isBlank ch) := by rw [List.intercalate_splitOn]

/-- The lines of a code block show what the block shows: they are its body cut at newlines, and
the body is the content less a final newline. -/
theorem visible_codeLines (content : String) :
    (codeLines content).flatMap (fun l => Text.visible (codeLine l)) = Text.visible content := by
  rw [codeLines, visible_splitOn]
  split
  · exact Text.visible_of_endsWith '\n' (by decide) (by assumption)
  · rfl

end Compiler

/-! ## What a state has inserted -/

namespace Compiler

variable {c d : Compiler}

/-- The visible characters of the texts the state has inserted, in order. -/
def shown (c : Compiler) : List Char :=
  c.inserts.toList.flatMap fun op => Text.visible op.insertedText

theorem shown_of_inserts (h : d.inserts = c.inserts) : d.shown = c.shown := by
  rw [shown, h, shown]

@[simp] theorem shown_put (s : String) : (c.put s).shown = c.shown ++ Text.visible s := by
  simp [shown, EditOperation.insertedText]

theorem insert_shown {s : String} {sp : Span} (h : c.insert s = .ok (d, sp)) :
    d.shown = c.shown ++ Text.visible s := by
  rcases insert_eq_ok.mp h with ⟨rfl, hr⟩ | ⟨-, -, hr⟩
  · rw [(Prod.mk.inj hr).1, Text.visible_empty, List.append_nil]
  · rw [(Prod.mk.inj hr).1, shown_put]

theorem ensureLineStart_shown (h : c.ensureLineStart = .ok d) : d.shown = c.shown := by
  rcases ensureLineStart_cases h with rfl | rfl
  · rfl
  · simp

theorem finishItemLine_shown {n : Nat} (h : c.finishItemLine = .ok (d, n)) : d.shown = c.shown := by
  rcases finishItemLine_eq_ok.mp h with ⟨-, rfl, -⟩ | ⟨-, -, rfl, -⟩
  · rfl
  · simp

theorem endItemLine_shown (h : c.endItemLine = .ok d) : d.shown = c.shown := by
  rcases endItemLine_cases h with rfl | ⟨idx, e, n, h₁, rfl⟩
  · rfl
  · exact (shown_of_inserts (c := e) rfl).trans (finishItemLine_shown h₁)

theorem insertStyled_shown {s : String} {f : InlineFormat} (h : c.insertStyled s f = .ok d) :
    d.shown = c.shown ++ Text.visible s := by
  rcases insertStyled_eq_ok.mp h with ⟨rfl, rfl⟩ | ⟨-, -, rfl⟩
  · simp
  · rw [shown_of_inserts putStyled_inserts, shown_put]

theorem codeLineStep_shown {line : String} (h : c.codeLineStep line = .ok d) :
    d.shown = c.shown ++ Text.visible line := by
  obtain ⟨-, rfl⟩ := codeLineStep_eq_ok.mp h
  rw [shown_of_inserts putCodeLine_inserts, shown_put, Text.visible_append, Text.visible_newline,
    List.append_nil, visible_codeLine]

theorem foldlM_codeLineStep_shown :
    ∀ {lines : List String} {c d : Compiler}, lines.foldlM codeLineStep c = .ok d →
      d.shown = c.shown ++ lines.flatMap fun l => Text.visible (codeLine l)
  | [], c, d, h => by
    simp only [List.foldlM_nil, pure_eq_ok] at h
    simp [h]
  | line :: lines, c, d, h => by
    rw [List.foldlM_cons, bind_eq_ok] at h
    obtain ⟨e, h₁, h₂⟩ := h
    rw [foldlM_codeLineStep_shown h₂, codeLineStep_shown h₁, List.flatMap_cons, List.append_assoc,
      visible_codeLine]

/-- A code block shows what its content shows. -/
theorem addCode_shown {content : String} (h : c.addCode content = .ok d) :
    d.shown = c.shown ++ Text.visible content := by
  simp only [addCode_eq, bind_eq_ok] at h
  obtain ⟨e₁, h₁, e₂, h₂, h₃⟩ := h
  obtain ⟨⟨e₃, sp⟩, he₃, rfl⟩ := map_eq_ok.mp h₃
  rw [insert_shown he₃, Text.visible_newline, List.append_nil, foldlM_codeLineStep_shown h₂,
    ensureLineStart_shown h₁, visible_codeLines]

end Compiler

/-! ## The open items -/

namespace Compiler

variable {c d : Compiler} {idx : Nat} {rest : List Nat}

/-- For each open item, innermost first, whether its first non-empty text has come; an open item
that the state does not hold counts as having had it. -/
def firsts (c : Compiler) : List Bool :=
  c.openItems.map fun idx => (c.presets[idx]?.map Prod.snd).getD true

/-- The open items are distinct items that the state holds. -/
def OpenItemsFresh (c : Compiler) : Prop :=
  c.openItems.Nodup ∧ ∀ idx ∈ c.openItems, idx < c.presets.length

theorem firsts_congr (hp : d.presets = c.presets) (ho : d.openItems = c.openItems) :
    d.firsts = c.firsts := by
  rw [firsts, hp, ho, firsts]

theorem OpenItemsFresh.congr (hF : c.OpenItemsFresh) (hp : d.presets = c.presets)
    (ho : d.openItems = c.openItems) : d.OpenItemsFresh := by
  rw [OpenItemsFresh, hp, ho]
  exact hF

theorem firsts_of_cons (ho : c.openItems = idx :: rest) :
    c.firsts = (c.items[idx]?.map ListItem.taskChecked).getD true ::
      rest.map fun j => (c.presets[j]?.map Prod.snd).getD true := by
  simp [firsts, ho, getElem?_presets, Function.comp_def]

/-- Marking the innermost open item as having had its first text sets its flag and no other. -/
theorem firsts_set (hF : c.OpenItemsFresh) (ho : c.openItems = idx :: rest) {v : ListItem}
    (hv : v.taskChecked = true) :
    ({ c with items := c.items.setIfInBounds idx v, openItems := idx :: rest } : Compiler).firsts =
      true :: c.firsts.tail := by
  have hidx : idx < c.presets.length := hF.2 idx (by simp [ho])
  have hnot : idx ∉ rest := (List.nodup_cons.mp (ho ▸ hF.1)).1
  have hp : ({ c with items := c.items.setIfInBounds idx v, openItems := idx :: rest } :
      Compiler).presets = c.presets.set idx (v.preset, v.taskChecked) := by
    simp [presets, Array.toList_setIfInBounds, List.map_set]
  simp only [firsts, hp]
  simp only [ho, List.map_cons, List.tail_cons, List.getElem?_set, if_pos hidx, if_true,
    Option.map_some, Option.getD_some, hv, List.cons.injEq, true_and]
  apply List.map_congr_left
  intro j hj
  have hne : idx ≠ j := fun h => hnot (h ▸ hj)
  rw [if_neg hne]

/-- A newly opened item is the innermost open one, without its first text. The new item comes after
every item an open item names. -/
theorem firsts_push (hF : c.OpenItemsFresh) {v : ListItem} (hv : v.taskChecked = false) :
    ({ c with items := c.items.push v, openItems := c.items.size :: c.openItems } : Compiler).firsts =
      false :: c.firsts ∧
    ({ c with items := c.items.push v, openItems := c.items.size :: c.openItems } :
      Compiler).OpenItemsFresh := by
  have hlen : c.presets.length = c.items.size := by simp [presets]
  have hp : ({ c with items := c.items.push v, openItems := c.items.size :: c.openItems } :
      Compiler).presets = c.presets ++ [(v.preset, v.taskChecked)] := by
    simp [presets]
  refine ⟨?_, ?_, ?_⟩
  · rw [firsts, hp, List.map_cons, ← hlen, hv]
    refine congrArg₂ List.cons (by simp) (List.map_congr_left fun j hj => ?_)
    rw [List.getElem?_append_left (hF.2 j hj)]
  · refine List.nodup_cons.mpr ⟨fun hm => ?_, hF.1⟩
    have := hF.2 _ hm
    omega
  · intro j hj
    rw [hp, List.length_append, List.length_singleton]
    rcases List.mem_cons.mp hj with rfl | hj
    · omega
    · have := hF.2 j hj
      omega

/-- Closing the innermost open item drops its flag. -/
theorem firsts_pop (hF : c.OpenItemsFresh) (ho : c.openItems = idx :: rest) :
    ({ c with openItems := rest } : Compiler).firsts = c.firsts.tail ∧
      ({ c with openItems := rest } : Compiler).OpenItemsFresh := by
  have hp : ({ c with openItems := rest } : Compiler).presets = c.presets := rfl
  refine ⟨by simp [firsts, ho, hp], (List.nodup_cons.mp (ho ▸ hF.1)).2, fun j hj => ?_⟩
  exact hp ▸ hF.2 j (by simp [ho, hj])

theorem length_presets_takeTaskPrefix (s : String) :
    (c.takeTaskPrefix s).1.presets.length = c.presets.length := by
  unfold takeTaskPrefix
  split
  · rfl
  · split
    · rfl
    · split
      · rfl
      · split
        · rfl
        · split <;> simp [presets]

/-- A text shows what the walk says, once the task prefix is looked for, and the flags move as the
walk moves them. An open item the state does not hold counts as having had its first text. -/
theorem takeTaskPrefix_shows (hF : c.OpenItemsFresh) (s : String) :
    Text.visible (c.takeTaskPrefix s).2 = ((Token.text s).shows c.firsts).1 ∧
      (c.takeTaskPrefix s).1.firsts = ((Token.text s).shows c.firsts).2 := by
  cases hs : s.isEmpty
  case true =>
    rw [Token.shows_text_of_isEmpty hs]
    simp [takeTaskPrefix, String.isEmpty_iff.mp hs]
  rcases ho : c.openItems with _ | ⟨idx, rest⟩
  · have hf : c.firsts = [] := by simp [firsts, ho]
    rw [hf, Token.shows_text_of_head (by simp)]
    simp [takeTaskPrefix, hs, ho, hf]
  have hf := firsts_of_cons ho
  rcases hi : c.items[idx]? with _ | item
  · rw [hi] at hf
    rw [Token.shows_text_of_head (by simp [hf])]
    simp [takeTaskPrefix, hs, ho, hi]
  rw [hi] at hf
  cases ht : item.taskChecked
  case true =>
    rw [Token.shows_text_of_head (by simp [hf, ht])]
    simp [takeTaskPrefix, hs, ho, hi, ht]
  case false =>
    have hf' : c.firsts = false :: c.firsts.tail := by simp [hf, ht]
    rw [hf', Token.shows_text_first hs]
    cases hstrip : stripTaskPrefix s <;>
      simp [takeTaskPrefix, hs, ho, hi, ht, hstrip, firsts_set hF ho]

/-! ## One token, and the whole stream -/

/-- Each step inserts what the token shows, and white space besides. -/
theorem step_shown (hF : c.OpenItemsFresh) {t : Token} (h : c.step t = .ok d) :
    d.shown = c.shown ++ (t.shows c.firsts).1 := by
  cases t
  case headingOpen l =>
    obtain ⟨-, e, he, rfl⟩ := openHeading_eq_ok.mp h
    show e.shown = _
    simp [ensureLineStart_shown he, Token.shows]
  case headingClose =>
    rcases closeHeading_eq_ok.mp h with ⟨-, rfl⟩ | ⟨hd, -, -, rfl⟩
    · simp [Token.shows]
    · rw [shown_put, shown_of_inserts (d := c.recordHeading hd) (c := c) rfl]
      simp [Token.shows]
  case paragraphClose => simpa [Token.shows] using ensureLineStart_shown h
  case text s =>
    rw [step, addText_eq] at h
    have hpre : (c.takeTaskPrefix s).1.shown = c.shown :=
      shown_of_inserts (by rw [takeTaskPrefix_fst])
    rw [insertStyled_shown h, hpre, (takeTaskPrefix_shows hF s).1]
  case codeInline s => simpa [Token.shows] using insertStyled_shown h
  case bulletListOpen | orderedListOpen =>
    obtain ⟨e, h₁, e', h₂, rfl⟩ := openList_eq_ok.mp h
    show e'.shown = _
    rw [ensureLineStart_shown h₂, endItemLine_shown h₁]
    simp [Token.shows]
  case itemOpen =>
    obtain ⟨frame, rest, -, e, he, e', sp, he', rfl⟩ := openItem_eq_ok.mp h
    show e'.shown = _
    rw [insert_shown he', ensureLineStart_shown he]
    simp [Token.shows]
  case itemClose =>
    rcases closeItem_cases h with ⟨-, rfl⟩ | rfl | ⟨idx, e, n, h₁, rfl⟩ | h₁
    · simp [Token.shows]
    · simp [Token.shows, shown]
    · show e.shown = _
      rw [finishItemLine_shown h₁]
      simp [Token.shows, shown]
    · rw [ensureLineStart_shown h₁]
      simp [Token.shows, shown]
  case softBreak | hardBreak =>
    obtain ⟨⟨e, sp⟩, he, rfl⟩ := map_eq_ok.mp h
    simp [insert_shown he, Token.shows]
  case fence _ content | codeBlock content => simpa [Token.shows] using addCode_shown h
  case rule =>
    obtain ⟨e, he, -, rfl⟩ := rule_eq_ok.mp h
    show (e.put "\n").shown = _
    rw [shown_put, ensureLineStart_shown he]
    simp [Token.shows]
  all_goals
    simp only [step, Except.ok.injEq] at h
    subst h
    simp [Token.shows, shown]

/-- Each step moves the flags of the open items as the walk moves them, and keeps the open items
distinct items of the state. -/
theorem step_firsts (hF : c.OpenItemsFresh) {t : Token} (h : c.step t = .ok d) :
    d.firsts = (t.shows c.firsts).2 ∧ d.OpenItemsFresh := by
  by_cases hx : ∃ s, t = .text s
  · obtain ⟨s, rfl⟩ := hx
    rw [step, addText_eq] at h
    have hkeep : KeepsItems (c.takeTaskPrefix s).1 d := by
      rcases insertStyled_eq_ok.mp h with ⟨-, rfl⟩ | ⟨-, -, rfl⟩
      · exact ⟨rfl, rfl, rfl⟩
      · exact ⟨by simp [presets], by simp, by simp⟩
    have ho : (c.takeTaskPrefix s).1.openItems = c.openItems := by rw [takeTaskPrefix_fst]
    have hF' : (c.takeTaskPrefix s).1.OpenItemsFresh :=
      ⟨ho ▸ hF.1, fun j hj => by
        rw [length_presets_takeTaskPrefix]
        exact hF.2 j (ho ▸ hj)⟩
    exact ⟨(firsts_congr hkeep.1 hkeep.2.1).trans (takeTaskPrefix_shows hF s).2,
      hF'.congr hkeep.1 hkeep.2.1⟩
  cases ht : t.isListToken
  · have hx' : ∀ s, t ≠ .text s := fun s hs => hx ⟨s, hs⟩
    obtain ⟨-, hi, ho⟩ := step_items_eq h ht hx'
    have hp : d.presets = c.presets := by simp [presets, hi]
    rw [Token.shows_snd ht hx']
    exact ⟨firsts_congr hp ho, hF.congr hp ho⟩
  cases t <;> simp only [Token.isListToken, reduceCtorEq] at ht
  case bulletListOpen | orderedListOpen =>
    obtain ⟨e, h₁, e', h₂, rfl⟩ := openList_eq_ok.mp h
    have hk := (keepsItems_of_endItemLine h₁).trans (keepsItems_of_ensureLineStart h₂)
    exact ⟨firsts_congr hk.1 hk.2.1, hF.congr hk.1 hk.2.1⟩
  case bulletListClose | orderedListClose =>
    simp only [step, Except.ok.injEq] at h
    subst h
    exact ⟨rfl, hF⟩
  case itemOpen =>
    obtain ⟨frame, rest, -, e, he, e', sp, he', rfl⟩ := openItem_eq_ok.mp h
    have hk := (keepsItems_of_ensureLineStart he).trans (keepsItems_of_insert he')
    have hpush := firsts_push (c := e') (hF.congr hk.1 hk.2.1)
      (v := { start := e.cursor, level := frame.level, preset := frame.kind.preset }) rfl
    rw [firsts_congr hk.1 hk.2.1] at hpush
    exact hpush
  case itemClose =>
    replace h : c.closeItem = .ok d := h
    rcases ho : c.openItems with _ | ⟨idx, rest⟩
    · rw [closeItem_of_nil ho] at h
      cases h
      simp [firsts, ho, hF, Token.shows]
    · obtain ⟨hpop, hFpop⟩ := firsts_pop hF ho
      have hk := closeItem_keeps ho h
      simp only [Token.shows]
      rw [← hpop]
      exact ⟨firsts_congr hk.1 hk.2.1, hFpop.congr hk.1 hk.2.1⟩

/-- A run inserts what the walk of its tokens shows, from the flags of the state it starts in. -/
theorem run_shown : ∀ {ts : List Token} {c d : Compiler}, c.OpenItemsFresh →
    ts.foldlM step c = .ok d → d.shown = c.shown ++ shownChars c.firsts ts
  | [], c, d, _, h => by
    simp only [List.foldlM_nil, pure_eq_ok] at h
    simp [h, shownChars]
  | t :: ts, c, d, hF, h => by
    rw [List.foldlM_cons, bind_eq_ok] at h
    obtain ⟨e, h₁, h₂⟩ := h
    obtain ⟨hfe, hFe⟩ := step_firsts hF h₁
    rw [run_shown hFe h₂, step_shown hF h₁, hfe, shownChars, List.append_assoc]

/-- The finished operations insert what the state has inserted, and nothing else. -/
theorem finish_shown : (c.finish.flatMap fun op => Text.visible op.insertedText) = c.shown := by
  obtain ⟨rest, hfin, hrest⟩ := c.finish_eq_inserts_append
  have hnil : (rest.flatMap fun op => Text.visible op.insertedText) = [] :=
    List.flatMap_eq_nil_iff.mpr fun op hop => by
      rw [EditOperation.insertedText_of_not_insert (hrest op hop).1, Text.visible_empty]
  rw [hfin, List.flatMap_append, hnil, List.append_nil, shown]

end Compiler

/-! ## Blank streams -/

mutual

theorem Token.isBlank_eq_all (t : Token) : t.isBlank = t.flattenOne.all Token.isBlank := by
  cases t
  case inline children => rw [Token.isBlank, Token.flattenOne, Token.blankList_eq_all children]
  all_goals simp [Token.flattenOne]

/-- A stream is blank when every token of it, inline groups opened, is blank. -/
theorem Token.blankList_eq_all (ts : List Token) :
    Token.blankList ts = (Token.flatten ts).all Token.isBlank := by
  cases ts with
  | nil => rfl
  | cons t ts =>
    rw [Token.blankList, Token.flatten, List.all_append, Token.isBlank_eq_all t,
      Token.blankList_eq_all ts]

end

theorem stripTaskPrefix_of_allBlank {s : String} (h : Text.allBlank s = true) :
    stripTaskPrefix s = none := by
  unfold stripTaskPrefix
  split
  · rename_i m w rest hs
    have hbracket : Text.isBlank '[' = false := by decide
    simp [Text.allBlank, hs, hbracket] at h
  · rfl

/-- A blank token shows nothing. -/
theorem Token.shows_of_isBlank {t : Token} (h : t.isBlank = true) (firsts : List Bool) :
    (t.shows firsts).1 = [] := by
  cases t <;> simp only [Token.isBlank, Bool.false_eq_true] at h
  case text s =>
    rcases firsts with _ | ⟨_ | _, rest⟩ <;>
      simp [Token.shows, Text.visible_of_allBlank h, stripTaskPrefix_of_allBlank h, apply_ite Prod.fst]
  case codeInline s => exact Text.visible_of_allBlank h
  all_goals rfl

theorem shownChars_of_blank : ∀ {ts : List Token} (firsts : List Bool),
    (∀ t ∈ ts, t.isBlank = true) → shownChars firsts ts = []
  | [], _, _ => rfl
  | t :: ts, firsts, h => by
    rw [shownChars, Token.shows_of_isBlank (h t List.mem_cons_self),
      shownChars_of_blank _ fun u hu => h u (List.mem_cons_of_mem _ hu), List.append_nil]

/-- Leaving white space aside, a compilation inserts exactly what its stream holds, in order: the
texts, the inline code and the code blocks, with the task prefix taken off the first non-empty
text of each item while that item is the innermost open one. -/
theorem compile_shows_content {T : List Token} {o : CompileOptions} {ops : List EditOperation}
    (h : compile T o = .ok ops) :
    (ops.flatMap fun op => op.insertedText.toList).filter (fun ch => !Text.isBlank ch) =
      shownChars [] (Token.flatten T) := by
  rw [List.filter_flatMap]
  change (ops.flatMap fun op => Text.visible op.insertedText) = _
  unfold compile at h
  split at h
  · cases h
  split at h
  · rename_i hb
    cases h
    rw [List.flatMap_nil, shownChars_of_blank [] fun t ht => ?_]
    rw [Token.blankList_eq_all, List.all_eq_true] at hb
    exact hb t ht
  · obtain ⟨c, hrun, rfl⟩ := map_eq_ok.mp h
    have hF : (Compiler.start o).OpenItemsFresh := ⟨List.nodup_nil, fun _ h => by simp [Compiler.start] at h⟩
    rw [Compiler.finish_shown, Compiler.run_shown hF hrun]
    rfl

/-- A task item `[x] a b` and a code block with a carriage return and an empty line: what the
compilation inserts shows `a`, `b`, `c` and `d`. -/
theorem compile_shows_content_task :
    ∃ ops, compile [.bulletListOpen, .itemOpen, .inline [.text "[x] a b"], .itemClose,
        .bulletListClose, .fence "" "c\r\n\nd\n"] {} = .ok ops ∧
      (ops.flatMap fun op => op.insertedText.toList).filter (fun ch => !Text.isBlank ch) =
        ['a', 'b', 'c', 'd'] := by
  obtain ⟨ops, hops⟩ := exists_eq_ok_of_isOk (by decide +kernel : (compile [.bulletListOpen,
    .itemOpen, .inline [.text "[x] a b"], .itemClose, .bulletListClose,
    .fence "" "c\r\n\nd\n"] {}).isOk = true)
  exact ⟨ops, hops, (compile_shows_content hops).trans (by decide +kernel)⟩

end DocBridge
