import DocBridge.Proofs.Compile.Step

/-!
# The formatting in effect, kind by kind

The compiler keeps the open inline marks on one stack, innermost first, and a close removes
the innermost mark of its kind wherever it sits. Kind by kind this is counting.
`MarksInEffect` is what a prefix of a token stream leaves open, read off the stream alone:
how many strong, emphasis and strikethrough opens are still unmatched, and the targets of the
unmatched link opens, latest first. A close matches the latest unmatched open of its kind, and
a close with none to match is ignored.

`MarkStack.Represents` relates the stack to these counts. Every token keeps the relation
(`step_represents`), so after any prefix of a stream the format the compiler gives text is the
one the counts give (`run_represents`, `Represents.style_snapshot`).
-/

namespace DocBridge

/-- The inline marks a prefix of a token stream leaves open: the unmatched strong, emphasis
and strikethrough opens, counted, and the targets of the unmatched link opens, latest first. -/
structure MarksInEffect where
  strong : Nat := 0
  em : Nat := 0
  strike : Nat := 0
  links : List String := []
  deriving DecidableEq, Repr

namespace MarksInEffect

/-- One token: an open adds a mark of its kind, a close takes away the latest of its kind,
if there is one. -/
def step (m : MarksInEffect) : Token → MarksInEffect
  | .strongOpen => { m with strong := m.strong + 1 }
  | .strongClose => { m with strong := m.strong - 1 }
  | .emOpen => { m with em := m.em + 1 }
  | .emClose => { m with em := m.em - 1 }
  | .strikeOpen => { m with strike := m.strike + 1 }
  | .strikeClose => { m with strike := m.strike - 1 }
  | .linkOpen href => { m with links := href :: m.links }
  | .linkClose => { m with links := m.links.tail }
  | _ => m

/-- The marks in effect after the tokens `pre`. -/
def after (pre : List Token) : MarksInEffect := pre.foldl step {}

/-- The style of text written under the marks, in the code treatment when `code`: each flag
whose kind has an unmatched open, and the target of the latest unmatched link. -/
def style (m : MarksInEffect) (code : Bool) : TextStyle where
  bold := m.strong != 0
  italic := m.em != 0
  strikethrough := m.strike != 0
  monospace := code
  link := m.links.head?

end MarksInEffect

/-- The text style of a format: its flags, the code treatment for code, and its link. -/
def InlineFormat.style (f : InlineFormat) : TextStyle where
  bold := f.bold
  italic := f.italic
  strikethrough := f.strike
  monospace := f.code
  link := f.link

/-- The url of a link mark. -/
def Mark.url? : Mark → Option String
  | .link url => some url
  | _ => none

namespace MarkStack

/-- The open marks of one kind. -/
def count (s : MarkStack) (k : MarkKind) : Nat := s.countP (·.kind == k)

/-- The urls of the open link marks, innermost first. -/
def urls (s : MarkStack) : List String := s.filterMap Mark.url?

@[simp] theorem count_nil (k : MarkKind) : count [] k = 0 := rfl

@[simp] theorem count_cons (m : Mark) (s : MarkStack) (k : MarkKind) :
    count (m :: s) k = count s k + if m.kind = k then 1 else 0 := by
  simp [count, List.countP_cons]

@[simp] theorem urls_nil : urls [] = [] := rfl

@[simp] theorem urls_cons (m : Mark) (s : MarkStack) : urls (m :: s) = (m.url?).toList ++ urls s := by
  cases m <;> simp [urls, List.filterMap_cons, Mark.url?]

theorem pop_nil (k : MarkKind) : pop [] k = [] := rfl

theorem pop_cons_of_kind {m : Mark} {s : MarkStack} {k : MarkKind} (h : m.kind = k) :
    pop (m :: s) k = s := by
  simp [pop, pop?, h]

theorem pop_cons_of_ne {m : Mark} {s : MarkStack} {k : MarkKind} (h : m.kind ≠ k) :
    pop (m :: s) k = m :: pop s k := by
  unfold pop
  rw [pop?, if_neg (by simpa using h)]
  cases s.pop? k <;> rfl

/-- Closing a kind takes one mark of that kind away, none when none is open, and leaves the
other kinds alone. -/
theorem count_pop (s : MarkStack) (k k' : MarkKind) :
    count (pop s k) k' = count s k' - if k = k' then 1 else 0 := by
  induction s with
  | nil => simp [pop_nil]
  | cons m s ih =>
    by_cases hm : m.kind = k
    · rw [pop_cons_of_kind hm, count_cons]
      subst hm
      by_cases hk : m.kind = k' <;> simp [hk]
    · rw [pop_cons_of_ne hm, count_cons, count_cons, ih]
      by_cases hk : k = k'
      · subst hk
        simp only [hm, if_false, if_true]
        omega
      · simp [hk]

/-- Closing a link drops the innermost url; closing another kind keeps every url. -/
theorem urls_pop (s : MarkStack) (k : MarkKind) :
    urls (pop s k) = if k = .link then (urls s).tail else urls s := by
  induction s with
  | nil => simp [pop_nil]
  | cons m s ih =>
    by_cases hm : m.kind = k
    · rw [pop_cons_of_kind hm]
      subst hm
      cases m <;> simp [Mark.kind, Mark.url?]
    · rw [pop_cons_of_ne hm, urls_cons, urls_cons, ih]
      split
      · rename_i hk
        subst hk
        cases m <;> simp_all [Mark.kind, Mark.url?]
      · rfl

theorem innermostLink_eq_head_urls (s : MarkStack) : innermostLink s = (urls s).head? := by
  induction s with
  | nil => rfl
  | cons m s ih => cases m <;> simp [innermostLink, Mark.url?, ih]

theorem any_kind_eq (s : MarkStack) (k : MarkKind) : s.any (·.kind == k) = (count s k != 0) := by
  induction s with
  | nil => rfl
  | cons m s ih => by_cases hm : m.kind = k <;> simp [hm, ih]

/-- The stack holds, kind by kind, the marks that `m` says are open: as many of each flag's
kind, and the link targets in the same order. -/
structure Represents (s : MarkStack) (m : MarksInEffect) : Prop where
  strong : count s .bold = m.strong
  em : count s .italic = m.em
  strike : count s .strike = m.strike
  links : urls s = m.links

theorem represents_nil : Represents [] {} := ⟨rfl, rfl, rfl, rfl⟩

/-- The format the stack gives text, with the code treatment when `code`, is the style of the
marks it represents. -/
theorem Represents.style_snapshot {s : MarkStack} {m : MarksInEffect} (h : Represents s m)
    (code : Bool) : { s.snapshot with code }.style = m.style code := by
  simp only [InlineFormat.style, MarksInEffect.style, snapshot, any_kind_eq,
    innermostLink_eq_head_urls, h.strong, h.em, h.strike, h.links]

end MarkStack

/-! ## Tokens and the stack -/

/-- The tokens that open or close an inline mark. -/
def Token.isMark : Token → Bool
  | .strongOpen | .strongClose | .emOpen | .emClose | .strikeOpen | .strikeClose
  | .linkOpen _ | .linkClose => true
  | _ => false

theorem MarksInEffect.step_of_not_mark {t : Token} {m : MarksInEffect} (ht : t.isMark = false) :
    m.step t = m := by
  cases t <;> simp_all [Token.isMark, MarksInEffect.step]

/-- The tokens that touch the inline styling: the marks, and the tokens that write styled
text. -/
def Token.isStyling (t : Token) : Bool :=
  t.isMark || match t with
    | .text _ | .codeInline _ | .fence _ _ | .codeBlock _ => true
    | _ => false

namespace Compiler

variable {c d e : Compiler}

/-- `d` has the open marks and the styled ranges of `c`. -/
def KeepsStyles (c d : Compiler) : Prop := d.marks = c.marks ∧ d.textRanges = c.textRanges

theorem KeepsStyles.refl (c : Compiler) : KeepsStyles c c := ⟨rfl, rfl⟩

theorem KeepsStyles.trans (h₁ : KeepsStyles c d) (h₂ : KeepsStyles d e) : KeepsStyles c e :=
  ⟨h₂.1.trans h₁.1, h₂.2.trans h₁.2⟩

theorem keepsStyles_put (s : String) : KeepsStyles c (c.put s) := ⟨rfl, rfl⟩

theorem keepsStyles_of_insert {s : String} {sp : Span} (h : c.insert s = .ok (d, sp)) :
    KeepsStyles c d := by
  rcases insert_cases h with rfl | rfl
  · exact .refl _
  · exact keepsStyles_put s

theorem keepsStyles_of_ensureLineStart (h : c.ensureLineStart = .ok d) : KeepsStyles c d := by
  rcases ensureLineStart_cases h with rfl | rfl
  · exact .refl _
  · exact keepsStyles_put _

theorem keepsStyles_of_finishItemLine {idx n : Nat} (h : c.finishItemLine = .ok (d, n)) :
    KeepsStyles c (d.setItemStop idx n) := by
  rcases finishItemLine_eq_ok.mp h with ⟨-, rfl, -⟩ | ⟨-, -, rfl, -⟩
  · exact ⟨rfl, rfl⟩
  · exact ⟨rfl, rfl⟩

theorem keepsStyles_of_endItemLine (h : c.endItemLine = .ok d) : KeepsStyles c d := by
  rcases endItemLine_cases h with rfl | ⟨idx, e, n, h₁, rfl⟩
  · exact .refl _
  · exact keepsStyles_of_finishItemLine h₁

theorem keepsStyles_of_closeItem (h : c.closeItem = .ok d) : KeepsStyles c d := by
  have hpop : KeepsStyles c { c with openItems := c.openItems.tail } := ⟨rfl, rfl⟩
  rcases closeItem_cases h with ⟨-, rfl⟩ | rfl | ⟨idx, e, n, h₁, rfl⟩ | h₁
  · exact .refl _
  · exact hpop
  · exact hpop.trans (keepsStyles_of_finishItemLine h₁)
  · exact hpop.trans (keepsStyles_of_ensureLineStart h₁)

/-- A token that neither opens or closes a mark nor writes styled text keeps the marks and the
styled ranges. -/
theorem step_keepsStyles {t : Token} (h : c.step t = .ok d) (ht : t.isStyling = false) :
    KeepsStyles c d := by
  cases t <;> simp only [Token.isStyling, Token.isMark, Bool.or_false, Bool.or_true,
    reduceCtorEq] at ht
  case headingOpen l =>
    obtain ⟨-, e, he, rfl⟩ := openHeading_eq_ok.mp h
    exact (keepsStyles_of_ensureLineStart he).trans ⟨rfl, rfl⟩
  case headingClose =>
    rcases closeHeading_eq_ok.mp h with ⟨-, rfl⟩ | ⟨hd, -, -, rfl⟩
    · exact .refl _
    · exact ⟨rfl, rfl⟩
  case paragraphClose => exact keepsStyles_of_ensureLineStart h
  case bulletListOpen | orderedListOpen =>
    obtain ⟨e, h₁, e', h₂, rfl⟩ := openList_eq_ok.mp h
    exact ((keepsStyles_of_endItemLine h₁).trans (keepsStyles_of_ensureLineStart h₂)).trans
      ⟨rfl, rfl⟩
  case itemOpen =>
    obtain ⟨frame, rest, -, e, he, e', sp, he', rfl⟩ := openItem_eq_ok.mp h
    exact ((keepsStyles_of_ensureLineStart he).trans (keepsStyles_of_insert he')).trans ⟨rfl, rfl⟩
  case itemClose => exact keepsStyles_of_closeItem h
  case softBreak | hardBreak =>
    obtain ⟨⟨e, sp⟩, he, rfl⟩ := map_eq_ok.mp h
    exact keepsStyles_of_insert he
  case rule =>
    obtain ⟨e, he, -, rfl⟩ := rule_eq_ok.mp h
    exact (keepsStyles_of_ensureLineStart he).trans ⟨rfl, rfl⟩
  all_goals
    simp only [step, Except.ok.injEq] at h
    subst h
    exact ⟨rfl, rfl⟩

/-- A token that opens or closes no mark keeps the open marks. -/
theorem step_marks_of_not_mark {t : Token} (h : c.step t = .ok d) (ht : t.isMark = false) :
    d.marks = c.marks := by
  cases hs : t.isStyling
  · exact (step_keepsStyles h hs).1
  cases t <;> simp only [Token.isStyling, Token.isMark, Bool.false_or, reduceCtorEq] at ht hs
  case text s =>
    rw [step, addText_eq] at h
    have hm : (c.takeTaskPrefix s).1.marks = c.marks := by rw [takeTaskPrefix_fst]
    rcases insertStyled_eq_ok.mp h with ⟨-, rfl⟩ | ⟨-, -, rfl⟩
    · exact hm
    · simpa [putStyled_marks] using hm
  case codeInline s =>
    rcases insertStyled_eq_ok.mp h with ⟨-, rfl⟩ | ⟨-, -, rfl⟩
    · rfl
    · simp
  case fence _ content | codeBlock content =>
    simp only [step, addCode_eq, bind_eq_ok] at h
    obtain ⟨e₁, h₁, e₂, h₂, h₃⟩ := h
    obtain ⟨⟨e₃, sp⟩, he₃, rfl⟩ := map_eq_ok.mp h₃
    have hlines : e₂.marks = e₁.marks :=
      foldlM_invariant (fun e => e.marks = e₁.marks)
        (fun e line e' he hs => by
          obtain ⟨-, rfl⟩ := codeLineStep_eq_ok.mp hs
          exact putCodeLine_marks.trans he) rfl h₂
    rw [(keepsStyles_of_insert he₃).1, hlines, (keepsStyles_of_ensureLineStart h₁).1]

/-- Every token keeps the stack representing the marks in effect. -/
theorem step_represents {t : Token} {m : MarksInEffect} (h : c.step t = .ok d)
    (hm : c.marks.Represents m) : d.marks.Represents (m.step t) := by
  cases ht : t.isMark
  · rw [step_marks_of_not_mark h ht, MarksInEffect.step_of_not_mark ht]
    exact hm
  cases t <;> simp only [Token.isMark, reduceCtorEq] at ht
  all_goals
    simp only [step, Except.ok.injEq] at h
    subst h
    constructor <;> simp [MarksInEffect.step, MarkStack.push, MarkStack.count_pop,
      MarkStack.urls_pop, Mark.kind, Mark.url?, hm.strong, hm.em, hm.strike, hm.links]

/-- After a run the stack represents the marks that the run's tokens leave in effect. -/
theorem run_represents : ∀ {ts : List Token} {c d : Compiler} {m : MarksInEffect},
    c.marks.Represents m → ts.foldlM step c = .ok d →
      d.marks.Represents (ts.foldl MarksInEffect.step m)
  | [], c, d, m, hm, h => by
    simp only [List.foldlM_nil, pure_eq_ok] at h
    subst h
    exact hm
  | t :: ts, c, d, m, hm, h => by
    rw [List.foldlM_cons, bind_eq_ok] at h
    obtain ⟨c₁, h₁, h₂⟩ := h
    rw [List.foldl_cons]
    exact run_represents (step_represents h₁ hm) h₂

end Compiler

end DocBridge
