import DocBridge.Proofs.Compile.Offsets
import DocBridge.Proofs.Compile.ItemTabs

/-!
# Which streams compile

Two tokens make the compiler fail on their own account: a heading opened while another heading
is open, and a list item opened where no list is. Whether that happens is told by the stream
itself. A heading is open after some tokens when one of them opened a heading and no heading
close followed it (`headingOpenAfter`; a stray close changes nothing), and the list depth counts
one more at every list open and one less at every list close, of either kind, never below zero
(`listDepth`). `fault pre t` is the error that the token `t` meets after the tokens `pre`, and
`FaultsFirst ts e` says that `e` is the fault of the first token of `ts` that has one.

The compiler keeps the same two facts, whether a heading is open and how many lists it holds
(`Tracks`). A step fails with the fault of its token when it has one (`step_eq_error_of_fault`);
otherwise it succeeds, or fails with an offset overflow (`step_okOrOverflow`), since every other
way a step can fail is an insertion past the largest offset. `run_faults` carries this along a
run.

`compile_fails_at_first_fault` is the result: a stream that is not blank, compiled from a start
index of 1 or more, overflows the offsets, or else it fails exactly with the first fault of the
flattened stream and compiles exactly when no token has one. Each fault is a structural violation
that names its token, and no close of any kind is one.
-/

namespace DocBridge

/-! ## The faults of a stream -/

namespace Token

/-- Whether a heading is open after a token, given whether one was open before it. -/
def headingAfter (isOpen : Bool) : Token → Bool
  | .headingOpen _ => true
  | .headingClose => false
  | _ => isOpen

/-- The list depth after a token, given the depth before it: one more after a list open and one
less after a list close, of either kind, never below zero. -/
def depthAfter (n : Nat) : Token → Nat
  | .bulletListOpen | .orderedListOpen => n + 1
  | .bulletListClose | .orderedListClose => n - 1
  | _ => n

end Token

/-- Whether a heading is open after the tokens `pre`: one of them opened a heading, and no
heading close came after it. -/
def headingOpenAfter (pre : List Token) : Bool := pre.foldl Token.headingAfter false

/-- The depth of the lists open after the tokens `pre`. -/
def listDepth (pre : List Token) : Nat := pre.foldl Token.depthAfter 0

/-- The error that the token `t` meets after the tokens `pre`: a heading inside an open heading,
or a list item at list depth zero. -/
def fault (pre : List Token) : Token → Option CompileError
  | .headingOpen _ => if headingOpenAfter pre then some .headingInHeading else none
  | .itemOpen => if listDepth pre = 0 then some .itemOutsideList else none
  | _ => none

/-- No token of `ts` meets a fault. -/
def FaultFree (ts : List Token) : Prop :=
  ∀ pre t rest, ts = pre ++ t :: rest → fault pre t = none

/-- `e` is the fault of the first token of `ts` that has one. -/
def FaultsFirst (ts : List Token) (e : CompileError) : Prop :=
  ∃ pre t rest, ts = pre ++ t :: rest ∧ FaultFree pre ∧ fault pre t = some e

/-- The fault of the first token of `ts` that has one, after the tokens `pre`. -/
def firstFault (pre : List Token) : List Token → Option CompileError
  | [] => none
  | t :: ts => (fault pre t).or (firstFault (pre ++ [t]) ts)

@[simp] theorem headingOpenAfter_concat (pre : List Token) (t : Token) :
    headingOpenAfter (pre ++ [t]) = t.headingAfter (headingOpenAfter pre) := by
  simp [headingOpenAfter]

@[simp] theorem listDepth_concat (pre : List Token) (t : Token) :
    listDepth (pre ++ [t]) = t.depthAfter (listDepth pre) := by
  simp [listDepth]

/-- Every fault is a structural violation that names the token it occurs at. -/
theorem fault_message {pre : List Token} {t : Token} {e : CompileError} (h : fault pre t = some e) :
    e.isStructural ∧ ∃ reason, e.message = "Structural violation at " ++ t.name ++ ": " ++ reason := by
  cases t <;> simp only [fault, reduceCtorEq] at h
  case headingOpen l =>
    split at h
    · cases h
      exact ⟨rfl, "heading opened while another heading is still open",
        by simp [CompileError.message, Token.name]⟩
    · cases h
  case itemOpen =>
    split at h
    · cases h
      exact ⟨rfl, "list item outside of any list", by simp [CompileError.message, Token.name]⟩
    · cases h

/-- A stream is free of faults after `pre` exactly when `firstFault` finds none. -/
theorem firstFault_eq_none_iff {pre ts : List Token} :
    firstFault pre ts = none ↔ ∀ mid t rest, ts = mid ++ t :: rest → fault (pre ++ mid) t = none := by
  induction ts generalizing pre with
  | nil => simp [firstFault]
  | cons t ts ih =>
    rw [firstFault, Option.or_eq_none_iff, ih]
    constructor
    · rintro ⟨ht, hts⟩ mid t' rest hsplit
      rcases mid with _ | ⟨m, mid⟩
      · obtain ⟨rfl, -⟩ := List.cons.inj hsplit
        simpa using ht
      · simp only [List.cons_append, List.cons.injEq] at hsplit
        obtain ⟨rfl, hsplit⟩ := hsplit
        simpa using hts mid t' rest hsplit
    · intro h
      refine ⟨by simpa using h [] t ts rfl, fun mid t' rest hsplit => ?_⟩
      simpa using h (t :: mid) t' rest (by rw [hsplit, List.cons_append])

/-- `firstFault` finds the fault of the first token that has one. When the first token has a fault,
that fault is the first one. -/
theorem firstFault_eq_some_iff {pre ts : List Token} {e : CompileError} :
    firstFault pre ts = some e ↔ ∃ mid t rest, ts = mid ++ t :: rest ∧
      firstFault pre mid = none ∧ fault (pre ++ mid) t = some e := by
  induction ts generalizing pre with
  | nil => simp [firstFault]
  | cons t ts ih =>
    rw [firstFault]
    cases ht : fault pre t with
    | some e₀ =>
      simp only [Option.some_or, Option.some.injEq]
      constructor
      · rintro rfl
        exact ⟨[], t, ts, rfl, rfl, by simpa using ht⟩
      · rintro ⟨mid, t', rest, hsplit, hmid, hf⟩
        rcases mid with _ | ⟨m, mid⟩
        · obtain ⟨rfl, -⟩ := List.cons.inj hsplit
          simpa [ht] using hf
        · simp only [List.cons_append, List.cons.injEq] at hsplit
          obtain ⟨rfl, -⟩ := hsplit
          simp [firstFault, ht] at hmid
    | none =>
      simp only [Option.none_or, ih]
      constructor
      · rintro ⟨mid, t', rest, hsplit, hmid, hf⟩
        exact ⟨t :: mid, t', rest, by rw [hsplit, List.cons_append], by simpa [firstFault, ht],
          by simpa using hf⟩
      · rintro ⟨mid, t', rest, hsplit, hmid, hf⟩
        rcases mid with _ | ⟨m, mid⟩
        · obtain ⟨rfl, -⟩ := List.cons.inj hsplit
          simp [ht] at hf
        · simp only [List.cons_append, List.cons.injEq] at hsplit
          obtain ⟨rfl, hsplit⟩ := hsplit
          exact ⟨mid, t', rest, hsplit, by simpa [firstFault, ht] using hmid, by simpa using hf⟩

theorem firstFault_nil_eq_none_iff {ts : List Token} : firstFault [] ts = none ↔ FaultFree ts := by
  simp [firstFault_eq_none_iff, FaultFree]

theorem firstFault_nil_eq_some_iff {ts : List Token} {e : CompileError} :
    firstFault [] ts = some e ↔ FaultsFirst ts e := by
  simp [firstFault_eq_some_iff, FaultsFirst, firstFault_nil_eq_none_iff]

/-! ## Outcomes that only overflow -/

section Overflow

variable {α β : Type}

/-- An outcome that is a success or an offset overflow. -/
def OkOrOverflow (r : Except CompileError α) : Prop := ∀ e, r = .error e → e = .offsetOverflow

theorem OkOrOverflow.ok (a : α) : OkOrOverflow (.ok a : Except CompileError α) := by
  intro e he
  cases he

theorem OkOrOverflow.bind {x : Except CompileError α} {f : α → Except CompileError β}
    (hx : OkOrOverflow x) (hf : ∀ a, x = .ok a → OkOrOverflow (f a)) : OkOrOverflow (x >>= f) := by
  intro e he
  cases hx' : x with
  | error e' =>
    rw [hx'] at he
    cases he
    exact hx e hx'
  | ok a => exact hf a hx' e (by rw [hx'] at he; exact he)

theorem OkOrOverflow.map {x : Except CompileError α} (hx : OkOrOverflow x) (f : α → β) :
    OkOrOverflow (x.map f) := by
  intro e he
  cases hx' : x with
  | error e' =>
    rw [hx'] at he
    cases he
    exact hx e hx'
  | ok a =>
    rw [hx'] at he
    cases he

end Overflow

namespace Compiler

variable {c d : Compiler}

theorem insert_okOrOverflow (s : String) : OkOrOverflow (c.insert s) := by
  intro e he
  unfold insert at he
  split at he
  · cases he
  · dsimp only at he
    split at he
    · cases he
      rfl
    · cases he

theorem ensureLineStart_okOrOverflow : OkOrOverflow c.ensureLineStart := by
  unfold ensureLineStart
  split
  · exact .ok c
  · exact (insert_okOrOverflow "\n").map _

theorem finishItemLine_okOrOverflow : OkOrOverflow c.finishItemLine := by
  unfold finishItemLine
  split
  · exact .ok _
  · exact (insert_okOrOverflow "\n").map _

theorem endItemLine_okOrOverflow : OkOrOverflow c.endItemLine := by
  unfold endItemLine
  split
  · split
    · split
      · exact finishItemLine_okOrOverflow.bind fun _ _ => .ok _
      · exact .ok c
    · exact .ok c
  · exact .ok c

theorem insertStyled_okOrOverflow (s : String) (f : InlineFormat) :
    OkOrOverflow (c.insertStyled s f) :=
  (insert_okOrOverflow s).bind fun _ _ => by
    dsimp only
    split
    · exact .ok _
    · exact .ok _

/-- A code block is added or overflows: every line of the block is an insertion. -/
theorem addCode_okOrOverflow (content : String) : OkOrOverflow (c.addCode content) := by
  rw [addCode_eq]
  refine ensureLineStart_okOrOverflow.bind fun e _ => ?_
  have hlines : ∀ (lines : List String) (e : Compiler), OkOrOverflow (lines.foldlM codeLineStep e) := by
    intro lines
    induction lines with
    | nil => exact fun e => .ok e
    | cons line lines ih =>
      intro e
      rw [List.foldlM_cons]
      exact ((insert_okOrOverflow _).bind fun _ _ => .ok _).bind fun e' _ => ih e'
  exact (hlines _ e).bind fun _ _ => (insert_okOrOverflow "\n").map _

theorem closeItem_okOrOverflow : OkOrOverflow c.closeItem := by
  unfold closeItem
  split
  · exact .ok c
  · dsimp only
    split
    · split
      · exact finishItemLine_okOrOverflow.bind fun _ _ => .ok _
      · exact ensureLineStart_okOrOverflow
    · exact .ok _

theorem closeHeading_okOrOverflow : OkOrOverflow c.closeHeading := by
  unfold closeHeading
  split
  · exact .ok c
  · exact (insert_okOrOverflow "\n").map _

/-! ## The compiler keeps the faults -/

/-- The compiler holds what the tokens `pre` tell of the structure: a heading is open exactly when
one is open after `pre`, and it holds a frame for every list open after `pre`. -/
structure Tracks (pre : List Token) (c : Compiler) : Prop where
  heading : c.heading.isSome = headingOpenAfter pre
  depth : c.lists.length = listDepth pre

theorem tracks_start (o : CompileOptions) : Tracks [] (start o) := ⟨rfl, rfl⟩

variable {pre : List Token} {t : Token} {e : CompileError}

/-- A token with a fault fails with it, before it inserts anything. -/
theorem step_eq_error_of_fault (h : Tracks pre c) (hf : fault pre t = some e) :
    c.step t = .error e := by
  cases t <;> simp only [fault, reduceCtorEq] at hf
  case headingOpen l =>
    obtain ⟨hopen, rfl⟩ : headingOpenAfter pre = true ∧ e = .headingInHeading := by
      split at hf <;> simp_all
    obtain ⟨oh, hoh⟩ := Option.isSome_iff_exists.mp (h.heading.trans hopen)
    simp [step, openHeading, hoh, throw, throwThe, MonadExceptOf.throw, bind, Except.bind]
  case itemOpen =>
    obtain ⟨hdepth, rfl⟩ : listDepth pre = 0 ∧ e = .itemOutsideList := by
      split at hf <;> simp_all
    have hnil : c.lists = [] := List.eq_nil_of_length_eq_zero (h.depth.trans hdepth)
    simp [step, openItem, hnil, throw, throwThe, MonadExceptOf.throw]

/-- A token with no fault succeeds, or fails with an offset overflow. -/
theorem step_okOrOverflow (h : Tracks pre c) (hf : fault pre t = none) : OkOrOverflow (c.step t) := by
  cases t
  case headingOpen l =>
    have hnone : c.heading = none := by
      have hclosed : headingOpenAfter pre = false := by simpa [fault] using hf
      simpa [hclosed] using h.heading
    simp only [step, openHeading, hnone, Option.isSome_none, Bool.false_eq_true, if_false]
    exact ensureLineStart_okOrOverflow.bind fun _ _ => .ok _
  case itemOpen =>
    obtain ⟨frame, rest, hlists⟩ : ∃ frame rest, c.lists = frame :: rest := by
      have hdepth : listDepth pre ≠ 0 := by simpa [fault] using hf
      exact List.exists_cons_of_ne_nil fun hnil => hdepth (by simpa [hnil] using h.depth.symm)
    simp only [step, openItem, hlists]
    exact ensureLineStart_okOrOverflow.bind fun _ _ =>
      (insert_okOrOverflow _).bind fun _ _ => .ok _
  case headingClose => exact closeHeading_okOrOverflow
  case paragraphClose => exact ensureLineStart_okOrOverflow
  case text s => exact insertStyled_okOrOverflow _ _
  case codeInline s => exact insertStyled_okOrOverflow _ _
  case bulletListOpen | orderedListOpen =>
    rw [step, openList_eq]
    exact endItemLine_okOrOverflow.bind fun _ _ => ensureLineStart_okOrOverflow.bind fun _ _ => .ok _
  case itemClose => exact closeItem_okOrOverflow
  case softBreak | hardBreak => exact (insert_okOrOverflow _).map _
  case fence _ content | codeBlock content => exact addCode_okOrOverflow content
  case rule =>
    exact ensureLineStart_okOrOverflow.bind fun _ _ => (insert_okOrOverflow _).bind fun _ _ => .ok _
  all_goals exact .ok _

/-! ## What a step keeps of the structure -/

theorem heading_of_insert {s : String} {sp : Span} (h : c.insert s = .ok (d, sp)) :
    d.heading = c.heading := by
  rcases insert_cases h with rfl | rfl <;> rfl

theorem heading_of_ensureLineStart (h : c.ensureLineStart = .ok d) : d.heading = c.heading := by
  rcases ensureLineStart_cases h with rfl | rfl <;> rfl

theorem heading_of_endItemLine (h : c.endItemLine = .ok d) : d.heading = c.heading := by
  rcases endItemLine_cases h with rfl | ⟨idx, e, n, hf, rfl⟩
  · rfl
  · rcases finishItemLine_eq_ok.mp hf with ⟨-, rfl, -⟩ | ⟨-, -, rfl, -⟩ <;> rfl

theorem heading_of_addCode {content : String} (h : c.addCode content = .ok d) :
    d.heading = c.heading := by
  simp only [addCode_eq, bind_eq_ok] at h
  obtain ⟨e₁, h₁, e₂, h₂, h₃⟩ := h
  obtain ⟨⟨e₃, sp⟩, he₃, rfl⟩ := map_eq_ok.mp h₃
  have hlines : e₂.heading = e₁.heading :=
    foldlM_invariant (fun e => e.heading = e₁.heading)
      (fun e line e' he hs => by
        obtain ⟨-, rfl⟩ := codeLineStep_eq_ok.mp hs
        simpa using he) rfl h₂
  rw [heading_of_insert he₃, hlines, heading_of_ensureLineStart h₁]

/-- Every token but a heading's open and close keeps the open heading. -/
theorem step_heading (hs : c.step t = .ok d) (ho : ∀ l, t ≠ .headingOpen l)
    (hc : t ≠ .headingClose) : d.heading = c.heading := by
  cases t
  case headingOpen l => exact absurd rfl (ho l)
  case headingClose => exact absurd rfl hc
  case paragraphClose => exact heading_of_ensureLineStart hs
  case text s =>
    rw [step, addText_eq] at hs
    have hfst : (c.takeTaskPrefix s).1.heading = c.heading := by rw [takeTaskPrefix_fst]
    rcases insertStyled_eq_ok.mp hs with ⟨-, rfl⟩ | ⟨-, -, rfl⟩
    · exact hfst
    · simpa using hfst
  case codeInline s =>
    rcases insertStyled_eq_ok.mp hs with ⟨-, rfl⟩ | ⟨-, -, rfl⟩
    · rfl
    · simp
  case bulletListOpen | orderedListOpen =>
    obtain ⟨e, h₁, e', h₂, rfl⟩ := openList_eq_ok.mp hs
    exact (heading_of_ensureLineStart h₂).trans (heading_of_endItemLine h₁)
  case itemOpen =>
    obtain ⟨frame, rest, -, e, he, e', sp, he', rfl⟩ := openItem_eq_ok.mp hs
    exact (heading_of_insert he').trans (heading_of_ensureLineStart he)
  case itemClose =>
    rcases closeItem_cases hs with ⟨-, rfl⟩ | rfl | ⟨idx, e, n, hf, rfl⟩ | he
    · rfl
    · rfl
    · rcases finishItemLine_eq_ok.mp hf with ⟨-, rfl, -⟩ | ⟨-, -, rfl, -⟩ <;> rfl
    · exact (heading_of_ensureLineStart he :)
  case softBreak | hardBreak =>
    obtain ⟨⟨e, sp⟩, he, rfl⟩ := map_eq_ok.mp hs
    exact heading_of_insert he
  case fence _ content | codeBlock content => exact heading_of_addCode hs
  case rule =>
    obtain ⟨e, he, -, rfl⟩ := rule_eq_ok.mp hs
    exact (heading_of_ensureLineStart he :)
  all_goals
    simp only [step, Except.ok.injEq] at hs
    subst hs
    rfl

/-- A successful step keeps the structure of the stream it has read, one token longer. -/
theorem step_tracks (h : Tracks pre c) (hs : c.step t = .ok d) : Tracks (pre ++ [t]) d := by
  suffices hstep : d.heading.isSome = t.headingAfter c.heading.isSome ∧
      d.lists.length = t.depthAfter c.lists.length by
    exact ⟨by rw [headingOpenAfter_concat, ← h.heading, hstep.1],
      by rw [listDepth_concat, ← h.depth, hstep.2]⟩
  cases t
  case headingOpen l =>
    obtain ⟨-, e, he, rfl⟩ := openHeading_eq_ok.mp hs
    exact ⟨rfl, by simp [Token.depthAfter, (heads_of_ensureLineStart he).2]⟩
  case headingClose =>
    rcases closeHeading_eq_ok.mp hs with ⟨hn, rfl⟩ | ⟨oh, -, -, rfl⟩
    · exact ⟨by simp [hn, Token.headingAfter], rfl⟩
    · exact ⟨by simp [Token.headingAfter], by simp [Token.depthAfter]⟩
  case bulletListOpen | orderedListOpen =>
    obtain ⟨e, h₁, e', h₂, rfl⟩ := openList_eq_ok.mp hs
    have hh := (heading_of_ensureLineStart h₂).trans (heading_of_endItemLine h₁)
    have hl := (heads_of_ensureLineStart h₂).2.trans (heads_of_endItemLine h₁).2
    exact ⟨by simp [hh, Token.headingAfter], by simp [hl, Token.depthAfter]⟩
  case bulletListClose | orderedListClose =>
    simp only [step, Except.ok.injEq] at hs
    subst hs
    exact ⟨rfl, by simp [Token.depthAfter]⟩
  all_goals
    have hh := step_heading hs (fun _ => by simp) (by simp)
    have hl := (step_heads hs).2 rfl
    exact ⟨by simp [hh, Token.headingAfter], by simp [hl, Token.depthAfter]⟩

/-- A run from a state that keeps the structure of `pre` overflows, or else fails exactly with the
first fault of its tokens and succeeds exactly when there is none. When the first token has a fault,
the run stops at it. -/
theorem run_faults (h : Tracks pre c) (ts : List Token) :
    ts.foldlM step c = .error .offsetOverflow ∨
      ((∀ e, ts.foldlM step c = .error e ↔ firstFault pre ts = some e) ∧
        ((∃ d, ts.foldlM step c = .ok d) ↔ firstFault pre ts = none)) := by
  induction ts generalizing pre c with
  | nil => exact .inr ⟨fun e => by simp [firstFault, pure, Except.pure], by simp [firstFault]⟩
  | cons t ts ih =>
    rw [List.foldlM_cons, firstFault]
    cases hf : fault pre t with
    | some e₀ =>
      rw [step_eq_error_of_fault h hf]
      exact .inr ⟨fun e => by simp [bind, Except.bind], by simp [bind, Except.bind]⟩
    | none =>
      rw [Option.none_or]
      cases hs : c.step t with
      | error e₀ =>
        obtain rfl := step_okOrOverflow h hf e₀ hs
        exact .inl rfl
      | ok d => exact ih (step_tracks h hs)

end Compiler

theorem map_eq_error {ε α β : Type} {x : Except ε α} {f : α → β} {e : ε} :
    Except.map f x = .error e ↔ x = .error e := by
  cases x <;> simp [Except.map]

/-- A stream that is not blank, compiled from a start index of 1 or more, overflows the offsets, or
else it fails exactly with the first fault of its flattened tokens (a heading opened inside an
open heading, or a list item opened at list depth zero, whichever comes first) and compiles
exactly when no token has a fault. Every fault is a structural violation that names its token;
closes of any kind, matched or not, have none. -/
theorem compile_fails_at_first_fault (T : List Token) (o : CompileOptions) (h1 : 1 ≤ o.startIndex)
    (hb : Token.blankList T = false) :
    (∀ pre t e, fault pre t = some e →
      e.isStructural ∧ ∃ reason, e.message = "Structural violation at " ++ t.name ++ ": " ++ reason) ∧
    (compile T o = .error .offsetOverflow ∨
      ((∀ e, compile T o = .error e ↔ FaultsFirst (Token.flatten T) e) ∧
        ((∃ ops, compile T o = .ok ops) ↔ FaultFree (Token.flatten T)))) := by
  refine ⟨fun _ _ _ => fault_message, ?_⟩
  rw [compile_of_not_blank h1 hb]
  rcases Compiler.run_faults (Compiler.tracks_start o) (Token.flatten T) with hov | ⟨herr, hok⟩
  · exact .inl (by rw [hov]; rfl)
  · refine .inr ⟨fun e => ?_, ?_⟩
    · rw [map_eq_error, herr, firstFault_nil_eq_some_iff]
    · rw [← firstFault_nil_eq_none_iff, ← hok]
      constructor
      · rintro ⟨ops, hops⟩
        obtain ⟨d, hd, -⟩ := map_eq_ok.mp hops
        exact ⟨d, hd⟩
      · rintro ⟨d, hd⟩
        exact ⟨_, by rw [hd]; rfl⟩

/-- A list close with no list open, then a list item: the close is no fault, the item is. -/
theorem compile_fails_at_first_fault_stray_item :
    1 ≤ ({} : CompileOptions).startIndex ∧
    Token.blankList [.bulletListClose, .itemOpen, .inline [.text "a"], .itemClose] = false ∧
    ((∀ pre t e, fault pre t = some e →
      e.isStructural ∧ ∃ reason, e.message = "Structural violation at " ++ t.name ++ ": " ++ reason) ∧
    (compile [.bulletListClose, .itemOpen, .inline [.text "a"], .itemClose] {} =
        .error .offsetOverflow ∨
      ((∀ e, compile [.bulletListClose, .itemOpen, .inline [.text "a"], .itemClose] {} = .error e ↔
          FaultsFirst (Token.flatten [.bulletListClose, .itemOpen, .inline [.text "a"], .itemClose]) e) ∧
        ((∃ ops, compile [.bulletListClose, .itemOpen, .inline [.text "a"], .itemClose] {} = .ok ops) ↔
          FaultFree (Token.flatten [.bulletListClose, .itemOpen, .inline [.text "a"], .itemClose]))))) :=
  ⟨by decide, by decide, compile_fails_at_first_fault _ _ (by decide) (by decide)⟩

end DocBridge
