import DocBridge.Proofs.Compile.Formatting

/-!
# One stack of marks is four stacks of kinds

The compiler keeps its open inline marks on one stack, innermost first. An open pushes a mark;
a close of a kind takes out the innermost mark of that kind, wherever it sits, and does nothing
when none is open (`MarkStack.pop?`, `MarkStack.pop`). This file shows that the shared stack
is four independent stacks side by side, one per kind of mark.

`MarkStack.ofKind` reads the marks of one kind off the stack, innermost first. An operation
changes only its own kind's marks, and changes them as a push or a pop of a plain stack
(`ofKind_apply`), so after any run of operations the marks of each kind are what that kind's
operations alone leave on a plain stack (`ofKind_run`). A close finds a mark exactly when its
kind's stack is not empty (`isSome_pop?`), and then takes out the innermost mark of its kind,
the other marks staying in order (`pop?_eq_some_iff`). The format in effect reads each of its
fields off one kind's stack (`InlineFormat.Reads`, `reads_snapshot`): a flag is set while a
mark of its kind is open, and the link is the url of the innermost link mark.
`run_by_kind` puts these together for runs from the empty stack.
-/

namespace DocBridge

/-- An operation on the stack of open marks: an inline open pushes a mark, an inline close
pops a kind. -/
inductive MarkOp where
  | push (m : Mark)
  | pop (k : MarkKind)
  deriving DecidableEq, Repr

namespace MarkOp

/-- The kind of mark an operation works on. -/
def kind : MarkOp → MarkKind
  | .push m => m.kind
  | .pop k => k

/-- The operation on a plain stack of marks, innermost first: a push puts a mark on top and a
pop takes the top one away, if there is one. -/
def onTop (s : List Mark) : MarkOp → List Mark
  | .push m => m :: s
  | .pop _ => s.tail

end MarkOp

/-- The field of a format that the marks of kind `k` decide, read off a stack of such marks,
innermost first: a flag is set when the stack is not empty, and the link is the url of the
innermost mark. -/
def InlineFormat.Reads (f : InlineFormat) (k : MarkKind) (marks : List Mark) : Prop :=
  match k with
  | .bold => f.bold = !marks.isEmpty
  | .italic => f.italic = !marks.isEmpty
  | .strike => f.strike = !marks.isEmpty
  | .link => f.link = marks.head?.bind Mark.url?

namespace MarkStack

/-- An operation applied to the stack of open marks. -/
def apply (s : MarkStack) : MarkOp → MarkStack
  | .push m => s.push m
  | .pop k => s.pop k

/-- The open marks of one kind, innermost first. -/
def ofKind (s : MarkStack) (k : MarkKind) : List Mark := s.filter (·.kind == k)

@[simp] theorem ofKind_nil (k : MarkKind) : ofKind [] k = [] := rfl

theorem ofKind_cons (m : Mark) (s : MarkStack) (k : MarkKind) :
    ofKind (m :: s) k = if m.kind = k then m :: ofKind s k else ofKind s k := by
  by_cases h : m.kind = k <;> simp [ofKind, h]

/-! ## Each kind on its own stack -/

/-- A close takes the innermost mark of its kind off that kind's stack, and leaves the stacks
of the other kinds alone. A mark outside the one taken out stays on its kind's stack. -/
theorem ofKind_pop (s : MarkStack) (k' k : MarkKind) :
    ofKind (s.pop k') k = if k' = k then (ofKind s k).tail else ofKind s k := by
  induction s with
  | nil => simp [pop_nil]
  | cons m s ih =>
    by_cases hm : m.kind = k'
    · rw [pop_cons_of_kind hm, ofKind_cons]
      subst hm
      by_cases hk : m.kind = k <;> simp [hk]
    · rw [pop_cons_of_ne hm, ofKind_cons, ofKind_cons, ih]
      by_cases hk : m.kind = k
      · subst hk
        simp [Ne.symm hm]
      · simp [hk]

/-- An operation changes only its own kind's marks, as the same operation on a plain stack. -/
theorem ofKind_apply (s : MarkStack) (op : MarkOp) (k : MarkKind) :
    ofKind (s.apply op) k = if op.kind = k then op.onTop (ofKind s k) else ofKind s k := by
  cases op with
  | push m => by_cases h : m.kind = k <;> simp [apply, push, MarkOp.kind, MarkOp.onTop, ofKind_cons, h]
  | pop k' =>
    rw [apply, ofKind_pop]
    by_cases h : k' = k <;> simp [MarkOp.kind, MarkOp.onTop, h]

/-- After a run, the marks of each kind are what that kind's operations alone leave on a plain
stack. -/
theorem ofKind_run (ops : List MarkOp) (s : MarkStack) (k : MarkKind) :
    ofKind (ops.foldl apply s) k = (ops.filter (·.kind == k)).foldl MarkOp.onTop (ofKind s k) := by
  induction ops generalizing s with
  | nil => rfl
  | cons op ops ih =>
    rw [List.foldl_cons, ih, ofKind_apply]
    by_cases h : op.kind = k <;> simp [h]

/-! ## What a close takes out -/

/-- A close finds a mark exactly when one of its kind is open. -/
theorem isSome_pop? (s : MarkStack) (k : MarkKind) : (s.pop? k).isSome = !(ofKind s k).isEmpty := by
  induction s with
  | nil => rfl
  | cons m s ih => by_cases h : m.kind = k <;> simp [pop?, ofKind_cons, h, ih]

/-- A close takes out exactly the innermost mark of its kind: the marks inside it, none of its
kind, and the marks outside it stay, in their order. -/
theorem pop?_eq_some_iff {s s' : MarkStack} {k : MarkKind} :
    s.pop? k = some s' ↔ ∃ pre m post, s = pre ++ m :: post ∧ m.kind = k ∧
      (∀ x ∈ pre, x.kind ≠ k) ∧ s' = pre ++ post := by
  induction s generalizing s' with
  | nil => simp [pop?]
  | cons x s ih =>
    by_cases hx : x.kind = k
    · rw [pop?, if_pos (by simpa using hx), Option.some.injEq]
      constructor
      · rintro rfl
        exact ⟨[], x, s, rfl, hx, by simp, rfl⟩
      · rintro ⟨pre, m, post, hs, -, hpre, rfl⟩
        cases pre with
        | nil =>
          obtain ⟨-, rfl⟩ := List.cons.inj hs
          rfl
        | cons y pre =>
          obtain ⟨rfl, -⟩ := List.cons.inj hs
          exact absurd hx (hpre _ List.mem_cons_self)
    · rw [pop?, if_neg (by simpa using hx), Option.map_eq_some_iff]
      constructor
      · rintro ⟨t, ht, rfl⟩
        obtain ⟨pre, m, post, rfl, hm, hpre, rfl⟩ := ih.mp ht
        refine ⟨x :: pre, m, post, rfl, hm, fun y hy => ?_, rfl⟩
        rcases List.mem_cons.mp hy with rfl | hy
        · exact hx
        · exact hpre y hy
      · rintro ⟨pre, m, post, hs, hm, hpre, rfl⟩
        cases pre with
        | nil =>
          obtain ⟨rfl, -⟩ := List.cons.inj hs
          exact absurd hm hx
        | cons y pre =>
          obtain ⟨rfl, rfl⟩ := List.cons.inj hs
          exact ⟨pre ++ post, ih.mpr ⟨pre, m, post, rfl, hm,
            fun z hz => hpre z (List.mem_cons_of_mem _ hz), rfl⟩, rfl⟩

/-! ## The format in effect -/

theorem any_kind_eq_ofKind (s : MarkStack) (k : MarkKind) :
    s.any (·.kind == k) = !(ofKind s k).isEmpty := by
  induction s with
  | nil => rfl
  | cons m s ih => by_cases h : m.kind = k <;> simp [ofKind_cons, h, ih]

theorem innermostLink_eq_ofKind (s : MarkStack) :
    innermostLink s = (ofKind s .link).head?.bind Mark.url? := by
  induction s with
  | nil => rfl
  | cons m s ih => cases m <;> simp [innermostLink, ofKind_cons, Mark.kind, Mark.url?, ih]

/-- Each field of the format in effect is read off the marks of its own kind. -/
theorem reads_snapshot (s : MarkStack) (k : MarkKind) : s.snapshot.Reads k (ofKind s k) := by
  cases k
  case link => exact innermostLink_eq_ofKind s
  all_goals exact any_kind_eq_ofKind s _

end MarkStack

open MarkStack in
/-- Any sequence of opens and closes, run from the empty stack, behaves as four stacks, one per
kind of mark, each seeing only the operations of its own kind (`own`): the marks of kind `k`
are `own`; a close of `k` finds a mark exactly when `own` is not empty, and takes out the
innermost mark of kind `k`, leaving every other mark in its order; the field of the format in
effect that kind `k` decides is read off `own`; and one more operation changes that field only
through its effect on `own`, so an operation of another kind leaves it as it was. -/
theorem run_by_kind (ops : List MarkOp) (k : MarkKind) :
    (ops.foldl apply []).ofKind k = (ops.filter (·.kind == k)).foldl MarkOp.onTop [] ∧
    ((ops.foldl apply []).pop? k).isSome =
      !((ops.filter (·.kind == k)).foldl MarkOp.onTop []).isEmpty ∧
    (∀ s', (ops.foldl apply []).pop? k = some s' ↔ ∃ pre m post,
      ops.foldl apply [] = pre ++ m :: post ∧ m.kind = k ∧ (∀ x ∈ pre, x.kind ≠ k) ∧
        s' = pre ++ post) ∧
    (ops.foldl apply []).snapshot.Reads k ((ops.filter (·.kind == k)).foldl MarkOp.onTop []) ∧
    ∀ op, ((ops.foldl apply []).apply op).snapshot.Reads k
      (if op.kind = k then op.onTop ((ops.filter (·.kind == k)).foldl MarkOp.onTop [])
        else (ops.filter (·.kind == k)).foldl MarkOp.onTop []) := by
  have hown := ofKind_run ops [] k
  rw [ofKind_nil] at hown
  refine ⟨hown, by rw [isSome_pop?, hown], fun s' => pop?_eq_some_iff, hown ▸ reads_snapshot _ k,
    fun op => ?_⟩
  rw [← hown, ← ofKind_apply]
  exact reads_snapshot _ k

end DocBridge
