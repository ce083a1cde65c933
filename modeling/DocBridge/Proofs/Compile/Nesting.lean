import DocBridge.Proofs.Compile.Step

/-!
# Well-nested token streams

A tokenizer hands the compiler a tree flattened to a stream: every open token is closed by
the close token of its kind, in the reverse order of opening, and a list item opens only
directly inside a list. `nest` walks the flat stream (inline groups expanded) over the stack
of open containers, innermost first, and fails on a close that does not match the innermost
container or on an item outside a list; `WellNested` says the walk ends with every container
closed.

`run_lockstep` runs a walk such as `nest` and the compiler in lockstep: an invariant of the
walk's state and the compiler state that each token keeps holds after the whole stream.
`itemOnTop` reads the stack from the innermost container: an item comes before any list.
-/

namespace DocBridge

/-- The kinds of container that tokens open and close. -/
inductive Container where
  | heading
  | paragraph
  | strong
  | em
  | strike
  | link
  | bulletList
  | orderedList
  | item
  | quote
  | table
  | row
  | cell
  deriving DecidableEq, Repr

/-- A bullet or ordered list. -/
def Container.isList : Container → Bool
  | .bulletList | .orderedList => true
  | _ => false

namespace Token

/-- The container a token opens. -/
def opens : Token → Option Container
  | .headingOpen _ => some .heading
  | .paragraphOpen => some .paragraph
  | .strongOpen => some .strong
  | .emOpen => some .em
  | .strikeOpen => some .strike
  | .linkOpen _ => some .link
  | .bulletListOpen => some .bulletList
  | .orderedListOpen => some .orderedList
  | .itemOpen => some .item
  | .quoteOpen => some .quote
  | .tableOpen => some .table
  | .rowOpen => some .row
  | .cellOpen => some .cell
  | _ => none

/-- The container a token closes. -/
def closes : Token → Option Container
  | .headingClose => some .heading
  | .paragraphClose => some .paragraph
  | .strongClose => some .strong
  | .emClose => some .em
  | .strikeClose => some .strike
  | .linkClose => some .link
  | .bulletListClose => some .bulletList
  | .orderedListClose => some .orderedList
  | .itemClose => some .item
  | .quoteClose => some .quote
  | .tableClose => some .table
  | .rowClose => some .row
  | .cellClose => some .cell
  | _ => none

end Token

/-- One token of the walk over the open containers, innermost first: an open token pushes its
container (an item only directly inside a list), a close token pops the innermost container,
which must be of its kind, and any other token leaves the stack alone. -/
def nest (s : List Container) (t : Token) : Option (List Container) :=
  match t.opens, t.closes with
  | some .item, _ => if (s.head?.map Container.isList) = some true then some (.item :: s) else none
  | some k, _ => some (k :: s)
  | none, some k =>
    match s with
    | k' :: s' => if k' = k then some s' else none
    | [] => none
  | none, none => some s

/-- Every container of the stream is closed by a token of its kind, in the reverse order of
opening, and every item opens directly inside a list. -/
def WellNested (T : List Token) : Prop :=
  (Token.flatten T).foldlM nest [] = some []

instance (T : List Token) : Decidable (WellNested T) :=
  inferInstanceAs (Decidable (_ = _))

/-- Looking from the innermost container, an item comes before any list: the innermost open
item has no list open inside it. -/
def itemOnTop : List Container → Bool
  | [] => false
  | .item :: _ => true
  | k :: s => !k.isList && itemOnTop s

@[simp] theorem itemOnTop_item (s : List Container) : itemOnTop (.item :: s) = true := rfl

theorem itemOnTop_cons {k : Container} {s : List Container} (hk : k ≠ .item) :
    itemOnTop (k :: s) = (!k.isList && itemOnTop s) := by
  cases k <;> first | rfl | exact absurd rfl hk

theorem itemOnTop_of_isList {k : Container} {s : List Container} (hk : k.isList = true) :
    itemOnTop (k :: s) = false := by
  cases k <;> simp_all [Container.isList, itemOnTop]

/-! ## One token of the walk -/

section

variable {s s' : List Container} {t : Token} {k : Container}

theorem Token.opens_of_isListToken (ht : t.isListToken = false) (ho : t.opens = some k) :
    k ≠ .item ∧ k.isList = false := by
  cases t <;> simp only [Token.opens, Token.isListToken, reduceCtorEq, Option.some.injEq] at ht ho <;>
    subst ho <;> decide

theorem Token.closes_of_isListToken (ht : t.isListToken = false) (hc : t.closes = some k) :
    k ≠ .item ∧ k.isList = false := by
  cases t <;> simp only [Token.closes, Token.isListToken, reduceCtorEq, Option.some.injEq] at ht hc <;>
    subst hc <;> decide

theorem nest_of_opens (ho : t.opens = some k) (hk : k ≠ .item) : nest s t = some (k :: s) := by
  unfold nest
  rw [ho]
  cases k <;> first | rfl | exact absurd rfl hk

theorem nest_of_closes (ho : t.opens = none) (hc : t.closes = some k) :
    nest s t = some s' ↔ s = k :: s' := by
  unfold nest
  rw [ho, hc]
  cases s with
  | nil => simp
  | cons k' rest => by_cases h : k' = k <;> simp [h]

theorem nest_of_neither (ho : t.opens = none) (hc : t.closes = none) : nest s t = some s := by
  unfold nest
  rw [ho, hc]

/-- A token that opens or closes no list or item leaves the innermost item as it was. -/
theorem itemOnTop_nest (h : nest s t = some s') (ht : t.isListToken = false) :
    itemOnTop s' = itemOnTop s := by
  rcases ho : t.opens with _ | k
  · rcases hc : t.closes with _ | k
    · rw [nest_of_neither ho hc] at h
      cases h
      rfl
    · obtain ⟨hki, hkl⟩ := Token.closes_of_isListToken ht hc
      obtain rfl := (nest_of_closes ho hc).mp h
      rw [itemOnTop_cons hki, hkl, Bool.not_false, Bool.true_and]
  · obtain ⟨hki, hkl⟩ := Token.opens_of_isListToken ht ho
    rw [nest_of_opens ho hki] at h
    cases h
    rw [itemOnTop_cons hki, hkl, Bool.not_false, Bool.true_and]

/-- An item opens only directly inside a list. -/
theorem nest_itemOpen_head (h : nest s .itemOpen = some s') :
    s' = .item :: s ∧ ∃ k rest, s = k :: rest ∧ k.isList = true := by
  simp only [nest, Token.opens, Token.closes] at h
  split at h
  · rename_i hl
    refine ⟨(Option.some.inj h).symm, ?_⟩
    match s, hl with
    | k :: rest, hl => exact ⟨k, rest, rfl, by simpa using hl⟩
  · cases h

theorem nest_itemOpen (h : nest s .itemOpen = some s') :
    s' = .item :: s ∧ itemOnTop s = false := by
  obtain ⟨rfl, k, rest, rfl, hk⟩ := nest_itemOpen_head h
  exact ⟨rfl, itemOnTop_of_isList hk⟩

theorem nest_itemClose (h : nest s .itemClose = some s') : s = .item :: s' :=
  (nest_of_closes rfl rfl).mp h

theorem nest_listClose (ht : t = .bulletListClose ∨ t = .orderedListClose)
    (h : nest s t = some s') : itemOnTop s = false := by
  rcases ht with rfl | rfl
  · rw [(nest_of_closes rfl rfl).mp h]
    exact itemOnTop_of_isList rfl
  · rw [(nest_of_closes rfl rfl).mp h]
    exact itemOnTop_of_isList rfl

end

/-- A walk and the compiler in lockstep: what every token keeps of the pair of the walk's state
and the compiler state, the whole stream keeps. -/
theorem run_lockstep {σ : Type} (g : σ → Token → Option σ) (P : σ → Compiler → Prop)
    (hstep : ∀ s c t s' c', P s c → g s t = some s' → c.step t = .ok c' → P s' c') :
    ∀ {ts : List Token} {s s' : σ} {c c' : Compiler}, P s c →
      ts.foldlM g s = some s' → ts.foldlM Compiler.step c = .ok c' → P s' c'
  | [], s, s', c, c', hP, hs, hc => by
    simp only [List.foldlM_nil, pure_eq_ok] at hc
    cases hs
    cases hc
    exact hP
  | t :: ts, s, s', c, c', hP, hs, hc => by
    rw [List.foldlM_cons, bind_eq_ok] at hc
    obtain ⟨c₁, h₁, h₂⟩ := hc
    rw [List.foldlM_cons] at hs
    obtain ⟨s₁, hs₁, hs₂⟩ := Option.bind_eq_some_iff.mp hs
    exact run_lockstep g P hstep (hstep s c t s₁ c₁ hP hs₁ h₁) hs₂ h₂

end DocBridge
