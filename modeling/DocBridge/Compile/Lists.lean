import DocBridge.Span
import DocBridge.Edit.Style
import DocBridge.Text.Blank

/-!
# List items and bullet ranges

Each list item is recorded with the offset where its line starts, the offset of the
newline that ends its own lines once that is known, its nesting level and its preset.
A task prefix `[ ]`, `[x]` or `[X]` followed by white space at the start of an item's
first text turns the item into a checkbox.

`mergeBulletRanges` turns the items into bullet ranges: the items with a non-empty span,
in order of their starts, each joined to the range before it when it has the same preset
and starts at most one offset after that range's end. The ranges come out with the last
first, so creating one never moves the offsets of those still to come.
-/

namespace DocBridge

/-- The kind of a list. -/
inductive ListKind where
  | bullet
  | ordered
  deriving DecidableEq, Repr, Inhabited

/-- The preset of the items of a list kind. -/
def ListKind.preset : ListKind → BulletPreset
  | .bullet => .unordered
  | .ordered => .ordered

/-- An open list: its kind and its nesting level, the number of lists open around it. -/
structure ListFrame where
  kind : ListKind
  level : Nat
  deriving DecidableEq, Repr, Inhabited

/-- A list item being compiled. -/
structure ListItem where
  start : Nat
  stop : Option Nat := none
  level : Nat
  preset : BulletPreset
  taskChecked : Bool := false
  deriving DecidableEq, Repr, Inhabited

/-- The span of an item whose end is known and lies after its start. -/
def ListItem.span? (i : ListItem) : Option Span :=
  match i.stop with
  | some e => if i.start < e then some ⟨i.start, e⟩ else none
  | none => none

/-- The text after a task prefix: a bracket holding a space, `x` or `X`, then at least one
white-space character; `none` when the text does not start with one. -/
def stripTaskPrefix (s : String) : Option String :=
  match s.toList with
  | '[' :: m :: ']' :: w :: rest =>
    if (m == ' ' || m == 'x' || m == 'X') && Text.isBlank w then
      some (String.ofList (Text.dropBlank rest))
    else none
  | _ => none

/-- A merged run of list items with one preset. -/
structure BulletRange where
  span : Span
  preset : BulletPreset
  deriving DecidableEq, Repr, Inhabited

/-- Adds a range after those already merged (the last merged one first): it joins the
last one when it has the same preset and starts at most one offset after its end. The end plus
one is compared as a number; it is an offset, below `2 ^ 64`, for ranges that end below
`maxOffset`, which every range the compiler merges does. -/
def mergeStep : List BulletRange → BulletRange → List BulletRange
  | last :: done, r =>
    if last.preset == r.preset && r.span.start ≤ last.span.stop + 1 then
      { last with span := ⟨last.span.start, max last.span.stop r.span.stop⟩ } :: done
    else r :: last :: done
  | [], r => [r]

/-- The bullet ranges of the items, the last one first. -/
def mergeBulletRanges (items : List ListItem) : List BulletRange :=
  let valid := items.filterMap fun i => i.span?.map fun s => BulletRange.mk s i.preset
  let sorted := valid.mergeSort fun a b => a.span.start ≤ b.span.start
  let merged := (sorted.foldl mergeStep []).reverse
  merged.mergeSort fun a b => b.span.start ≤ a.span.start

end DocBridge
