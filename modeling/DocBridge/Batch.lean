import DocBridge.Edit.Operation

/-!
# Batches

Operations are sent in three phases: every deletion, then every insertion, then every
style and bullet operation. Later phases address offsets that assume the earlier ones
are done, so phases never interleave, and inside a phase the operations keep their
order. Each phase is cut into batches of at most the given size (a size of 0 counts as
1). The summary counts the batches and the operations of each phase.
-/

namespace DocBridge

/-- The phase of a batch. -/
inductive Phase where
  | delete
  | insert
  | style
  deriving DecidableEq, Repr, Inhabited

/-- The wire name of a phase. -/
def Phase.name : Phase → String
  | .delete => "delete"
  | .insert => "insert"
  | .style => "style"

/-- The phase an operation belongs to. -/
def Phase.of : EditOperation → Phase
  | .deleteContentRange _ => .delete
  | .insertText .. => .insert
  | _ => .style

/-- Operations of one phase sent together. -/
structure Batch where
  phase : Phase
  operations : List EditOperation
  deriving Repr, Inhabited

/-- A list cut into consecutive pieces of `size` elements, the last possibly shorter;
`size` must be positive for the pieces to shrink the list. -/
def chunks {α : Type} (size : Nat) (xs : List α) : List (List α) :=
  if size = 0 then [xs] else go xs
where
  go : List α → List (List α)
    | [] => []
    | x :: rest => (x :: rest.take (size - 1)) :: go (rest.drop (size - 1))
  termination_by xs => xs.length
  decreasing_by simp only [List.length_drop, List.length_cons]; omega

/-- The batches of a list of operations: each phase in turn, cut into pieces of at most
`maxSize` (at least one). -/
def planBatches (ops : List EditOperation) (maxSize : Nat) : List Batch :=
  let size := max maxSize 1
  [Phase.delete, .insert, .style].flatMap fun p =>
    (chunks size (ops.filter (Phase.of · == p))).map (Batch.mk p)

/-- How many batches there are and how many operations each phase has. -/
structure BatchSummary where
  batches : Nat
  deletes : Nat
  inserts : Nat
  styles : Nat
  deriving DecidableEq, Repr, Inhabited

namespace BatchSummary

/-- The summary of a list of batches. -/
def ofBatches (bs : List Batch) : BatchSummary :=
  let count (p : Phase) := (bs.filter (·.phase == p)).foldl (· + ·.operations.length) 0
  ⟨bs.length, count .delete, count .insert, count .style⟩

/-- All operations of the batches. -/
def operations (s : BatchSummary) : Nat := s.deletes + s.inserts + s.styles

/-- The summary as a sentence. -/
def text (s : BatchSummary) : String :=
  toString s.operations ++ " operations in " ++ toString s.batches ++ " batches (" ++
    toString s.deletes ++ " delete, " ++ toString s.inserts ++ " insert, " ++
    toString s.styles ++ " style)"

end BatchSummary

end DocBridge
