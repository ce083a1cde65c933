import DocBridge.Proofs.Batch.Plan

/-!
# The summary of a plan

`BatchSummary.ofBatches` counts the batches of a plan and adds up, phase by phase, the lengths
of their operation lists. On the plan of a list of operations it reads the list back: the
batches of a phase hold exactly that phase's operations (`phaseCount_planBatches`), so the
summary has as many deletions, insertions and style operations as the list, as many batches as
the phases' `⌈k / size⌉` add up to, and every operation once (`length_phaseOps_add`).
`summary_planBatches` puts these together, with the sentence the summary prints.
-/

namespace DocBridge

/-- What the summary adds up for a phase: the lengths of the operation lists of its batches. -/
def phaseCount (bs : List Batch) (p : Phase) : Nat :=
  (bs.filter (·.phase == p)).foldl (· + ·.operations.length) 0

theorem ofBatches_eq (bs : List Batch) :
    BatchSummary.ofBatches bs =
      ⟨bs.length, phaseCount bs .delete, phaseCount bs .insert, phaseCount bs .style⟩ := rfl

/-- Adding up the lengths of the operation lists counts the operations of all of them. -/
theorem foldl_add_length (bs : List Batch) (n : Nat) :
    bs.foldl (· + ·.operations.length) n = n + (bs.flatMap Batch.operations).length := by
  induction bs generalizing n with
  | nil => simp
  | cons b bs ih =>
    rw [List.foldl_cons, ih, List.flatMap_cons, List.length_append]
    omega

/-- The batches of one phase, tagged with it, are kept whole by a filter on their phase and
dropped whole by a filter on another. -/
theorem filter_map_mk (p q : Phase) (ys : List (List EditOperation)) :
    (ys.map (Batch.mk q)).filter (·.phase == p) = if q = p then ys.map (Batch.mk q) else [] := by
  split
  · rename_i h
    subst h
    exact List.filter_eq_self.mpr (by simp)
  · rename_i h
    exact List.filter_eq_nil_iff.mpr (by simpa using fun _ _ => h)

/-- The batches of phase `p` in the plan hold its operations, so the summary counts them. -/
theorem phaseCount_planBatches (ops : List EditOperation) (m : Nat) (p : Phase) :
    phaseCount (planBatches ops m) p = (phaseOps ops p).length := by
  have hp : (planBatches ops m).filter (·.phase == p) =
      (chunks (max m 1) (phaseOps ops p)).map (Batch.mk p) := by
    rw [planBatches_eq, List.filter_append, List.filter_append, filter_map_mk, filter_map_mk,
      filter_map_mk]
    cases p <;> simp
  rw [phaseCount, hp, foldl_add_length, List.flatMap_map, List.flatMap_id', flatten_chunks,
    Nat.zero_add]

/-- Every operation belongs to one phase, so the phases' operations add up to the list. -/
theorem length_phaseOps_add (ops : List EditOperation) :
    (phaseOps ops .delete).length + (phaseOps ops .insert).length +
      (phaseOps ops .style).length = ops.length := by
  induction ops with
  | nil => rfl
  | cons op ops ih =>
    simp only [phaseOps, List.filter_cons, List.length_cons] at ih ⊢
    cases h : Phase.of op <;> simp <;> omega

/-- The summary of the plan of `ops` with batch size `m` reads `ops` back: its deletions,
insertions and style operations, the `⌈k / size⌉` batches of each phase added up, and all of
its operations, in the sentence
`"<ops> operations in <batches> batches (<deletes> delete, <inserts> insert, <styles> style)"`. -/
theorem summary_planBatches (ops : List EditOperation) (m : Nat) :
    BatchSummary.ofBatches (planBatches ops m) =
      ⟨(phaseOps ops .delete).length ⌈/⌉ max m 1 + (phaseOps ops .insert).length ⌈/⌉ max m 1 +
          (phaseOps ops .style).length ⌈/⌉ max m 1,
        (phaseOps ops .delete).length, (phaseOps ops .insert).length,
        (phaseOps ops .style).length⟩ ∧
    (BatchSummary.ofBatches (planBatches ops m)).operations = ops.length ∧
    (BatchSummary.ofBatches (planBatches ops m)).text =
      toString ops.length ++ " operations in " ++
        toString ((phaseOps ops .delete).length ⌈/⌉ max m 1 +
          (phaseOps ops .insert).length ⌈/⌉ max m 1 +
          (phaseOps ops .style).length ⌈/⌉ max m 1) ++ " batches (" ++
        toString (phaseOps ops .delete).length ++ " delete, " ++
        toString (phaseOps ops .insert).length ++ " insert, " ++
        toString (phaseOps ops .style).length ++ " style)" := by
  have hsummary : BatchSummary.ofBatches (planBatches ops m) =
      ⟨(phaseOps ops .delete).length ⌈/⌉ max m 1 + (phaseOps ops .insert).length ⌈/⌉ max m 1 +
          (phaseOps ops .style).length ⌈/⌉ max m 1,
        (phaseOps ops .delete).length, (phaseOps ops .insert).length,
        (phaseOps ops .style).length⟩ := by
    rw [ofBatches_eq, phaseCount_planBatches, phaseCount_planBatches, phaseCount_planBatches,
      (planBatches_eq_phase_chunks ops m).2.2.2.2]
  have hops : (BatchSummary.ofBatches (planBatches ops m)).operations = ops.length := by
    rw [hsummary, BatchSummary.operations, length_phaseOps_add]
  refine ⟨hsummary, hops, ?_⟩
  rw [BatchSummary.text, hops, hsummary]

end DocBridge
