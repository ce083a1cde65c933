import DocBridge.Proofs.Compile.Insertions
import DocBridge.Batch

/-!
# Batches keep the order of a compilation

Operations are sent in phases, every deletion first, then every insertion, then every style
and bullet operation (`planBatches`), each phase cut into batches of a bounded size. Grouping
by phase moves an operation past those of other phases, while every offset the compiler
computes assumes that the operations before it have run: batching is sound only for a list
that is already in phase order.

`flatMap_planBatches` says what the batches hold: the operations of each phase in turn, each
phase in its own order, since a list cut into chunks joins back to itself (`flatten_chunks`).
A list in phase order (`PhaseOrdered`: deletions, then insertions, then the rest) therefore
comes back unchanged (`PhaseOrdered.flatMap_planBatches`).

`compile_batches_keep_order` is the result: a compilation inserts all its text before it styles
any of it, and a replacement deletes the old body before that, so joining the batches of either
gives back its operations exactly, whatever the batch size.
-/

namespace DocBridge

/-! ## Chunks -/

section Chunks

variable {α : Type}

theorem flatten_chunks_go (n : Nat) : ∀ xs : List α, (chunks.go n xs).flatten = xs
  | [] => by simp [chunks.go]
  | x :: xs => by
    rw [chunks.go, List.flatten_cons, flatten_chunks_go n (xs.drop (n - 1)), List.cons_append,
      List.take_append_drop]
termination_by xs => xs.length
decreasing_by simp only [List.length_drop, List.length_cons]; omega

/-- A list cut into chunks joins back to itself. -/
theorem flatten_chunks (n : Nat) (xs : List α) : (chunks n xs).flatten = xs := by
  unfold chunks
  split
  · simp
  · exact flatten_chunks_go n xs

end Chunks

/-! ## Lists in phase order -/

/-- The batches hold the deletions, then the insertions, then the other operations, each in the
order of the list. -/
theorem flatMap_planBatches (ops : List EditOperation) (m : Nat) :
    (planBatches ops m).flatMap Batch.operations =
      [Phase.delete, .insert, .style].flatMap fun p => ops.filter (Phase.of · == p) := by
  simp [planBatches, List.flatMap_map, List.flatMap_id', flatten_chunks]

/-- Deletions, then insertions, then styles. -/
def PhaseOrdered (ops : List EditOperation) : Prop :=
  ∃ dels ins rest, ops = dels ++ ins ++ rest ∧ (∀ op ∈ dels, Phase.of op = .delete) ∧
    (∀ op ∈ ins, Phase.of op = .insert) ∧ ∀ op ∈ rest, Phase.of op = .style

theorem filter_phase_of_forall {l : List EditOperation} {q : Phase}
    (h : ∀ op ∈ l, Phase.of op = q) (p : Phase) :
    l.filter (Phase.of · == p) = if q = p then l else [] := by
  split
  · subst_vars
    exact List.filter_eq_self.mpr fun op hop => by simp [h op hop]
  · exact List.filter_eq_nil_iff.mpr fun op hop => by simp [h op hop, *]

/-- Batching a list in phase order moves nothing. -/
theorem PhaseOrdered.flatMap_planBatches {ops : List EditOperation} (h : PhaseOrdered ops)
    (m : Nat) : (planBatches ops m).flatMap Batch.operations = ops := by
  obtain ⟨dels, ins, rest, rfl, hd, hi, hr⟩ := h
  simp [DocBridge.flatMap_planBatches, List.filter_append, filter_phase_of_forall hd,
    filter_phase_of_forall hi, filter_phase_of_forall hr]

/-! ## Compilations are in phase order -/

theorem phase_of_mem_placeTexts {i : Nat} {tab : Option String} {texts : List String}
    {op : EditOperation} (h : op ∈ placeTexts i tab texts) : Phase.of op = .insert := by
  induction texts generalizing i with
  | nil => simp [placeTexts] at h
  | cons s ss ih =>
    rcases List.mem_cons.mp h with rfl | h
    · rfl
    · exact ih h

/-- Every operation `finish` adds after the insertions styles text. -/
theorem Compiler.finish_rest_style (c : Compiler) :
    ∃ rest, c.finish = c.inserts.toList ++ rest ∧ ∀ op ∈ rest, Phase.of op = .style := by
  refine ⟨_, by simp only [finish, List.append_assoc]; rfl, ?_⟩
  intro op hop
  simp only [List.mem_append, List.mem_flatMap, List.mem_map] at hop
  rcases hop with ⟨r, -, hr⟩ | ⟨x, -, rfl⟩ | ⟨x, -, rfl⟩ | ⟨x, -, rfl⟩
  · rcases hr with hr | hr
    · split at hr <;> simp at hr
      subst hr; rfl
    · split at hr <;> simp at hr
      subst hr; rfl
  all_goals rfl

/-- A compilation inserts, then styles. -/
theorem compile_inserts_then_styles {T : List Token} {o : CompileOptions} {ops : List EditOperation}
    (h : compile T o = .ok ops) : ∃ ins rest, ops = ins ++ rest ∧
      (∀ op ∈ ins, Phase.of op = .insert) ∧ ∀ op ∈ rest, Phase.of op = .style := by
  unfold compile at h
  split at h
  · cases h
  split at h
  · cases h
    exact ⟨[], [], rfl, by simp, by simp⟩
  obtain ⟨c, hrun, rfl⟩ := map_eq_ok.mp h
  obtain ⟨-, texts, -, hins, -⟩ := Compiler.run_grows hrun
  obtain ⟨rest, hfin, hrest⟩ := c.finish_rest_style
  have hstart : (Compiler.start o).inserts.toList = [] := rfl
  rw [hstart, List.nil_append] at hins
  exact ⟨_, rest, hfin.trans (by rw [hins]), fun op hop => phase_of_mem_placeTexts hop, hrest⟩

/-- Joining the batches of a compilation, or of a replacement, gives back its operations in
their order, for every batch size: sending the phases one after another runs the operations
exactly as the compiler emitted them. -/
theorem compile_batches_keep_order (T : List Token) (o : CompileOptions) (m : Nat) :
    (∀ ops, compile T o = .ok ops → (planBatches ops m).flatMap Batch.operations = ops) ∧
    ∀ e ops, compileReplacement T e o = .ok ops →
      (planBatches ops m).flatMap Batch.operations = ops := by
  refine ⟨fun ops h => ?_, fun e ops h => ?_⟩
  · obtain ⟨ins, rest, rfl, hi, hr⟩ := compile_inserts_then_styles h
    exact PhaseOrdered.flatMap_planBatches ⟨[], ins, rest, rfl, by simp, hi, hr⟩ m
  · obtain ⟨ops', hc, rfl⟩ := map_eq_ok.mp h
    obtain ⟨ins, rest, rfl, hi, hr⟩ := compile_inserts_then_styles hc
    refine PhaseOrdered.flatMap_planBatches ⟨_, ins, rest, (List.append_assoc ..).symm, ?_, hi, hr⟩ m
    intro op hop
    split at hop
    · simp at hop
    · rw [List.mem_singleton.mp hop]; rfl

/-- A bold paragraph replacing a body that ends at 7, sent in batches of two. -/
theorem compile_batches_keep_order_bold :
    compileReplacement [.paragraphOpen, .inline [.strongOpen, .text "a", .strongClose],
        .paragraphClose] 7 {} =
      .ok [.deleteContentRange ⟨⟨1, 6⟩, none⟩, .insertText 1 "a" none, .insertText 2 "\n" none,
        .updateTextStyle ⟨⟨1, 2⟩, none⟩ { bold := true }] ∧
    (planBatches [.deleteContentRange ⟨⟨1, 6⟩, none⟩, .insertText 1 "a" none,
        .insertText 2 "\n" none, .updateTextStyle ⟨⟨1, 2⟩, none⟩ { bold := true }] 2).flatMap
        Batch.operations =
      [.deleteContentRange ⟨⟨1, 6⟩, none⟩, .insertText 1 "a" none, .insertText 2 "\n" none,
        .updateTextStyle ⟨⟨1, 2⟩, none⟩ { bold := true }] := by
  have hr := eq_ok_of_toOption (by decide +kernel : (compileReplacement
    [.paragraphOpen, .inline [.strongOpen, .text "a", .strongClose], .paragraphClose] 7
    {}).toOption = some [.deleteContentRange ⟨⟨1, 6⟩, none⟩, .insertText 1 "a" none,
      .insertText 2 "\n" none, .updateTextStyle ⟨⟨1, 2⟩, none⟩ { bold := true }])
  exact ⟨hr, (compile_batches_keep_order _ {} 2).2 7 _ hr⟩

end DocBridge
