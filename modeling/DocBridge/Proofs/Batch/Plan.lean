import DocBridge.Proofs.Compile.Phases

/-!
# The batches of a plan

`planBatches` sends a list of operations in three phases, every deletion, then every insertion,
then every style and bullet operation, and cuts each phase into batches of at most the batch
size, a size of 0 counting as 1. This file says what the plan is, batch by batch.

`Chunking size xs ys` says that `ys` cuts `xs` into pieces of `size`: joined, the pieces give
back `xs`, none is empty or longer than `size`, and every piece but the last holds exactly
`size` elements. A list has one such cutting (`Chunking.unique`, from `Chunking.head`: the
first piece is the first `size` elements), `chunks` finds it (`chunking_chunks`), and it has
`⌈|xs| / size⌉` pieces (`length_chunks`).

`planBatches_eq_phase_chunks` is the result: the plan is the cutting of each phase's
operations (`phaseOps`), phase after phase, each piece tagged with its phase. Its batches
therefore hold every operation once, deletions first, then insertions, then styles, each phase
in the order of the list; every batch belongs to one phase and holds between one operation and
the batch size; and each phase `p` has `⌈|phaseOps p| / size⌉` batches, one block of them after
the other.
-/

namespace DocBridge

/-! ## Cutting a list into pieces -/

section Chunks

variable {α : Type} {n : Nat} {x : α} {xs : List α} {y : List α} {ys zs : List (List α)}

/-- `ys` cuts `xs` into pieces of `size`: joined they give `xs`, every piece holds between one
and `size` elements, and every piece but the last holds `size`. -/
def Chunking (size : Nat) (xs : List α) (ys : List (List α)) : Prop :=
  ys.flatten = xs ∧ (∀ y ∈ ys, y ≠ [] ∧ y.length ≤ size) ∧ ∀ y ∈ ys.dropLast, y.length = size

/-- A piece in front of a cutting makes a cutting, if it is full or the cutting is empty. -/
theorem Chunking.cons (hy : y ≠ []) (hle : y.length ≤ n) (hfull : ys ≠ [] → y.length = n)
    (h : Chunking n xs ys) : Chunking n (y ++ xs) (y :: ys) := by
  obtain ⟨hflat, hpieces, hlast⟩ := h
  refine ⟨by rw [List.flatten_cons, hflat], ?_, ?_⟩
  · intro z hz
    rcases List.mem_cons.mp hz with rfl | hz
    · exact ⟨hy, hle⟩
    · exact hpieces z hz
  · intro z hz
    by_cases hne : ys = []
    · subst hne
      simp at hz
    · rw [List.dropLast_cons_of_ne_nil hne] at hz
      rcases List.mem_cons.mp hz with rfl | hz
      · exact hfull hne
      · exact hlast z hz

/-- The pieces after the first cut what they join to. -/
theorem Chunking.tail (h : Chunking n xs (y :: ys)) : Chunking n ys.flatten ys := by
  obtain ⟨-, hpieces, hlast⟩ := h
  refine ⟨rfl, fun z hz => hpieces z (List.mem_cons_of_mem y hz), fun z hz => hlast z ?_⟩
  have hne : ys ≠ [] := by
    rintro rfl
    simp at hz
  rw [List.dropLast_cons_of_ne_nil hne]
  exact List.mem_cons_of_mem y hz

/-- The first piece of a cutting is the first `n` elements. When the piece is the only one, it is
the whole list, no longer than `n`. -/
theorem Chunking.head (h : Chunking n xs (y :: ys)) : y = xs.take n := by
  obtain ⟨hflat, hpieces, hlast⟩ := h
  rw [← hflat, List.flatten_cons]
  by_cases hne : ys = []
  · subst hne
    rw [List.flatten_nil, List.append_nil, List.take_of_length_le (hpieces y List.mem_cons_self).2]
  · have hy : y.length = n := hlast y (by simp [List.dropLast_cons_of_ne_nil hne])
    rw [List.take_left' hy]

/-- The empty list is cut into no piece. -/
theorem Chunking.eq_nil (h : Chunking n [] ys) : ys = [] := by
  obtain ⟨hflat, hpieces, -⟩ := h
  rcases ys with _ | ⟨y, ys⟩
  · rfl
  · rw [List.flatten_cons, List.append_eq_nil_iff] at hflat
    exact absurd hflat.1 (hpieces y List.mem_cons_self).1

/-- A list has one cutting into pieces of a given size. -/
theorem Chunking.unique (h₁ : Chunking n xs ys) (h₂ : Chunking n xs zs) : ys = zs := by
  induction ys generalizing xs zs with
  | nil =>
    obtain ⟨rfl, -⟩ := h₁
    exact h₂.eq_nil.symm
  | cons y ys ih =>
    rcases zs with _ | ⟨z, zs⟩
    · obtain ⟨rfl, -⟩ := h₂
      exact h₁.eq_nil
    · have hyz : y = z := h₁.head.trans h₂.head.symm
      subst hyz
      have hrest : ys.flatten = zs.flatten := by
        have h := h₁.1.trans h₂.1.symm
        rwa [List.flatten_cons, List.flatten_cons, List.append_cancel_left_eq] at h
      rw [ih h₁.tail (hrest ▸ h₂.tail)]

@[simp] theorem chunks_go_nil (n : Nat) : chunks.go n ([] : List α) = [] := by
  rw [chunks.go]

/-- `chunks.go` cuts any list into pieces of `n`: more pieces follow only when the first one took
all it could. -/
theorem chunking_chunks_go (hn : 0 < n) (xs : List α) : Chunking n xs (chunks.go n xs) := by
  fun_induction chunks.go n xs with
  | case1 => exact ⟨rfl, by simp, by simp⟩
  | case2 x rest ih =>
    have hle : (x :: rest.take (n - 1)).length ≤ n := by
      rw [List.length_cons, List.length_take]
      omega
    have hfull : chunks.go n (rest.drop (n - 1)) ≠ [] → (x :: rest.take (n - 1)).length = n := by
      intro hne
      have hlong : n - 1 < rest.length := by
        by_contra hshort
        rw [List.drop_eq_nil_of_le (by omega), chunks_go_nil] at hne
        exact hne rfl
      rw [List.length_cons, List.length_take]
      omega
    have h := ih.cons (List.cons_ne_nil x _) hle hfull
    rwa [List.cons_append, List.take_append_drop] at h

/-- `chunks` cuts a list into pieces of a positive size. -/
theorem chunking_chunks (hn : 0 < n) (xs : List α) : Chunking n xs (chunks n xs) := by
  rw [chunks, if_neg (Nat.pos_iff_ne_zero.mp hn)]
  exact chunking_chunks_go hn xs

theorem chunks_eq_iff (hn : 0 < n) : chunks n xs = ys ↔ Chunking n xs ys :=
  ⟨fun h => h ▸ chunking_chunks hn xs, fun h => (chunking_chunks hn xs).unique h⟩

theorem length_chunks_go (hn : 0 < n) (xs : List α) :
    (chunks.go n xs).length = xs.length ⌈/⌉ n := by
  rw [Nat.ceilDiv_eq_add_pred_div]
  fun_induction chunks.go n xs with
  | case1 => simp [Nat.div_eq_of_lt (Nat.sub_lt hn Nat.one_pos)]
  | case2 x rest ih =>
    have hdrop : (rest.length - (n - 1) + n - 1) / n = rest.length / n := by
      rcases Nat.lt_or_ge rest.length (n - 1) with hlt | hge
      · rw [Nat.div_eq_of_lt (by omega), Nat.div_eq_of_lt (by omega)]
      · congr 1
        omega
    rw [List.length_cons, ih, List.length_drop, hdrop, List.length_cons,
      show rest.length + 1 + n - 1 = rest.length + n by omega, Nat.add_div_right _ hn]

/-- A list of `k` elements is cut into `⌈k / n⌉` pieces. -/
theorem length_chunks (hn : 0 < n) (xs : List α) : (chunks n xs).length = xs.length ⌈/⌉ n := by
  rw [chunks, if_neg (Nat.pos_iff_ne_zero.mp hn)]
  exact length_chunks_go hn xs

end Chunks

/-! ## The plan -/

/-- The operations of a list that belong to a phase, in their order. -/
def phaseOps (ops : List EditOperation) (p : Phase) : List EditOperation :=
  ops.filter (Phase.of · == p)

theorem phase_of_mem_phaseOps {ops : List EditOperation} {p : Phase} {op : EditOperation}
    (h : op ∈ phaseOps ops p) : Phase.of op = p := by
  simpa [phaseOps] using (List.mem_filter.mp h).2

theorem planBatches_eq (ops : List EditOperation) (m : Nat) :
    planBatches ops m =
      (chunks (max m 1) (phaseOps ops .delete)).map (Batch.mk .delete) ++
      (chunks (max m 1) (phaseOps ops .insert)).map (Batch.mk .insert) ++
      (chunks (max m 1) (phaseOps ops .style)).map (Batch.mk .style) := by
  simp [planBatches, phaseOps, List.append_assoc]

/-- The batches of one phase each hold between one and `size` operations of that phase. -/
theorem mem_map_chunks {n : Nat} (hn : 0 < n) {ops : List EditOperation} {p : Phase} {b : Batch}
    (h : b ∈ (chunks n (phaseOps ops p)).map (Batch.mk p)) :
    b.operations ≠ [] ∧ b.operations.length ≤ n ∧ ∀ op ∈ b.operations, Phase.of op = b.phase := by
  obtain ⟨y, hy, rfl⟩ := List.mem_map.mp h
  obtain ⟨hflat, hpieces, -⟩ := chunking_chunks hn (phaseOps ops p)
  refine ⟨(hpieces y hy).1, (hpieces y hy).2, fun op hop => ?_⟩
  show Phase.of op = p
  exact phase_of_mem_phaseOps (hflat ▸ List.mem_flatten_of_mem hy hop)

/-- The plan of a list of operations: its deletions, then its insertions, then its styles, each
phase cut into pieces of the batch size (at least one) and tagged with the phase. So the batches
hold the operations in phase order and in their order within a phase, every batch holds one to
`size` operations of its own phase, and each phase has `⌈k / size⌉` batches for its `k`
operations, the phases one block after the other. -/
theorem planBatches_eq_phase_chunks (ops : List EditOperation) (m : Nat) :
    (∃ dels ins styles,
      Chunking (max m 1) (phaseOps ops .delete) dels ∧
      Chunking (max m 1) (phaseOps ops .insert) ins ∧
      Chunking (max m 1) (phaseOps ops .style) styles ∧
      planBatches ops m =
        dels.map (Batch.mk .delete) ++ ins.map (Batch.mk .insert) ++ styles.map (Batch.mk .style)) ∧
    (planBatches ops m).flatMap Batch.operations =
      phaseOps ops .delete ++ phaseOps ops .insert ++ phaseOps ops .style ∧
    (∀ b ∈ planBatches ops m, b.operations ≠ [] ∧ b.operations.length ≤ max m 1 ∧
      ∀ op ∈ b.operations, Phase.of op = b.phase) ∧
    (planBatches ops m).map Batch.phase =
      List.replicate ((phaseOps ops .delete).length ⌈/⌉ max m 1) Phase.delete ++
      List.replicate ((phaseOps ops .insert).length ⌈/⌉ max m 1) Phase.insert ++
      List.replicate ((phaseOps ops .style).length ⌈/⌉ max m 1) Phase.style ∧
    (planBatches ops m).length =
      (phaseOps ops .delete).length ⌈/⌉ max m 1 + (phaseOps ops .insert).length ⌈/⌉ max m 1 +
        (phaseOps ops .style).length ⌈/⌉ max m 1 := by
  have hs : 0 < max m 1 := lt_max_of_lt_right Nat.one_pos
  have hphase (p : Phase) (l : List (List EditOperation)) :
      (l.map (Batch.mk p)).map Batch.phase = List.replicate l.length p := by
    rw [List.map_map]
    exact List.map_const'
  have hphases : (planBatches ops m).map Batch.phase =
      List.replicate ((phaseOps ops .delete).length ⌈/⌉ max m 1) Phase.delete ++
      List.replicate ((phaseOps ops .insert).length ⌈/⌉ max m 1) Phase.insert ++
      List.replicate ((phaseOps ops .style).length ⌈/⌉ max m 1) Phase.style := by
    rw [planBatches_eq, List.map_append, List.map_append, hphase, hphase, hphase,
      length_chunks hs, length_chunks hs, length_chunks hs]
  refine ⟨⟨chunks (max m 1) (phaseOps ops .delete), chunks (max m 1) (phaseOps ops .insert),
    chunks (max m 1) (phaseOps ops .style), chunking_chunks hs _, chunking_chunks hs _,
    chunking_chunks hs _, planBatches_eq ops m⟩, ?_, ?_, hphases, ?_⟩
  · rw [flatMap_planBatches]
    simp [phaseOps, List.append_assoc]
  · intro b hb
    rw [planBatches_eq, List.mem_append, List.mem_append] at hb
    rcases hb with (hb | hb) | hb <;> exact mem_map_chunks hs hb
  · have hlen := congrArg List.length hphases
    rwa [List.length_map, List.length_append, List.length_append, List.length_replicate,
      List.length_replicate, List.length_replicate] at hlen

end DocBridge
