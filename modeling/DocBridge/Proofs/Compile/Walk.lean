import DocBridge.Proofs.Compile.Content

/-!
# Inline groups open in place

An inline group holds the inline tokens of one block, and a group may hold groups in turn.
Flattening a stream (`Token.flatten`) puts the children of every group in its place, depth
first. A flattened stream holds no group (`Token.inline_not_mem_flatten`), so flattening it
again changes nothing (`Token.flatten_flatten`), and a stream is blank exactly when its
flattened stream is (`Token.blankList_flatten`).

`Compiler.walk` reads a stream with a stack of the token lists still to read, pushing the
children of a group as a new list. `Compiler.walk_eq_foldlM` says what it does with a whole
stack: it applies the tokens of the flattened lists, one list after the other, each token
once, and stops at the first error. The invariant is the one of a worklist: what is still to
be applied is the flattening of the stack, and opening a group keeps it.

`compile_flatten` is the result: a stream and its flattened stream compile alike, and
compiling a stream is walking it from the start state.
-/

namespace DocBridge

namespace Token

/-- A token other than a group flattens to itself. -/
theorem flattenOne_of_ne {t : Token} (h : ∀ cs, t ≠ .inline cs) : t.flattenOne = [t] := by
  cases t
  case inline cs => exact absurd rfl (h cs)
  all_goals rfl

theorem flatten_cons (t : Token) (ts : List Token) :
    flatten (t :: ts) = t.flattenOne ++ flatten ts := by
  rw [flatten]

mutual

theorem inline_not_mem_flattenOne (t : Token) (cs : List Token) : inline cs ∉ t.flattenOne := by
  cases t
  case inline children =>
    rw [flattenOne]
    exact inline_not_mem_flatten children cs
  all_goals simp [flattenOne]

/-- A flattened stream holds no inline group. -/
theorem inline_not_mem_flatten (ts : List Token) (cs : List Token) : inline cs ∉ flatten ts := by
  cases ts with
  | nil => simp [flatten]
  | cons t ts =>
    rw [flatten_cons, List.mem_append, not_or]
    exact ⟨inline_not_mem_flattenOne t cs, inline_not_mem_flatten ts cs⟩

end

/-- A stream without groups is its own flattening. -/
theorem flatten_of_forall {ts : List Token} (h : ∀ t ∈ ts, ∀ cs, t ≠ inline cs) :
    flatten ts = ts := by
  induction ts with
  | nil => rfl
  | cons t ts ih =>
    rw [flatten_cons, flattenOne_of_ne (h t List.mem_cons_self),
      ih fun u hu => h u (List.mem_cons_of_mem t hu), List.singleton_append]

theorem flatten_flatten (ts : List Token) : flatten (flatten ts) = flatten ts :=
  flatten_of_forall fun _ ht cs hcs => inline_not_mem_flatten ts cs (hcs ▸ ht)

theorem blankList_flatten (ts : List Token) : blankList (flatten ts) = blankList ts := by
  rw [blankList_eq_all, blankList_eq_all, flatten_flatten]

end Token

namespace Compiler

/-- The walk applies the flattened lists of its stack, innermost first, and stops at the first
error. Opening a group pushes its children in front of what follows it. -/
theorem walk_eq_foldlM (stack : List (List Token)) (c : Compiler) :
    walk stack c = (stack.flatMap Token.flatten).foldlM step c := by
  fun_induction walk stack c with
  | case1 c => rfl
  | case2 rest c ih => rw [ih, List.flatMap_cons, Token.flatten, List.nil_append]
  | case3 children ts rest c ih =>
    rw [ih, List.flatMap_cons, List.flatMap_cons, List.flatMap_cons, Token.flatten_cons,
      Token.flattenOne, List.append_assoc]
  | case4 _ ts rest c ht ih =>
    rw [List.flatMap_cons, Token.flatten_cons, Token.flattenOne_of_ne fun cs h => ht cs h,
      List.singleton_append, List.cons_append, List.foldlM_cons, ← List.flatMap_cons]
    exact bind_congr fun d => ih d

theorem walk_singleton (ts : List Token) (c : Compiler) :
    walk [ts] c = (Token.flatten ts).foldlM step c := by
  rw [walk_eq_foldlM, List.flatMap_singleton]

end Compiler

/-- Compiling a stream is walking it from the start state, once the start index and blank
streams are dealt with. -/
theorem compile_eq_walk (T : List Token) (o : CompileOptions) :
    compile T o =
      if o.startIndex == 0 then .error .startIndexZero
      else if Token.blankList T then .ok []
      else (Compiler.walk [T] (Compiler.start o)).map Compiler.finish := by
  rw [compile, Compiler.walk_singleton]

/-- Inline groups change nothing a compilation does: a stream and its flattened stream compile
alike and are blank alike, the flattened stream holds no group, and compiling walks the stream
depth first, applying each token that is not a group once, in order, up to the first error. -/
theorem compile_flatten (T : List Token) (o : CompileOptions) :
    compile (Token.flatten T) o = compile T o ∧
    Token.blankList (Token.flatten T) = Token.blankList T ∧
    (∀ cs, Token.inline cs ∉ Token.flatten T) ∧
    (∀ c, Compiler.walk [T] c = (Token.flatten T).foldlM Compiler.step c) ∧
    compile T o =
      if o.startIndex == 0 then .error .startIndexZero
      else if Token.blankList T then .ok []
      else (Compiler.walk [T] (Compiler.start o)).map Compiler.finish := by
  refine ⟨?_, Token.blankList_flatten T, Token.inline_not_mem_flatten T, Compiler.walk_singleton T,
    compile_eq_walk T o⟩
  rw [compile, compile, Token.blankList_flatten, Token.flatten_flatten]

end DocBridge
