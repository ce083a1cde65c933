import DocBridge.Compile.State

/-!
# Compiling a token stream

`compile` checks the start index, answers a blank stream with no operations, and
otherwise applies every token of the flattened stream to a fresh compiler, stopping at
the first error. `compileReplacement` compiles at offset 1 and, when the document body
already holds text, deletes it first.

`Compiler.walk` is the same pass read as a depth-first walk: it keeps a stack of the token
lists still to read and opens each inline group in place, so that deep groups need no
recursion.
-/

namespace DocBridge

/-- Applies the tokens of a stack of token lists, innermost list first: an inline group is
pushed as a new list, every other token is applied, and the first error stops the walk. -/
def Compiler.walk : List (List Token) → Compiler → Except CompileError Compiler
  | [], c => .ok c
  | [] :: rest, c => walk rest c
  | (.inline children :: ts) :: rest, c => walk (children :: ts :: rest) c
  | (t :: ts) :: rest, c => do
    let c ← c.step t
    walk (ts :: rest) c
termination_by stack => sizeOf stack

/-- The operations that write a token stream into a document. -/
def compile (tokens : List Token) (o : CompileOptions) : Except CompileError (List EditOperation) :=
  if o.startIndex == 0 then .error .startIndexZero
  else if Token.blankList tokens then .ok []
  else (Token.flatten tokens).foldlM Compiler.step (Compiler.start o) |>.map Compiler.finish

/-- The operations that replace a document body ending at `bodyEnd` by a token stream:
the old text `[1, bodyEnd - 1)` is deleted first, when there is any. -/
def compileReplacement (tokens : List Token) (bodyEnd : Nat) (o : CompileOptions) :
    Except CompileError (List EditOperation) :=
  let o := { o with startIndex := 1 }
  let existing : Span := ⟨1, bodyEnd - 1⟩
  let delete := if existing.isEmpty then [] else [EditOperation.deleteContentRange ⟨existing, o.tabId⟩]
  (compile tokens o).map (delete ++ ·)

end DocBridge
