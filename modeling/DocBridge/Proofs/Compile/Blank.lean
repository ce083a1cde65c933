import DocBridge.Proofs.Compile.Walk
import DocBridge.Proofs.Compile.Offsets

/-!
# Blank streams, and streams that show something

A blank stream (`Token.blankList`: no rule, no code block, no text or inline code with a
character that is not white space) compiles to no operation at all, before any of its tokens
is looked at, so even a stream that would fail on its structure. A start index of 0 fails
before that, for every stream.

The converse holds for streams that show something. A rule, a code block or a visible piece of
inline code inserts text as soon as it is applied (`Compiler.step_inserts_ne_nil`), and a run
keeps what it inserted (`Compiler.Grows`); visible text inserts what it shows
(`Compiler.run_shown`). It does not hold for every stream that is not blank: the first text of
an item loses its task prefix, so an item whose only text is `[ ] ` shows nothing
(`checkbox_only_item_compiles_to_nothing`). `shownChars` is what a stream shows once those
prefixes are gone.

`compile_inserts_unless_blank` is the result: a start index of 0 fails with the start-index
error, a blank stream compiles to nothing, and a stream that holds a rule, a code block or
visible inline code, or shows some text, compiles to an error or to operations that insert
text.
-/

namespace DocBridge

namespace Compiler

variable {c d : Compiler}

/-- A state that shows some text has inserted some. -/
theorem inserts_ne_nil_of_shown (h : d.shown ≠ []) : d.inserts.toList ≠ [] := by
  intro hnil
  exact h (by rw [shown, hnil, List.flatMap_nil])

theorem inserts_put_ne_nil (s : String) : (c.put s).inserts.toList ≠ [] := by
  simp [put]

/-- A rule, a code block or inline code that shows something inserts text when it is
applied. -/
theorem step_inserts_ne_nil {t : Token} (hb : t.isBlank = false) (hx : ∀ s, t ≠ .text s)
    (hg : ∀ cs, t ≠ .inline cs) (h : c.step t = .ok d) : d.inserts.toList ≠ [] := by
  cases t <;> simp only [Token.isBlank, reduceCtorEq] at hb
  case codeInline s =>
    rcases insertStyled_eq_ok.mp h with ⟨rfl, -⟩ | ⟨-, -, rfl⟩
    · exact absurd hb (by decide)
    · rw [putStyled_inserts]
      exact inserts_put_ne_nil s
  case fence _ content | codeBlock content =>
    simp only [step, addCode_eq, bind_eq_ok] at h
    obtain ⟨-, -, e, -, h₃⟩ := h
    obtain ⟨⟨e', sp⟩, he', rfl⟩ := map_eq_ok.mp h₃
    obtain ⟨-, hr⟩ := insert_newline_eq_ok.mp he'
    rw [(Prod.mk.inj hr).1]
    exact inserts_put_ne_nil "\n"
  case rule =>
    obtain ⟨e, -, -, rfl⟩ := rule_eq_ok.mp h
    exact inserts_put_ne_nil "\n"
  case text s => exact absurd rfl (hx s)
  case inline cs => exact absurd rfl (hg cs)

/-- A run keeps what it has inserted. -/
theorem Grows.inserts_ne_nil {e : Compiler} (hg : Grows c e) (h : c.inserts.toList ≠ []) :
    e.inserts.toList ≠ [] := by
  obtain ⟨-, texts, -, hins, -⟩ := hg
  rw [hins]
  exact fun hnil => h (List.append_eq_nil_iff.mp hnil).1

/-- A run over a rule, a code block or inline code that shows something inserts text. -/
theorem run_inserts_ne_nil {ts : List Token} {t : Token} (ht : t ∈ ts) (hb : t.isBlank = false)
    (hx : ∀ s, t ≠ .text s) (hg : ∀ cs, t ≠ .inline cs) (h : ts.foldlM step c = .ok d) :
    d.inserts.toList ≠ [] := by
  obtain ⟨pre, post, rfl⟩ := List.append_of_mem ht
  rw [List.foldlM_append, bind_eq_ok] at h
  obtain ⟨e, -, h⟩ := h
  rw [List.foldlM_cons, bind_eq_ok] at h
  obtain ⟨e', hstep, hpost⟩ := h
  exact (run_grows hpost).inserts_ne_nil (step_inserts_ne_nil hb hx hg hstep)

/-- The finished operations of a run from the start state that inserted some text hold an
insertion. -/
theorem exists_insertText_finish {o : CompileOptions} {ts : List Token}
    (hrun : ts.foldlM step (start o) = .ok d) (h : d.inserts.toList ≠ []) :
    ∃ i s tab, EditOperation.insertText i s tab ∈ d.finish := by
  obtain ⟨-, texts, -, hins, -⟩ := run_grows hrun
  obtain ⟨rest, hfin, -⟩ := d.finish_eq_inserts_append
  have hstart : (start o).inserts.toList = [] := rfl
  rw [hstart, List.nil_append] at hins
  rcases texts with _ | ⟨s, texts⟩
  · exact absurd hins h
  · exact ⟨_, s, _, by rw [hfin, hins, placeTexts]; exact List.mem_append_left _ List.mem_cons_self⟩

end Compiler

open Compiler

/-- A blank stream shows nothing and holds no rule, code block or visible inline code. -/
theorem not_shows_of_blank {T : List Token} (hb : Token.blankList T = true) :
    ¬((∃ t ∈ Token.flatten T, t.isBlank = false ∧ ∀ s, t ≠ .text s) ∨
      shownChars [] (Token.flatten T) ≠ []) := by
  rw [Token.blankList_eq_all, List.all_eq_true] at hb
  rintro (⟨t, ht, htb, -⟩ | hs)
  · rw [hb t ht] at htb
    cases htb
  · exact hs (shownChars_of_blank [] hb)

/-- A start index of 0 fails with the start-index error, for every stream; a blank stream
compiles to no operation, even one that would fail on its structure; and a stream that holds a
rule, a code block or visible inline code, or shows some text once the task prefixes of items
are taken off, compiles to an error or to operations among which an insertion of text. The texts a
run inserts show what the stream shows. -/
theorem compile_inserts_unless_blank (T : List Token) (o : CompileOptions) :
    (o.startIndex = 0 → ∃ e, compile T o = .error e ∧ e.isStructural = false ∧
      e.message = "Markdown compilation failed: start index must be at least 1") ∧
    (1 ≤ o.startIndex → Token.blankList T = true → compile T o = .ok []) ∧
    (((∃ t ∈ Token.flatten T, t.isBlank = false ∧ ∀ s, t ≠ .text s) ∨
        shownChars [] (Token.flatten T) ≠ []) →
      ∀ ops, compile T o = .ok ops → ∃ i s tab, EditOperation.insertText i s tab ∈ ops) := by
  refine ⟨fun h0 => ⟨.startIndexZero, by simp [compile, h0], rfl, rfl⟩, compile_of_blank, ?_⟩
  intro hshows ops h
  have h1 : 1 ≤ o.startIndex := by
    by_contra h0
    simp [compile, show o.startIndex = 0 by omega] at h
  cases hb : Token.blankList T
  case true => exact absurd hshows (not_shows_of_blank hb)
  rw [compile_of_not_blank h1 hb] at h
  obtain ⟨d, hrun, rfl⟩ := map_eq_ok.mp h
  refine exists_insertText_finish hrun ?_
  rcases hshows with ⟨t, ht, htb, hx⟩ | hs
  · exact run_inserts_ne_nil ht htb hx (fun cs hcs => Token.inline_not_mem_flatten T cs (hcs ▸ ht))
      hrun
  · have hF : (start o).OpenItemsFresh := ⟨List.nodup_nil, fun _ h => by simp [start] at h⟩
    refine inserts_ne_nil_of_shown ?_
    rw [run_shown hF hrun]
    exact fun hnil => hs (List.append_eq_nil_iff.mp hnil).2

/-- A rule alone compiles to operations that insert text. -/
theorem compile_inserts_unless_blank_rule :
    ∃ ops, compile [.rule] {} = .ok ops ∧ ∃ i s tab, EditOperation.insertText i s tab ∈ ops := by
  obtain ⟨ops, hops⟩ := exists_eq_ok_of_isOk (by decide +kernel : (compile [.rule] {}).isOk = true)
  exact ⟨ops, hops, (compile_inserts_unless_blank [.rule] {}).2.2
    (Or.inl ⟨.rule, by simp [Token.flatten, Token.flattenOne], rfl, fun s h => by cases h⟩) ops hops⟩

/-- A list whose one item holds nothing but an open checkbox. -/
def checkboxOnlyItem : List Token :=
  [.bulletListOpen, .itemOpen, .inline [.text "[ ] "], .itemClose, .bulletListClose]

/-- The stream is not blank, yet it shows nothing once the checkbox is taken off its item, and
compiles to no operation. -/
theorem checkbox_only_item_compiles_to_nothing :
    Token.blankList checkboxOnlyItem = false ∧
      shownChars [] (Token.flatten checkboxOnlyItem) = [] ∧
      compile checkboxOnlyItem {} = .ok [] :=
  ⟨by decide +kernel, by decide +kernel,
    eq_ok_of_toOption (by decide +kernel : (compile checkboxOnlyItem {}).toOption = some [])⟩

end DocBridge
