import DocBridge.Text.Blank
import Mathlib.Data.List.Infix

/-!
# The visible characters of a text

`Text.visible` keeps the characters of a text that are not white space, in order. It is how two
texts are compared when white space does not count: what a compilation inserts against what its
stream holds, and what a rendering writes against what a document holds. Joining texts joins what
they show (`visible_append`), white space shows nothing, and trimming a text keeps what it shows
(`visible_trim`).
-/

namespace DocBridge

/-- The characters of a text that are not white space, in order. -/
def Text.visible (s : String) : List Char :=
  s.toList.filter fun ch => !Text.isBlank ch

namespace Text

@[simp] theorem visible_append (s t : String) : visible (s ++ t) = visible s ++ visible t := by
  simp [visible, List.filter_append]

theorem visible_eq_nil {s : String} (h : ∀ ch ∈ s.toList, isBlank ch = true) : visible s = [] :=
  List.filter_eq_nil_iff.mpr fun ch hch => by simp [h ch hch]

theorem visible_of_allBlank {s : String} (h : allBlank s = true) : visible s = [] :=
  visible_eq_nil (by simpa [allBlank] using h)

@[simp] theorem visible_empty : visible "" = [] := by decide

@[simp] theorem visible_newline : visible "\n" = [] := by decide

@[simp] theorem visible_space : visible " " = [] := by decide

/-- A text that ends in `ch` shows what it shows without it, when `ch` is white space. -/
theorem visible_of_endsWith {s : String} (ch : Char) (hch : isBlank ch = true)
    (h : s.endsWith (String.singleton ch) = true) :
    (s.toList.dropLast).filter (fun ch => !isBlank ch) = visible s := by
  rw [← String.endsWith_toSlice, String.Slice.endsWith_string_iff] at h
  obtain ⟨pre, hpre⟩ : [ch] <:+ s.toList := by simpa using h
  rw [visible, ← hpre, List.dropLast_concat, List.filter_append]
  simp [hch]

theorem visible_join (ss : List String) : visible (String.join ss) = ss.flatMap visible := by
  rw [visible, String.toList_join, List.filter_flatMap]
  rfl

/-- A text shows inside any text it stands in. -/
theorem visible_sublist_of_infix {s t : String} (h : s.toList <:+: t.toList) :
    (visible s).Sublist (visible t) :=
  h.sublist.filter _

theorem visible_sublist_wrap (a s b : String) : (visible s).Sublist (visible (a ++ s ++ b)) :=
  visible_sublist_of_infix (by simpa only [String.toList_append] using List.infix_append _ _ _)

/-- Dropping white space, or some of it, from the front drops nothing visible. -/
theorem filter_dropWhile {q : Char → Bool} (hq : ∀ ch, q ch = true → isBlank ch = true)
    (cs : List Char) :
    (cs.dropWhile q).filter (fun ch => !isBlank ch) = cs.filter (fun ch => !isBlank ch) := by
  induction cs with
  | nil => rfl
  | cons c cs ih =>
    cases hc : q c
    · rw [List.dropWhile_cons_of_neg (by simp [hc])]
    · rw [List.dropWhile_cons_of_pos hc, ih, List.filter_cons_of_neg]
      simp [hq c hc]

@[simp] theorem visible_trimStart (s : String) : visible (trimStart s) = visible s := by
  rw [visible, trimStart, String.toList_ofList, dropBlank, filter_dropWhile fun _ h => h, visible]

@[simp] theorem visible_trimEnd (s : String) : visible (trimEnd s) = visible s := by
  rw [visible, trimEnd, String.toList_ofList, List.filter_reverse, dropBlank,
    filter_dropWhile fun _ h => h, ← List.filter_reverse, List.reverse_reverse, visible]

/-- Trimming a text keeps what it shows. -/
@[simp] theorem visible_trim (s : String) : visible (trim s) = visible s := by
  rw [trim, visible_trimEnd, visible_trimStart]

end Text

/-- Joining parts at a separator that a filter drops, then filtering, filters each part. -/
theorem filter_intercalate {p : Char → Bool} {x : Char} (hx : p x = false) :
    ∀ ls : List (List Char), ([x].intercalate ls).filter p = ls.flatMap (·.filter p)
  | [] => rfl
  | [l] => by simp
  | l :: l' :: ls => by
    rw [List.intercalate_cons_cons, List.filter_append, List.filter_append,
      filter_intercalate hx (l' :: ls)]
    simp [hx]

/-- Parts joined at any separator hold the parts in order. -/
theorem flatten_sublist_intercalate {α : Type} (sep : List α) :
    ∀ ls : List (List α), ls.flatten.Sublist (sep.intercalate ls)
  | [] => List.Sublist.refl _
  | [l] => by simp
  | l :: l' :: ls => by
    rw [List.intercalate_cons_cons, List.flatten_cons, List.append_assoc]
    exact (List.Sublist.refl l).append
      ((flatten_sublist_intercalate sep (l' :: ls)).trans (List.sublist_append_right _ _))

/-- Texts joined at any separator show what each of them shows, in order. -/
theorem flatMap_visible_sublist_intercalate (sep : String) (ss : List String) :
    (ss.flatMap Text.visible).Sublist (Text.visible (sep.intercalate ss)) := by
  rw [Text.visible, String.toList_intercalate]
  have h := (flatten_sublist_intercalate sep.toList (ss.map String.toList)).filter
    (fun ch => !Text.isBlank ch)
  rwa [List.filter_flatten, List.map_map, ← List.flatMap_def] at h

end DocBridge
