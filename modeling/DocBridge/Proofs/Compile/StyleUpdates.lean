import DocBridge.Proofs.Compile.Insertions
import DocBridge.Proofs.Compile.Formatting

/-!
# Text style updates, offset by offset

A text style update writes the attributes that its field mask names, and the mask holds
exactly the attributes its style sets: laying a style over text (`TextStyle.setOn`) sets those
and keeps the others. `styleAt us p` is the style of offset `p` once the updates `us` are
applied in order to unstyled text. Two updates that reach an offset commute unless they set
two different links (`styleAt_perm`).

The compiler records styled text as ranges, and `finish` turns each range into two updates,
its decoration and its link (`TextRange.updates`). Over ranges that lie one after another the
style of an offset is the format of the one range that holds it (`styleAt_updates`), in any
order of the updates (`styleAt_updates_perm`).

`insertedChar ops p` is the character that the insertions of `ops` put at offset `p`, where
offsets count UTF-16 code units (`Text.unitChars`).
-/

namespace DocBridge

/-- An offset lies in a span when the span starts at or before it and ends after it. -/
instance : Membership Nat Span := ⟨fun s p => s.start ≤ p ∧ p < s.stop⟩

@[simp] theorem Span.mem_iff {s : Span} {p : Nat} : p ∈ s ↔ s.start ≤ p ∧ p < s.stop := Iff.rfl

instance (p : Nat) (s : Span) : Decidable (p ∈ s) :=
  inferInstanceAs (Decidable (s.start ≤ p ∧ p < s.stop))

/-! ## Styles laid over text -/

namespace TextStyle

/-- `s` laid over the style `cur` that text already has: the attributes `s` sets, and those of
`cur` for the rest. -/
def setOn (s cur : TextStyle) : TextStyle where
  bold := s.bold || cur.bold
  italic := s.italic || cur.italic
  strikethrough := s.strikethrough || cur.strikethrough
  monospace := s.monospace || cur.monospace
  link := s.link.or cur.link

@[simp] theorem setOn_empty (s : TextStyle) : s.setOn {} = s := by
  cases s
  simp [setOn]

/-- Two styles laid over text in either order agree unless they set different links. -/
theorem setOn_comm {s t : TextStyle} (h : s.link.isSome → t.link.isSome → s.link = t.link)
    (cur : TextStyle) : s.setOn (t.setOn cur) = t.setOn (s.setOn cur) := by
  simp only [setOn, mk.injEq, Bool.or_left_comm, true_and]
  cases hs : s.link <;> cases ht : t.link <;> simp_all

end TextStyle

/-- The text style update of an operation: the span it styles and the style it lays there. -/
def EditOperation.styleUpdate? : EditOperation → Option (Span × TextStyle)
  | .updateTextStyle r s => some (r.span, s)
  | _ => none

/-- One update applied to the style of offset `p`. -/
def applyAt (p : Nat) (cur : TextStyle) (u : Span × TextStyle) : TextStyle :=
  if p ∈ u.1 then u.2.setOn cur else cur

/-- The style of offset `p` once the updates `us` are applied, in order, to unstyled text. -/
def styleAt (us : List (Span × TextStyle)) (p : Nat) : TextStyle :=
  us.foldl (applyAt p) {}

theorem applyAt_comm {p : Nat} {u v : Span × TextStyle}
    (h : p ∈ u.1 → p ∈ v.1 → u.2.link.isSome → v.2.link.isSome → u.2.link = v.2.link)
    (cur : TextStyle) : applyAt p (applyAt p cur u) v = applyAt p (applyAt p cur v) u := by
  unfold applyAt
  by_cases hu : p ∈ u.1 <;> by_cases hv : p ∈ v.1 <;> simp only [hu, hv, if_true, if_false]
  exact TextStyle.setOn_comm (fun hlv hlu => (h hu hv hlu hlv).symm) cur

/-- Updates applied in any order give an offset the same style, when no two of them that reach
it set different links. -/
theorem styleAt_perm {us us' : List (Span × TextStyle)} (hp : us'.Perm us) {p : Nat}
    (hl : ∀ u ∈ us, ∀ v ∈ us, p ∈ u.1 → p ∈ v.1 → u.2.link.isSome → v.2.link.isSome →
      u.2.link = v.2.link) :
    styleAt us' p = styleAt us p :=
  hp.foldl_eq' (fun u hu v hv => applyAt_comm (hl u (hp.subset hu) v (hp.subset hv))) {}

theorem foldl_applyAt_of_not_mem {p : Nat} :
    ∀ {us : List (Span × TextStyle)}, (∀ u ∈ us, p ∉ u.1) → ∀ cur, us.foldl (applyAt p) cur = cur
  | [], _, _ => rfl
  | u :: us, h, cur => by
    rw [List.foldl_cons, applyAt, if_neg (h u List.mem_cons_self)]
    exact foldl_applyAt_of_not_mem (fun v hv => h v (List.mem_cons_of_mem _ hv)) cur

/-! ## Styled ranges -/

namespace TextRange

/-- `r` ends where `r'` starts, or before. -/
def Before (r r' : TextRange) : Prop := r.span.stop ≤ r'.span.start

/-- The updates a styled range becomes: its decoration, then its link. -/
def updates (r : TextRange) : List (Span × TextStyle) :=
  (r.format.decoration.map fun s => (r.span, s)).toList ++
    (r.format.link.map fun url => (r.span, TextStyle.linkTo url)).toList

theorem span_of_mem_updates {r : TextRange} {u : Span × TextStyle} (h : u ∈ r.updates) :
    u.1 = r.span := by
  simp only [updates, List.mem_append, Option.mem_toList, Option.map_eq_some_iff] at h
  rcases h with ⟨s, -, rfl⟩ | ⟨url, -, rfl⟩ <;> rfl

/-- The only link among a range's updates is the range's own. A decoration sets no link. -/
theorem link_of_mem_updates {r : TextRange} {u : Span × TextStyle} (h : u ∈ r.updates)
    (hl : u.2.link.isSome) : u.2.link = r.format.link := by
  simp only [updates, List.mem_append, Option.mem_toList, Option.map_eq_some_iff] at h
  rcases h with ⟨s, hs, rfl⟩ | ⟨url, hurl, rfl⟩
  · unfold InlineFormat.decoration at hs
    split at hs <;> cases hs
    simp at hl
  · exact hurl.symm

/-- At an offset it holds, a range's updates give the style of its format. -/
theorem foldl_updates {r : TextRange} {p : Nat} (hp : p ∈ r.span) :
    r.updates.foldl (applyAt p) {} = r.format.style := by
  obtain ⟨sp, ⟨b, i, s, c, l⟩⟩ := r
  simp only [updates, InlineFormat.decoration]
  by_cases hf : (b || i || s || c) = true
  · cases l <;> simp [hf, applyAt, hp, TextStyle.setOn, InlineFormat.style, TextStyle.linkTo]
  · simp only [Bool.or_eq_true, not_or, Bool.not_eq_true] at hf
    obtain ⟨⟨⟨rfl, rfl⟩, rfl⟩, rfl⟩ := hf
    cases l <;> simp [applyAt, hp, TextStyle.setOn, InlineFormat.style, TextStyle.linkTo]

end TextRange

/-- The format of the first range that holds offset `p`; no format when none holds it. -/
def formatAt (rs : List TextRange) (p : Nat) : InlineFormat :=
  ((rs.find? fun r => p ∈ r.span).map TextRange.format).getD {}

@[simp] theorem formatAt_nil (p : Nat) : formatAt [] p = {} := rfl

theorem formatAt_cons_of_mem {r : TextRange} {rs : List TextRange} {p : Nat} (hp : p ∈ r.span) :
    formatAt (r :: rs) p = r.format := by
  have hd : decide (p ∈ r.span) = true := decide_eq_true hp
  simp only [formatAt, List.find?_cons, hd]
  rfl

theorem formatAt_cons_of_not_mem {r : TextRange} {rs : List TextRange} {p : Nat}
    (hp : p ∉ r.span) : formatAt (r :: rs) p = formatAt rs p := by
  have hd : decide (p ∈ r.span) = false := decide_eq_false hp
  simp only [formatAt, List.find?_cons, hd]

/-- Ranges that do not hold `p` add nothing at `p`. -/
theorem formatAt_append_of_not_mem {rs rs' : List TextRange} {p : Nat}
    (h : ∀ r ∈ rs, p ∉ r.span) : formatAt (rs ++ rs') p = formatAt rs' p := by
  induction rs with
  | nil => rfl
  | cons r rs ih =>
    rw [List.cons_append, formatAt_cons_of_not_mem (h r List.mem_cons_self)]
    exact ih fun r' hr' => h r' (List.mem_cons_of_mem _ hr')

theorem formatAt_append_of_not_mem_right {rs rs' : List TextRange} {p : Nat}
    (h : ∀ r ∈ rs', p ∉ r.span) : formatAt (rs ++ rs') p = formatAt rs p := by
  induction rs with
  | nil =>
    rw [List.nil_append, formatAt_nil, formatAt]
    rw [List.find?_eq_none.mpr fun r hr => by simpa using h r hr]
    rfl
  | cons r rs ih =>
    by_cases hp : p ∈ r.span
    · rw [List.cons_append, formatAt_cons_of_mem hp, formatAt_cons_of_mem hp]
    · rw [List.cons_append, formatAt_cons_of_not_mem hp, formatAt_cons_of_not_mem hp, ih]

theorem not_mem_of_before {r r' : TextRange} {p : Nat} (hb : r.Before r') (hp : p ∈ r.span) :
    p ∉ r'.span := by
  simp only [TextRange.Before] at hb
  simp only [Span.mem_iff] at hp ⊢
  omega

/-- Over ranges that lie one after another, an offset has the style of the range that holds
it, and none when no range does. -/
theorem styleAt_updates {rs : List TextRange} (h : rs.Pairwise TextRange.Before) (p : Nat) :
    styleAt (rs.flatMap TextRange.updates) p = (formatAt rs p).style := by
  induction rs with
  | nil => rfl
  | cons r rs ih =>
    obtain ⟨hr, hrs⟩ := List.pairwise_cons.mp h
    unfold styleAt
    rw [List.flatMap_cons, List.foldl_append]
    by_cases hp : p ∈ r.span
    · have hrest : ∀ u ∈ rs.flatMap TextRange.updates, p ∉ u.1 := by
        intro u hu
        obtain ⟨r', hr', hu'⟩ := List.mem_flatMap.mp hu
        rw [TextRange.span_of_mem_updates hu']
        exact not_mem_of_before (hr r' hr') hp
      rw [TextRange.foldl_updates hp, foldl_applyAt_of_not_mem hrest, formatAt_cons_of_mem hp]
    · have hnone : ∀ u ∈ r.updates, p ∉ u.1 := fun u hu => by
        rw [TextRange.span_of_mem_updates hu]
        exact hp
      rw [foldl_applyAt_of_not_mem hnone, formatAt_cons_of_not_mem hp]
      exact ih hrs

/-- Of ranges that lie one after another, one at most holds a given offset. -/
theorem eq_of_mem_span {rs : List TextRange} (h : rs.Pairwise TextRange.Before) {r r' : TextRange}
    (hr : r ∈ rs) (hr' : r' ∈ rs) {p : Nat} (hp : p ∈ r.span) (hp' : p ∈ r'.span) : r = r' := by
  induction rs with
  | nil => cases hr
  | cons a rs ih =>
    obtain ⟨ha, hrs⟩ := List.pairwise_cons.mp h
    rcases List.mem_cons.mp hr with hra | hmem <;> rcases List.mem_cons.mp hr' with hra' | hmem'
    · exact hra.trans hra'.symm
    · subst hra
      exact absurd hp' (not_mem_of_before (ha r' hmem') hp)
    · subst hra'
      exact absurd hp (not_mem_of_before (ha r hmem) hp')
    · exact ih hrs hmem hmem'

/-- The updates of ranges that lie one after another give the same style in any order. -/
theorem styleAt_updates_perm {rs : List TextRange} (h : rs.Pairwise TextRange.Before)
    {us : List (Span × TextStyle)} (hp : us.Perm (rs.flatMap TextRange.updates)) :
    styleAt us = styleAt (rs.flatMap TextRange.updates) := by
  funext p
  refine styleAt_perm hp fun u hu v hv hpu hpv hlu hlv => ?_
  obtain ⟨r, hr, hur⟩ := List.mem_flatMap.mp hu
  obtain ⟨r', hr', hvr⟩ := List.mem_flatMap.mp hv
  rw [TextRange.span_of_mem_updates hur] at hpu
  rw [TextRange.span_of_mem_updates hvr] at hpv
  obtain rfl := eq_of_mem_span h hr hr' hpu hpv
  rw [TextRange.link_of_mem_updates hur hlu, TextRange.link_of_mem_updates hvr hlv]

/-! ## Inserted characters -/

namespace Text

/-- The characters of a text, one per UTF-16 code unit: a character above U+FFFF stands at
both units of its surrogate pair. -/
def unitChars (s : String) : List Char :=
  s.toList.flatMap fun ch => List.replicate (charUnits ch) ch

theorem length_flatMap_replicate (cs : List Char) :
    (cs.flatMap fun ch => List.replicate (charUnits ch) ch).length = listUnits cs := by
  induction cs with
  | nil => rfl
  | cons ch cs ih => simp [listUnits, ih]

@[simp] theorem length_unitChars (s : String) : (unitChars s).length = units16 s :=
  length_flatMap_replicate s.toList

@[simp] theorem unitChars_append (s t : String) :
    unitChars (s ++ t) = unitChars s ++ unitChars t := by
  simp [unitChars, String.toList_append]

theorem mem_unitChars {s : String} {ch : Char} : ch ∈ unitChars s ↔ ch ∈ s.toList := by
  simp only [unitChars, List.mem_flatMap, List.mem_replicate]
  constructor
  · rintro ⟨c, hc, -, rfl⟩
    exact hc
  · intro h
    exact ⟨ch, h, Nat.ne_of_gt (charUnits_pos ch), rfl⟩

@[simp] theorem unitChars_newline : unitChars "\n" = ['\n'] := by decide

theorem length_flatMap_unitChars (ss : List String) :
    (ss.flatMap unitChars).length = (ss.map units16).sum := by
  induction ss with
  | nil => rfl
  | cons s ss ih => simp [ih]

end Text

/-- The character an insertion puts at offset `p`, if it puts one there. -/
def EditOperation.charAt? (p : Nat) : EditOperation → Option Char
  | .insertText i s _ => if i ≤ p then (Text.unitChars s)[p - i]? else none
  | _ => none

/-- The character at offset `p` of the inserted text: the one that the first insertion
reaching `p` puts there. -/
def insertedChar (ops : List EditOperation) (p : Nat) : Option Char :=
  ops.findSome? (·.charAt? p)

/-- Operations that insert nothing put no character anywhere. -/
theorem insertedChar_of_not_insert {ops : List EditOperation}
    (h : ∀ op ∈ ops, op.isInsert = false) (p : Nat) : insertedChar ops p = none :=
  List.findSome?_eq_none_iff.mpr fun op hop => by
    have hop' := h op hop
    cases op with
    | insertText => simp [EditOperation.isInsert] at hop'
    | _ => rfl

/-- Texts inserted one after another from offset `i` read, from `i` on, as the characters of
the texts in order; operations after them that insert nothing add no character. -/
theorem insertedChar_placeTexts {tab : Option String} {rest : List EditOperation}
    (hrest : ∀ op ∈ rest, op.isInsert = false) (p : Nat) :
    ∀ (i : Nat) (ss : List String), insertedChar (placeTexts i tab ss ++ rest) p =
      if i ≤ p then (ss.flatMap Text.unitChars)[p - i]? else none
  | i, [] => by simp [placeTexts, insertedChar_of_not_insert hrest p]
  | i, s :: ss => by
    have ih := @insertedChar_placeTexts tab rest hrest p (i + Text.units16 s) ss
    rw [insertedChar, placeTexts, List.cons_append, List.findSome?_cons, ← insertedChar, ih]
    by_cases hi : i ≤ p
    · have hcur : (EditOperation.insertText i s tab).charAt? p = (Text.unitChars s)[p - i]? :=
        if_pos hi
      rw [hcur, if_pos hi, List.flatMap_cons]
      by_cases hs : p - i < (Text.unitChars s).length
      · rw [List.getElem?_append_left hs, List.getElem?_eq_getElem hs]
      · have hge : (Text.unitChars s).length ≤ p - i := Nat.le_of_not_lt hs
        have hu : Text.units16 s ≤ p - i := by simpa using hge
        rw [List.getElem?_eq_none hge, List.getElem?_append_right hge, if_pos (by omega)]
        rw [Text.length_unitChars, Nat.sub_add_eq]
    · have hcur : (EditOperation.insertText i s tab).charAt? p = none := if_neg hi
      rw [hcur, if_neg hi, if_neg (by omega)]

end DocBridge
