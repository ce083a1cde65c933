import DocBridge.Edit.Style

/-!
# Reading named styles back

`NamedStyle.ofName` reads the wire name of a paragraph style. It knows three forms: `TITLE`,
`SUBTITLE`, and `HEADING_` followed by a numeral that a byte can hold (`ByteNumeral`: an
optional `+`, then one or more ASCII digits of decimal value at most 255) whose value is a level
from 1 on. Any other name, `HEADING_0` and `HEADING_256` among them, is normal text.

`ofName_reads_wire_names` gives each of the four outcomes exactly, and the two round trips that
follow from them: reading back the wire name of a style gives the style again for every style
whose level is a byte but the heading of level 0 (`ofName_name_eq_iff`), and writing the style
read from a name gives that name again exactly when it is one of the names `name` writes, with
no sign and no leading zero in its level (`name_ofName_eq_iff`).
-/

namespace DocBridge.NamedStyle

/-! ## Byte numerals -/

/-- `t` is a numeral that a byte can hold, of value `n`: an optional `+`, then one or more
ASCII digits whose decimal value `n` is at most 255. -/
def ByteNumeral (t : String) (n : Nat) : Prop :=
  ∃ digits : List Char, (t.toList = digits ∨ t.toList = '+' :: digits) ∧ digits ≠ [] ∧
    (∀ c ∈ digits, c.isDigit) ∧ Nat.ofDigitChars 10 digits 0 = n ∧ n ≤ 255

/-- The characters of a numeral after its sign, if it has one. -/
def unsigned : List Char → List Char
  | '+' :: rest => rest
  | cs => cs

theorem unsigned_cases (l : List Char) : l = unsigned l ∨ l = '+' :: unsigned l := by
  unfold unsigned
  split
  · exact .inr rfl
  · exact .inl rfl

/-- Digits after an optional sign are the characters after the sign: a digit is no sign. -/
theorem eq_unsigned {l ds : List Char} (hl : l = ds ∨ l = '+' :: ds) (hne : ds ≠ [])
    (hd : ∀ c ∈ ds, c.isDigit) : ds = unsigned l := by
  rcases hl with rfl | rfl
  · obtain ⟨c, cs, rfl⟩ := List.exists_cons_of_ne_nil hne
    have hc : c ≠ '+' := by
      rintro rfl
      exact absurd (hd '+' List.mem_cons_self) (by decide)
    unfold unsigned
    split
    · rename_i h
      cases h
      exact absurd rfl hc
    · rfl
  · rfl

theorem parseByte_eq (t : String) : parseByte t =
    if (unsigned t.toList).isEmpty || !(unsigned t.toList).all Char.isDigit then none
    else if (unsigned t.toList).foldl (fun acc c => acc * 10 + (c.toNat - 48)) 0 ≤ 255 then
      some ((unsigned t.toList).foldl (fun acc c => acc * 10 + (c.toNat - 48)) 0)
    else none := rfl

/-- The number the parser accumulates is the decimal value of the digits. -/
theorem foldl_digits (cs : List Char) :
    cs.foldl (fun acc c => acc * 10 + (c.toNat - 48)) 0 = Nat.ofDigitChars 10 cs 0 := by
  rw [Nat.ofDigitChars_eq_foldl]
  congr 1
  funext acc c
  rw [Nat.mul_comm]
  rfl

/-- The parser of levels accepts exactly the byte numerals, with their values. -/
theorem parseByte_eq_some_iff {t : String} {n : Nat} : parseByte t = some n ↔ ByteNumeral t n := by
  rw [parseByte_eq, foldl_digits]
  constructor
  · intro h
    split at h
    · cases h
    rename_i hok
    split at h
    · obtain rfl := Option.some.inj h
      simp only [Bool.or_eq_true, List.isEmpty_iff, Bool.not_eq_true', not_or,
        Bool.not_eq_false, List.all_eq_true] at hok
      exact ⟨_, unsigned_cases _, hok.1, hok.2, rfl, by assumption⟩
    · cases h
  · rintro ⟨ds, hl, hne, hd, rfl, hn⟩
    obtain rfl := eq_unsigned hl hne hd
    have hall : (unsigned t.toList).all Char.isDigit = true := List.all_eq_true.mpr hd
    simp [hne, hall, hn]

/-- The decimal numeral of a byte is a byte numeral of it. -/
theorem byteNumeral_toString {n : Nat} (hn : n ≤ 255) : ByteNumeral (toString n) n :=
  ⟨Nat.toDigits 10 n, .inl (by simp), Nat.toDigits_ne_nil,
    fun _ hc => Nat.isDigit_of_mem_toDigits (by decide) (by decide) hc,
    Nat.ofDigitChars_ten_toDigits, hn⟩

theorem ByteNumeral.le {t : String} {n : Nat} (h : ByteNumeral t n) : n ≤ 255 := by
  obtain ⟨-, -, -, -, -, hn⟩ := h
  exact hn

/-! ## The four outcomes -/

section Names

variable {s t : String} {n : Nat}

/-- A name under `HEADING_` is no name with another first character. -/
theorem heading_append_ne {u : String} (hu : u.toList.head? ≠ some 'H') : "HEADING_" ++ t ≠ u := by
  rintro rfl
  exact hu (by simp [String.toList_append])

/-- A name that starts with `HEADING_` is `HEADING_` and what follows it. -/
theorem eq_heading_append (h : s.startsWith "HEADING_" = true) :
    s = "HEADING_" ++ String.ofList (s.toList.drop 8) := by
  rw [String.startsWith_string_iff, List.prefix_iff_eq_append] at h
  apply String.toList_inj.mp
  simpa [String.toList_append] using h.symm

/-- A name under `HEADING_` is read through the parser of levels. The parsed level, if any, is a
heading from 1 on. -/
theorem ofName_heading_append (t : String) :
    ofName ("HEADING_" ++ t) = ((parseByte t).filter (· > 0)).elim .normalText .heading := by
  have hs : ("HEADING_" ++ t).startsWith "HEADING_" = true := by simp [String.toList_append]
  have hdrop : String.ofList (("HEADING_" ++ t).toList.drop 8) = t := by
    simp [String.toList_append]
  have htitle : ¬ ("HEADING_" ++ t == "TITLE") = true := mt beq_iff_eq.mp (heading_append_ne (by decide))
  have hsub : ¬ ("HEADING_" ++ t == "SUBTITLE") = true :=
    mt beq_iff_eq.mp (heading_append_ne (by decide))
  rw [ofName, if_neg htitle, if_neg hsub, if_pos hs, hdrop]
  rcases parseByte t with _ | n
  · rfl
  · by_cases hn : n > 0 <;> simp [Option.filter, hn]

/-- Every name is one of the three known forms or is read as normal text. -/
theorem ofName_cases (s : String) :
    (s = "TITLE" ∧ ofName s = .title) ∨ (s = "SUBTITLE" ∧ ofName s = .subtitle) ∨
      (∃ t, s = "HEADING_" ++ t) ∨
      (s ≠ "TITLE" ∧ s ≠ "SUBTITLE" ∧ s.startsWith "HEADING_" = false ∧ ofName s = .normalText) := by
  by_cases h₁ : s = "TITLE"
  · exact .inl ⟨h₁, by simp [ofName, h₁]⟩
  by_cases h₂ : s = "SUBTITLE"
  · exact .inr (.inl ⟨h₂, by simp [ofName, h₂]⟩)
  cases h₃ : s.startsWith "HEADING_"
  · exact .inr (.inr (.inr ⟨h₁, h₂, rfl, by simp [ofName, h₁, h₂, h₃]⟩))
  · exact .inr (.inr (.inl ⟨_, eq_heading_append h₃⟩))

/-- A name under `HEADING_` is a heading or normal text. -/
theorem ofName_heading_append_cases :
    ofName ("HEADING_" ++ t) = .normalText ∨ ∃ n, ofName ("HEADING_" ++ t) = .heading n := by
  rw [ofName_heading_append]
  cases (parseByte t).filter (· > 0) with
  | none => exact .inl rfl
  | some n => exact .inr ⟨n, rfl⟩

theorem ofName_eq_title_iff : ofName s = .title ↔ s = "TITLE" := by
  refine ⟨fun h => ?_, fun h => by simp [ofName, h]⟩
  rcases ofName_cases s with ⟨hs, -⟩ | ⟨-, hs⟩ | ⟨t, rfl⟩ | ⟨-, -, -, hs⟩
  · exact hs
  · rw [hs] at h
    cases h
  · rcases ofName_heading_append_cases (t := t) with hs | ⟨n, hs⟩ <;> rw [hs] at h <;> cases h
  · rw [hs] at h
    cases h

theorem ofName_eq_subtitle_iff : ofName s = .subtitle ↔ s = "SUBTITLE" := by
  refine ⟨fun h => ?_, fun h => by simp [ofName, h]⟩
  rcases ofName_cases s with ⟨-, hs⟩ | ⟨hs, -⟩ | ⟨t, rfl⟩ | ⟨-, -, -, hs⟩
  · rw [hs] at h
    cases h
  · exact hs
  · rcases ofName_heading_append_cases (t := t) with hs | ⟨n, hs⟩ <;> rw [hs] at h <;> cases h
  · rw [hs] at h
    cases h

/-- A name reads as the heading of level `n` exactly when it is `HEADING_` and a numeral of `n` from
1 on: only a parsed level from 1 on is a heading. -/
theorem ofName_eq_heading_iff :
    ofName s = .heading n ↔ 1 ≤ n ∧ ∃ t, s = "HEADING_" ++ t ∧ ByteNumeral t n := by
  constructor
  · intro h
    rcases ofName_cases s with ⟨-, hs⟩ | ⟨-, hs⟩ | ⟨t, rfl⟩ | ⟨-, -, -, hs⟩
    · rw [hs] at h
      cases h
    · rw [hs] at h
      cases h
    · rw [ofName_heading_append] at h
      rcases hm : parseByte t with _ | m
      · rw [hm] at h
        cases h
      · rw [hm] at h
        by_cases hpos : m > 0
        · obtain rfl : m = n := by simpa [Option.filter, hpos] using h
          exact ⟨hpos, t, rfl, parseByte_eq_some_iff.mp hm⟩
        · simp [Option.filter, hpos] at h
    · rw [hs] at h
      cases h
  · rintro ⟨hn, t, rfl, ht⟩
    rw [ofName_heading_append, parseByte_eq_some_iff.mpr ht]
    simp [Option.filter, show n > 0 by omega]

/-- A name is normal text when it is none of the three known forms. -/
theorem ofName_eq_normalText_iff : ofName s = .normalText ↔
    s ≠ "TITLE" ∧ s ≠ "SUBTITLE" ∧ ¬ ∃ n t, 1 ≤ n ∧ s = "HEADING_" ++ t ∧ ByteNumeral t n := by
  constructor
  · intro h
    refine ⟨fun ht => ?_, fun ht => ?_, fun ⟨n, t, hn, hs, hb⟩ => ?_⟩
    · rw [ofName_eq_title_iff.mpr ht] at h
      cases h
    · rw [ofName_eq_subtitle_iff.mpr ht] at h
      cases h
    · rw [ofName_eq_heading_iff.mpr ⟨hn, t, hs, hb⟩] at h
      cases h
  · rintro ⟨h₁, h₂, h₃⟩
    cases hs : ofName s with
    | normalText => rfl
    | title => exact absurd (ofName_eq_title_iff.mp hs) h₁
    | subtitle => exact absurd (ofName_eq_subtitle_iff.mp hs) h₂
    | heading m =>
      obtain ⟨hm, t, ht, hb⟩ := ofName_eq_heading_iff.mp hs
      exact absurd ⟨m, t, hm, ht, hb⟩ h₃

end Names

/-! ## Round trips -/

/-- The style is one whose wire form holds it: a heading level is a byte. -/
def LevelFits : NamedStyle → Prop
  | .heading n => n ≤ 255
  | _ => True

/-- Reading back the wire name of a style gives the style, for every style whose level is a
byte but the heading of level 0. -/
theorem ofName_name_eq_iff (x : NamedStyle) : ofName x.name = x ↔ x.LevelFits ∧ x ≠ .heading 0 := by
  cases x with
  | normalText =>
    simp only [name, LevelFits, ne_eq, reduceCtorEq, not_false_eq_true, and_self, iff_true]
    exact ofName_eq_normalText_iff.mpr ⟨by decide, by decide,
      fun ⟨_, _, _, hs, _⟩ => heading_append_ne (by decide) hs.symm⟩
  | title => simp [name, LevelFits, ofName]
  | subtitle => simp [name, LevelFits, ofName]
  | heading n =>
    simp only [name, LevelFits, ne_eq, heading.injEq]
    rw [ofName_eq_heading_iff]
    constructor
    · rintro ⟨hn, t, -, hb⟩
      exact ⟨hb.le, by omega⟩
    · rintro ⟨hn, h0⟩
      exact ⟨by omega, toString n, rfl, byteNumeral_toString hn⟩

/-- Writing the style read from a name gives the name back exactly for the names that `name`
writes: `TITLE`, `SUBTITLE`, `NORMAL_TEXT`, and `HEADING_` with a level from 1 to 255 written
in decimal with no sign and no leading zero. -/
theorem name_ofName_eq_iff (s : String) : (ofName s).name = s ↔
    s = "TITLE" ∨ s = "SUBTITLE" ∨ s = "NORMAL_TEXT" ∨
      ∃ n, 1 ≤ n ∧ n ≤ 255 ∧ s = "HEADING_" ++ toString n := by
  constructor
  · intro h
    cases hs : ofName s with
    | normalText => exact .inr (.inr (.inl (by rw [hs] at h; exact h.symm)))
    | title => exact .inl (ofName_eq_title_iff.mp hs)
    | subtitle => exact .inr (.inl (ofName_eq_subtitle_iff.mp hs))
    | heading n =>
      obtain ⟨hn, t, -, hb⟩ := ofName_eq_heading_iff.mp hs
      rw [hs] at h
      exact .inr (.inr (.inr ⟨n, hn, hb.le, h.symm⟩))
  · rintro (rfl | rfl | rfl | ⟨n, hn, hle, rfl⟩)
    · simp [ofName, name]
    · simp [ofName, name]
    · exact congrArg name ((ofName_name_eq_iff .normalText).mpr ⟨trivial, by simp⟩)
    · exact congrArg name ((ofName_name_eq_iff (.heading n)).mpr ⟨hle, by simp; omega⟩)

/-- How a wire name is read: `TITLE` and `SUBTITLE` are themselves, `HEADING_` followed by a
byte numeral of a level from 1 on is the heading of that level, and every other name is normal
text. Reading back the name of a style gives the style exactly when its level is a byte and it
is not the heading of level 0, and writing the style read from a name gives the name back
exactly when it is written as `name` writes it. -/
theorem ofName_reads_wire_names :
    (∀ s, ofName s = .title ↔ s = "TITLE") ∧
    (∀ s, ofName s = .subtitle ↔ s = "SUBTITLE") ∧
    (∀ s n, ofName s = .heading n ↔ 1 ≤ n ∧ ∃ t, s = "HEADING_" ++ t ∧ ByteNumeral t n) ∧
    (∀ s, ofName s = .normalText ↔
      s ≠ "TITLE" ∧ s ≠ "SUBTITLE" ∧ ¬ ∃ n t, 1 ≤ n ∧ s = "HEADING_" ++ t ∧ ByteNumeral t n) ∧
    (∀ x : NamedStyle, ofName x.name = x ↔ x.LevelFits ∧ x ≠ .heading 0) ∧
    (∀ s, (ofName s).name = s ↔ s = "TITLE" ∨ s = "SUBTITLE" ∨ s = "NORMAL_TEXT" ∨
      ∃ n, 1 ≤ n ∧ n ≤ 255 ∧ s = "HEADING_" ++ toString n) :=
  ⟨fun _ => ofName_eq_title_iff, fun _ => ofName_eq_subtitle_iff, fun _ _ => ofName_eq_heading_iff,
    fun _ => ofName_eq_normalText_iff, ofName_name_eq_iff, name_ofName_eq_iff⟩

example : ofName "HEADING_+07" = .heading 7 ∧ ofName "HEADING_256" = .normalText := by decide +kernel

end DocBridge.NamedStyle
