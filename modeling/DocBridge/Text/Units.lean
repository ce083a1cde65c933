/-!
# UTF-16 code units

Document offsets count UTF-16 code units: a character of the Basic Multilingual Plane
takes one unit and every character above it takes two (a surrogate pair). `units16`
measures a text in these units, and `units16_append` says the measure adds up, which is
what lets the compiler advance its cursor one inserted text at a time.
-/

namespace DocBridge.Text

/-- The UTF-16 code units that encode `c`: two above U+FFFF, one otherwise. -/
def charUnits (c : Char) : Nat :=
  if c.val < 0x10000 then 1 else 2

/-- The UTF-16 code units of a list of characters. -/
def listUnits : List Char → Nat
  | [] => 0
  | c :: cs => charUnits c + listUnits cs

/-- The length of a text in UTF-16 code units. -/
def units16 (s : String) : Nat :=
  listUnits s.toList

theorem charUnits_pos (c : Char) : 0 < charUnits c := by
  unfold charUnits; split <;> omega

theorem listUnits_append (xs ys : List Char) :
    listUnits (xs ++ ys) = listUnits xs + listUnits ys := by
  induction xs with
  | nil => simp [listUnits]
  | cons c cs ih => simp [listUnits, ih]; omega

theorem units16_append (s t : String) : units16 (s ++ t) = units16 s + units16 t := by
  simp [units16, String.toList_append, listUnits_append]

theorem units16_eq_zero_iff (s : String) : units16 s = 0 ↔ s = "" := by
  unfold units16
  constructor
  · intro h
    cases hs : s.toList with
    | nil => exact String.toList_eq_nil_iff.mp hs
    | cons c cs =>
      rw [hs] at h
      have := charUnits_pos c
      simp [listUnits] at h
      omega
  · intro h; subst h; simp [listUnits]

end DocBridge.Text
