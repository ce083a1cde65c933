import DocBridge.Edit.Style

/-!
# The document model

A fetched document as the renderer reads it: the blocks of its body and the registry that
says, for each list, how each nesting level is drawn.

A block is a paragraph (runs of text sharing one inline style, an optional named style
and an optional list membership), a table (rows of cells of runs) or a section break.
A list level is ordered when it names a glyph type other than the empty one and
`GLYPH_TYPE_UNSPECIFIED`; unknown lists and levels count as unordered
(`ListRegistry.isOrdered`). The registry keeps its ids strictly sorted (`ListRegistry.sorted`),
so it holds one entry per id (`ListRegistry.ids_nodup`), and adding a list keeps them so
(`ListRegistry.pairwise_insertEntry`).
-/

namespace DocBridge.Model

/-- A run of text sharing one inline style. -/
structure InlineRun where
  text : String := ""
  bold : Bool := false
  italic : Bool := false
  strikethrough : Bool := false
  underline : Bool := false
  linkUrl : Option String := none
  fontFamily : Option String := none
  deriving Repr, Inhabited, DecidableEq

/-- A run of plain text. -/
def InlineRun.plain (text : String) : InlineRun := { text }

/-- The list a paragraph belongs to, and how deep in it. -/
structure BulletInfo where
  listId : String
  nestingLevel : Nat := 0
  deriving Repr, Inhabited, DecidableEq

/-- A paragraph of the body. -/
structure Paragraph where
  namedStyle : Option NamedStyle := none
  bullet : Option BulletInfo := none
  runs : List InlineRun := []
  deriving Repr, Inhabited

/-- The text of a paragraph: its runs' texts one after another. -/
def Paragraph.text (p : Paragraph) : String := String.join (p.runs.map (·.text))

/-- A table cell. -/
structure TableCell where
  runs : List InlineRun := []
  deriving Repr, Inhabited

/-- A table row. -/
structure TableRow where
  cells : List TableCell := []
  deriving Repr, Inhabited

/-- A table. -/
structure Table where
  rows : List TableRow := []
  deriving Repr, Inhabited

/-- A block of the body. -/
inductive Block where
  | paragraph (p : Paragraph)
  | table (t : Table)
  | sectionBreak
  deriving Repr, Inhabited

/-- How one nesting level of a list is drawn: ordered levels name a glyph type, unordered
ones a glyph symbol. -/
structure ListLevel where
  glyphType : Option String := none
  glyphSymbol : Option String := none
  deriving Repr, Inhabited, DecidableEq

/-- Whether a level is ordered: it names a glyph type that is neither empty nor
`GLYPH_TYPE_UNSPECIFIED`. -/
def ListLevel.isOrdered (l : ListLevel) : Bool :=
  match l.glyphType with
  | some t => t != "" && t != "GLYPH_TYPE_UNSPECIFIED"
  | none => false

/-- The levels of each list, by list id: the entries sorted by id, with one entry per id. -/
structure ListRegistry where
  lists : List (String × List ListLevel)
  sorted : (lists.map Prod.fst).Pairwise (· < ·)
  deriving Repr

namespace ListRegistry

/-- The registry with no list. -/
def empty : ListRegistry := ⟨[], .nil⟩

instance : EmptyCollection ListRegistry := ⟨empty⟩

instance : Inhabited ListRegistry := ⟨empty⟩

/-- Inserts a list's levels into entries sorted by id, replacing the entry of the same id. -/
def insertEntry (id : String) (levels : List ListLevel) :
    List (String × List ListLevel) → List (String × List ListLevel)
  | [] => [(id, levels)]
  | (k, v) :: rest =>
    if id == k then (id, levels) :: rest
    else if id < k then (id, levels) :: (k, v) :: rest
    else (k, v) :: insertEntry id levels rest

/-- After an insertion the ids are the inserted one and those that were there. -/
theorem mem_insertEntry {id x : String} {levels : List ListLevel}
    {l : List (String × List ListLevel)} (h : x ∈ (insertEntry id levels l).map Prod.fst) :
    x = id ∨ x ∈ l.map Prod.fst := by
  induction l with
  | nil => simpa [insertEntry] using h
  | cons e rest ih =>
    obtain ⟨k, v⟩ := e
    rw [insertEntry] at h
    split at h
    · simp only [List.map_cons, List.mem_cons] at h ⊢
      rcases h with rfl | h
      · exact .inl rfl
      · exact .inr (.inr h)
    · split at h
      · simpa using h
      · simp only [List.map_cons, List.mem_cons] at h ⊢
        rcases h with rfl | h
        · exact .inr (.inl rfl)
        · rcases ih h with rfl | h
          · exact .inl rfl
          · exact .inr (.inr h)

/-- Ids are ordered totally: of two different ids, the one not below the other is above it. -/
theorem lt_of_not_lt {a b : String} (hne : ¬ a = b) (hlt : ¬ a < b) : b < a :=
  String.not_le.mp fun hab => hne (String.le_antisymm hab (String.not_lt.mp hlt))

/-- An insertion keeps the ids strictly sorted. -/
theorem pairwise_insertEntry {id : String} {levels : List ListLevel}
    {l : List (String × List ListLevel)} (h : (l.map Prod.fst).Pairwise (· < ·)) :
    ((insertEntry id levels l).map Prod.fst).Pairwise (· < ·) := by
  induction l with
  | nil => exact List.pairwise_singleton _ _
  | cons e rest ih =>
    obtain ⟨k, v⟩ := e
    rw [List.map_cons, List.pairwise_cons] at h
    rw [insertEntry]
    split
    · rename_i heq
      obtain rfl : id = k := by simpa using heq
      exact List.pairwise_cons.mpr h
    · split
      · rename_i hlt
        refine List.pairwise_cons.mpr ⟨fun x hx => ?_, List.pairwise_cons.mpr h⟩
        rcases List.mem_cons.mp hx with rfl | hx
        · exact hlt
        · exact String.lt_trans hlt (h.1 x hx)
      · rename_i hne hlt
        refine List.pairwise_cons.mpr ⟨fun x hx => ?_, ih h.2⟩
        rcases mem_insertEntry hx with rfl | hx
        · exact lt_of_not_lt (by simpa using hne) hlt
        · exact h.1 x hx

/-- A registry holds one entry per id. -/
theorem ids_nodup (r : ListRegistry) : (r.lists.map Prod.fst).Nodup := by
  refine r.sorted.imp fun {a b} hlt => ?_
  rintro rfl
  exact String.lt_irrefl a hlt

/-- Adds a list, replacing one of the same id, keeping the ids sorted. -/
def insert (r : ListRegistry) (id : String) (levels : List ListLevel) : ListRegistry :=
  ⟨insertEntry id levels r.lists, pairwise_insertEntry r.sorted⟩

/-- The levels of a list. -/
def levels? (r : ListRegistry) (id : String) : Option (List ListLevel) :=
  (r.lists.find? (·.1 == id)).map (·.2)

/-- Whether a list is ordered at a nesting level; unknown lists and levels are not. -/
def isOrdered (r : ListRegistry) (id : String) (level : Nat) : Bool :=
  match r.levels? id with
  | some levels =>
    match levels[level]? with
    | some l => l.isOrdered
    | none => false
  | none => false

end ListRegistry

/-- A document: its blocks and its list registry. -/
structure DocumentModel where
  blocks : List Block := []
  lists : ListRegistry := {}
  deriving Repr, Inhabited

end DocBridge.Model
