import Gallery.TextIndex.Token

/-!
# Layouts

A row of the text index is laid out in columns, and a column in positions.  A text
has one token at each position.  Where the index still holds tokens of an earlier
row under the same number, the two layouts lie over one another, and a position
may have several tokens.
-/

namespace Gallery.TextIndex

/-- The tokens at a position. -/
abbrev Slot := List IndexToken

abbrev Layout := List (List Slot)

def layoutOf (texts : List String) : Layout :=
  texts.map fun text => (tokens text).map ([·])

/-- Two lists side by side, joined where both go on. -/
def joinLists {α : Type} (join : α → α → α) : List α → List α → List α
  | [], second => second
  | first, [] => first
  | a :: first, b :: second => join a b :: joinLists join first second

namespace Layout

/-- Two layouts over one another. -/
def above (upper lower : Layout) : Layout :=
  joinLists (joinLists (· ++ ·)) upper lower

/-- The layout after some tokens were taken out wherever they stood. -/
def without (layout : Layout) (taken : List IndexToken) : Layout :=
  layout.map (·.map (·.filter (! taken.contains ·)))

theorem above_nil (layout : Layout) : layout.above [] = layout := by
  cases layout <;> rfl

end Layout

end Gallery.TextIndex
