import Gallery.Weight.Similarity

/-!
# Settings of a catalog
-/

namespace Gallery

structure Config where
  databasePath : String := "catalog.db"
  similarity : Policy := .weighted
  rarity : Rarity := .compressed
  useSubcategories : Bool := false
  /-- How many answers about related items are remembered. -/
  relatedCapacity : Nat := 256
  deriving DecidableEq

end Gallery
