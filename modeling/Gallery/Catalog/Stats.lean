import Gallery.Store.Read
import Gallery.Total

/-!
# Statistics

Counters over the whole store, and the tags with the most uses.
-/

namespace Gallery

structure Stats where
  totalItems : Nat
  totalTags : Nat
  tagsByCategory : List (Category × Nat)
  topTags : List (String × Nat)
  deriving DecidableEq

/-- How many of the most used tags are listed. -/
def topTagLimit : Nat := 20

def Stats.compute (store : Store) : Except StoreError Stats := do
  let tagsByCategory ← store.tagCounts
  let totalItems ← store.itemCount
  let topTags ← store.topTags topTagLimit
  return { totalItems, totalTags := totalOf (·.2) tagsByCategory, tagsByCategory, topTags }

end Gallery
