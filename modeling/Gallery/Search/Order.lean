import Gallery.Item.Basic
import Gallery.Query.Basic

/-!
# Orders of items

An order key compares items by one facet.  A facet that is not set counts as
lower than any value.  Sorting is stable, so items that a key does not tell
apart keep the order they came in.
-/

namespace Gallery

/-- Whether a facet is at most another one. -/
def facetLe : Option Int → Option Int → Bool
  | none, _ => true
  | some _, none => false
  | some a, some b => a ≤ b

namespace OrderKey

/-- Whether the first item may stand before the second. -/
def le (key : OrderKey) (a b : Item) : Bool :=
  match key with
  | newest => facetLe b.ingestedAt a.ingestedAt
  | oldest => facetLe a.ingestedAt b.ingestedAt
  | score => facetLe b.score a.score
  | favorites => facetLe b.favCount a.favCount
  | random => true

def sort (key : OrderKey) (items : List Item) : List Item :=
  items.mergeSort key.le

end OrderKey

/-- The order in which the store returns its items for a key: by the facet, and
items that it does not tell apart by number, the newest key downwards. -/
def scanLe (key : Option OrderKey) (a b : Item) : Bool :=
  match key with
  | some .newest =>
    facetLe b.ingestedAt a.ingestedAt &&
      (!facetLe a.ingestedAt b.ingestedAt || b.id ≤ a.id)
  | some .oldest =>
    facetLe a.ingestedAt b.ingestedAt &&
      (!facetLe b.ingestedAt a.ingestedAt || a.id ≤ b.id)
  | some .score =>
    facetLe b.score a.score && (!facetLe a.score b.score || a.id ≤ b.id)
  | some .favorites =>
    facetLe b.favCount a.favCount && (!facetLe a.favCount b.favCount || a.id ≤ b.id)
  | some .random => a.id ≤ b.id
  | none => a.id ≤ b.id

def scanSort (key : Option OrderKey) (items : List Item) : List Item :=
  items.mergeSort (scanLe key)

end Gallery
