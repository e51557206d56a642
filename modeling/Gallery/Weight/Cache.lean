import Gallery.Directory
import Gallery.Weight.Similarity

/-!
# Remembered weights

Weights are computed from a snapshot of the store: how many items have each
tag, how each tag is classified, and how many items there are.  The snapshot is
taken at the first use and kept, with the weights computed from it, until it is
invalidated.  Where the store cannot be read, weights are those of an empty
store and are not kept.
-/

namespace Gallery

open Scalar

structure WeightOptions where
  rarity : Rarity := .compressed
  useSubcategories : Bool := false
  deriving DecidableEq

structure WeightSnapshot where
  frequencies : List (TagId × Nat) := []
  tags : List Tag := []
  totalItems : Nat := 0
  deriving DecidableEq

namespace WeightSnapshot

def take (store : Store) : Except StoreError WeightSnapshot := do
  let tags ← store.tagRows
  let frequencies ← store.frequencies
  let totalItems ← store.itemCount
  return { frequencies, tags, totalItems }

def frequency (snapshot : WeightSnapshot) (tag : TagId) : Nat :=
  ((snapshot.frequencies.find? (·.1 = tag)).map (·.2)).getD 0

variable {α : Type} [Scalar α]

/-- The factor of a tag; that of a general tag if the snapshot has it not. -/
def factor (snapshot : WeightSnapshot) (options : WeightOptions) (id : TagId) : α :=
  match snapshot.tags.find? (·.id = id) with
  | some tag => categoryWeight tag.category tag.subcategory options.useSubcategories
  | none => whole 1

def weight (snapshot : WeightSnapshot) (options : WeightOptions) (id : TagId) : α :=
  mul (options.rarity.weight (snapshot.frequency id) snapshot.totalItems)
    (snapshot.factor options id)

end WeightSnapshot

/-- A snapshot and the weights that were computed from it, by name. -/
structure WeightGeneration (α : Type) where
  snapshot : WeightSnapshot
  known : List (String × α) := []

structure WeightCache (α : Type) where
  current : Option (WeightGeneration α) := none

namespace WeightCache

variable {α : Type} [Scalar α]

/-- Takes the snapshot if there is none. -/
def prime (cache : WeightCache α) (store : Store) : WeightCache α :=
  match cache.current with
  | some _ => cache
  | none =>
    match WeightSnapshot.take store with
    | .ok snapshot => ⟨some { snapshot }⟩
    | .error _ => cache

/-- The weight of a known tag. -/
def weight (cache : WeightCache α) (store : Store) (options : WeightOptions)
    (name : String) (id : TagId) : α × WeightCache α :=
  let cache := cache.prime store
  match cache.current with
  | some generation =>
    match generation.known.find? (·.1 = name) with
    | some (_, weight) => (weight, cache)
    | none =>
      let weight := generation.snapshot.weight options id
      (weight, ⟨some { generation with known := (name, weight) :: generation.known }⟩)
  | none => (WeightSnapshot.weight {} options id, cache)

def invalidate (_ : WeightCache α) : WeightCache α :=
  ⟨none⟩

end WeightCache

end Gallery
