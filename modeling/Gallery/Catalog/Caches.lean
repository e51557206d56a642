import Gallery.Catalog.Stats
import Gallery.Config.Basic
import Gallery.Memo
import Gallery.Weight.Cache

/-!
# The caches of a catalog

Four caches stand between a catalog and its store: the tag directory, the
weights, the related items and the statistics.  Each is filled at its first use
and dropped when the bus tells it that the store has changed; the directory is
then read again at once.  Weights resolve names through the directory, and
related items are scored with weights.
-/

namespace Gallery

open Scalar Text

structure RelatedItem (α : Type) where
  item : Hit
  score : α

structure Caches (α : Type) where
  directory : Directory := {}
  weights : WeightCache α := {}
  related : Memo (ItemId × Nat) (List (RelatedItem α))
  stats : Option Stats := none

namespace Caches

/-- Nothing is cached. -/
def cold {α : Type} (config : Config) : Caches α where
  related := .empty config.relatedCapacity

variable {α : Type} [Scalar α]

/-! ## The directory -/

/-- The names in use; they are read if they were not yet. -/
def names (caches : Caches α) (store : Store) : TagNames × Caches α :=
  let (names, directory) := caches.directory.names store
  (names, { caches with directory })

/-! ## Weights -/

def options (config : Config) : WeightOptions :=
  ⟨config.rarity, config.useSubcategories⟩

def weightFor (config : Config) (store : Store) (caches : Caches α) (tag : String) :
    α × Caches α :=
  let (names, caches) := caches.names store
  match names.id? tag with
  | none => (unknownTagWeight, caches)
  | some id =>
    let (weight, weights) := caches.weights.weight store (options config) tag id
    (weight, { caches with weights })

/-- Weighs tags one after another, and lists them with their weights. -/
def weigh (config : Config) (store : Store) :
    Caches α → List String → List (String × α) × Caches α
  | caches, [] => ([], caches)
  | caches, tag :: tags =>
    let (weight, caches) := weightFor config store caches tag
    let (rest, caches) := weigh config store caches tags
    ((tag, weight) :: rest, caches)

/-- The weight listed for a tag. -/
def listedWeight (weights : List (String × α)) (tag : String) : α :=
  ((weights.find? (·.1 = tag)).map (·.2)).getD unknownTagWeight

/-- How alike two tag sets are under the policy of a catalog. -/
def score (config : Config) (store : Store) (caches : Caches α) (a b : List String) :
    α × Caches α :=
  match config.similarity with
  | .jaccard => (jaccard a b, caches)
  | .weighted =>
    if a.isEmpty || b.isEmpty then (whole 0, caches)
    else
      let (weights, caches) := weigh config store caches (union a b)
      (weightedJaccard (listedWeight weights) a b, caches)

/-- How alike two texts of tags are. -/
def similarity (config : Config) (store : Store) (caches : Caches α) (a b : String) :
    α × Caches α :=
  score config store caches (distinct (words a)) (distinct (words b))

/-! ## Related items -/

def candidateCeiling : Nat := 500

/-- The least score of a related item. -/
def leastScore : α := ratio 5 100

/-- The candidates with their scores against a tag set. -/
def scoreAll (config : Config) (store : Store) (tags : List String) :
    Caches α → List Item → List (RelatedItem α) × Caches α
  | caches, [] => ([], caches)
  | caches, item :: items =>
    let (score, caches) := score config store caches tags item.tags.tagSet
    let (rest, caches) := scoreAll config store tags caches items
    (⟨item.hit, score⟩ :: rest, caches)

/-- The higher score first; equal scores by number. -/
def relatedLe (a b : RelatedItem α) : Bool :=
  !atMost a.score b.score || (atMost b.score a.score && a.item.id ≤ b.item.id)

/-- The best of the scored candidates. -/
def best (limit : Nat) (scored : List (RelatedItem α)) : List (RelatedItem α) :=
  ((scored.filter fun related => atMost leastScore related.score).mergeSort relatedLe).take
    limit

/-- The reference item and the candidates to score; none where there is nothing
to relate to. -/
def relatedQuestion (store : Store) (id : ItemId) (limit : Nat) :
    Except StoreError (Option (Item × List Item)) := do
  if limit = 0 then return none
  match ← store.itemById id with
  | none => return none
  | some reference =>
    if reference.tags.joined.isEmpty then return none
    return some (reference, ← store.relatedCandidates id candidateCeiling)

/-- Reads what scoring needs ahead of it. -/
def prime (config : Config) (store : Store) (caches : Caches α) : Caches α :=
  match config.similarity with
  | .jaccard => caches
  | .weighted =>
    let (_, caches) := caches.names store
    { caches with weights := caches.weights.prime store }

def computeRelated (config : Config) (store : Store) (caches : Caches α) (id : ItemId)
    (limit : Nat) : Except StoreError (List (RelatedItem α)) × Caches α :=
  match relatedQuestion store id limit with
  | .error fault => (.error fault, caches)
  | .ok none => (.ok [], caches)
  | .ok (some (reference, candidates)) =>
    let (scored, caches) :=
      scoreAll config store reference.tags.tagSet (prime config store caches) candidates
    (.ok (best limit scored), caches)

/-- The items most like an item, the most alike first.  An answer is remembered
unless the store could not be read. -/
def relatedTo (config : Config) (store : Store) (caches : Caches α) (id : ItemId)
    (limit : Nat) : List (RelatedItem α) × Caches α :=
  match caches.related.use? (id, limit) with
  | some (answer, related) => (answer, { caches with related })
  | none =>
    match computeRelated config store caches id limit with
    | (.ok answer, caches) =>
      (answer, { caches with related := caches.related.put (id, limit) answer })
    | (.error _, caches) => ([], caches)

/-! ## Statistics -/

def readStats (store : Store) (caches : Caches α) : Except StoreError Stats × Caches α :=
  match caches.stats with
  | some stats => (.ok stats, caches)
  | none =>
    match Stats.compute store with
    | .ok stats => (.ok stats, { caches with stats := some stats })
    | .error fault => (.error fault, caches)

end Caches

end Gallery
