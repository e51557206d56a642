import Gallery.Bus.Basic
import Gallery.Catalog.Caches
import Gallery.Search.Basic

/-!
# Catalogs

A catalog answers questions about a store through its caches.  It has a bus of
its own on which its caches are registered, the directory first since weights
resolve names through it.
-/

namespace Gallery

/-- The caches as listeners on the bus. -/
inductive CacheName
  | directory
  | weights
  | related
  | stats
  deriving DecidableEq

namespace CacheName

def all : List CacheName :=
  [directory, weights, related, stats]

def label : CacheName → String
  | directory => "tag_directory"
  | weights => "similarity_weights"
  | related => "related_items"
  | stats => "catalog_stats"

end CacheName

structure Catalog (α : Type) where
  config : Config
  bus : Bus CacheName
  caches : Caches α

namespace Catalog

variable {α : Type} [Scalar α]

/-- A catalog that has read nothing yet. -/
def fresh (config : Config) : Catalog α where
  config := config
  bus := ⟨CacheName.all⟩
  caches := .cold config

/-- One cache is told that the store has changed. -/
def invalidate (store : Store) (cache : CacheName) (caches : Caches α) :
    Reaction × Caches α :=
  match cache with
  | .directory =>
    match caches.directory.reload store with
    | (.ok _, directory) => (.succeeded, { caches with directory })
    | (.error _, directory) => (.failed, { caches with directory })
  | .weights => (.succeeded, { caches with weights := caches.weights.invalidate })
  | .related => (.succeeded, { caches with related := caches.related.clear })
  | .stats => (.succeeded, { caches with stats := none })

/-- Tells the caches on the bus that the store has changed. -/
def announce (catalog : Catalog α) (store : Store) : TriggerReport × Catalog α :=
  let (report, caches) := catalog.bus.trigger CacheName.label (invalidate store) catalog.caches
  (report, { catalog with caches })

def execute (catalog : Catalog α) (store : Store) (query : Query) :
    SearchResults × Catalog α :=
  let (results, directory) := Search.execute store catalog.caches.directory query
  (results, { catalog with caches := { catalog.caches with directory } })

def search (catalog : Catalog α) (store : Store) (text : String) :
    SearchResults × Catalog α :=
  catalog.execute store (Query.parse text)

def related (catalog : Catalog α) (store : Store) (id : ItemId) (limit : Nat) :
    List (RelatedItem α) × Catalog α :=
  let (answer, caches) := Caches.relatedTo catalog.config store catalog.caches id limit
  (answer, { catalog with caches })

def weightFor (catalog : Catalog α) (store : Store) (tag : String) : α × Catalog α :=
  let (weight, caches) := Caches.weightFor catalog.config store catalog.caches tag
  (weight, { catalog with caches })

def similarity (catalog : Catalog α) (store : Store) (a b : String) : α × Catalog α :=
  let (score, caches) := Caches.similarity catalog.config store catalog.caches a b
  (score, { catalog with caches })

def stats (catalog : Catalog α) (store : Store) : Except StoreError Stats × Catalog α :=
  let (stats, caches) := catalog.caches.readStats store
  (stats, { catalog with caches })

/-- The names of tags that the catalog answers from. -/
def names (catalog : Catalog α) (store : Store) : TagNames × Catalog α :=
  let (names, caches) := catalog.caches.names store
  (names, { catalog with caches })

def reloadTags (catalog : Catalog α) (store : Store) : Except StoreError Nat × Catalog α :=
  let (count, directory) := catalog.caches.directory.reload store
  (count, { catalog with caches := { catalog.caches with directory } })

/-- Takes every cache off the bus. -/
def unregisterAll (catalog : Catalog α) : Catalog α :=
  { catalog with bus := catalog.bus.clear }

end Catalog

end Gallery
