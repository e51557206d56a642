import Gallery.Distinct
import Gallery.Search.Nesting
import Gallery.Search.Order
import Gallery.Store.Read
import Gallery.Text.Pattern
import Gallery.TextIndex.Match

/-!
# Candidates of a query

The store answers the structural part of a query, finds the items with given
tags, and asks its text index.  Its own comparisons fold basic Latin letters
only.
-/

namespace Gallery

open Text

namespace Store

/-! ## Structural conditions -/

/-- The relations that the structural conditions of a query name. -/
def structuralRelations (query : Query) : List Relation :=
  (if query.sources.isEmpty then [] else [.sources]) ++
    (match query.pool with
      | some (.named _) => [.memberships, .pools]
      | some .any => [.memberships]
      | none => []) ++
    (if query.favorite then [.favorites] else [])

/-- Whether one of the sources asked for is recorded with an item. -/
def sourceMatches (store : Store) (query : Query) (item : StoredItem) : Bool :=
  query.sources.isEmpty ||
    store.sources.any fun row => row.item = item.id && query.sources.contains row.label

/-- The pattern of the paths with an ending. -/
def endingPattern (ending : String) : List Char :=
  '%' :: literally ending.toList

def extensionMatches (query : Query) (item : StoredItem) : Bool :=
  query.extensions.isEmpty ||
    let path := (asciiLower item.filepath).toList
    query.extensions.any fun ending => isLike (endingPattern ending) path

/-- How many bytes a pattern may have. -/
def patternLimit : Nat := 50000

def isOverlong (pattern : List Char) : Bool :=
  patternLimit < (String.ofList pattern).utf8ByteSize

/-- Whether the store meets an overlong pattern before an ending that fits. -/
def meetsOverlong (query : Query) (item : StoredItem) : Bool :=
  let path := (asciiLower item.filepath).toList
  ((query.extensions.map endingPattern).find? fun pattern =>
    isOverlong pattern || isLike pattern path).any isOverlong

def poolMatches (store : Store) (query : Query) (item : StoredItem) : Bool :=
  match query.pool with
  | some (.named pool) =>
    store.memberships.any fun m => m.item = item.id ∧ asciiLower m.pool = pool
  | some .any => store.memberships.any (·.item = item.id)
  | none => true

def relationshipMatches (query : Query) (item : StoredItem) : Bool :=
  match query.relationship with
  | some .hasParent => item.parent.isSome
  | some .hasChildren => item.hasChildren
  | some .any => item.parent.isSome || item.hasChildren
  | none => true

/-- An item is upscaled if its row has a size for it. -/
def upscaledMatches (query : Query) (item : StoredItem) : Bool :=
  match query.upscaled with
  | some .present => item.upscaledSize.isSome
  | some .absent => item.upscaledSize.isNone
  | none => true

/-- Whether an item meets the structural conditions of a query. -/
def meets (store : Store) (query : Query) (item : StoredItem) : Bool :=
  store.sourceMatches query item &&
    extensionMatches query item &&
    query.filename.all (contains (asciiLower item.filename)) &&
    store.poolMatches query item &&
    relationshipMatches query item &&
    (!query.favorite || store.favorites.contains item.id) &&
    upscaledMatches query item

/-! ## Scans -/

def scanOrdered (store : Store) (key : Option OrderKey) : Except StoreError (List Item) := do
  store.require [.items]
  return scanSort key (store.items.map StoredItem.view)

def scanFiltered (store : Store) (query : Query) : Except StoreError (List Item) := do
  store.require (.items :: structuralRelations query)
  if !(Nesting.all (Nesting.structural query)).isAccepted then throw .refused
  if store.items.any (meetsOverlong query) then throw .refused
  return scanSort query.order ((store.items.filter (store.meets query)).map StoredItem.view)

/-- Whether an item has every tag of a list. -/
def hasAll (store : Store) (item : ItemId) (tags : List TagId) : Bool :=
  let held := (store.attachmentsOf item).map (·.tag)
  tags.all held.contains

def hasNone (store : Store) (item : ItemId) (tags : List TagId) : Bool :=
  let held := (store.attachmentsOf item).map (·.tag)
  !tags.any held.contains

/-- The items with all tags of one list, none of another, and the structural
conditions. -/
def withTags (store : Store) (query : Query) (included excluded : List TagId) :
    Except StoreError (List Item) := do
  store.require (.items :: structuralRelations query)
  if !included.isEmpty || !excluded.isEmpty then store.require [.attachments]
  let conditions := Nesting.included (distinct included).length ++
    Nesting.excluded (distinct excluded).length ++ Nesting.structural query
  if !(Nesting.all conditions).isAccepted then throw .refused
  let holders := store.items.filter fun item => store.hasAll item.id included
  if holders.any (meetsOverlong query) then throw .refused
  let kept := holders.filter fun item =>
    store.hasNone item.id excluded && store.meets query item
  return scanSort none (kept.map StoredItem.view)

/-! ## The text index -/

def document (store : Store) (item : StoredItem) : TextIndex.Document where
  item := item.id
  layout := store.indexedLayout item
  size := totalOf (fun text => (TextIndex.tokens text).length) item.columns

/-- What is left of an item that is gone can be found, but is not ranked. -/
def relicDocument (relic : Relic) : TextIndex.Document where
  item := relic.item
  layout := relic.layout
  size := 0

/-- The text index with its totals. -/
def corpus (store : Store) : TextIndex.Corpus :=
  let documents := store.indexedItems.map store.document
  let tokens : Int := totalOf TextIndex.Document.size documents
  { documents := documents ++ store.looseRelics.map relicDocument
    rows := (documents.length + store.drift.rows).toNat
    tokens := (store.drift.tokens.foldl (· + ·) tokens).toNat }

/-- The items that the index finds for an expression, with their ranks. -/
def askIndex (store : Store) (expression : TextIndex.Expression) :
    Except StoreError (List (ItemId × Option Float)) := do
  store.require [.textIndex]
  if !expression.isAdmissible then throw .refused
  return store.corpus.ranked expression.search

/-- How many terms a condition may have that looks for each in every column. -/
def looseTermLimit : Nat := 987

/-- The general terms that are no known tags. -/
def looseTerms (query : Query) (exact : List Bool) : List String :=
  ((TextIndex.withExactness query.general exact).filter (! ·.2)).map (·.1)

/-- Whether every loose term lies within the path or one of the tag texts. -/
def holdsLoosely (terms : List String) (item : StoredItem) : Bool :=
  let columns := item.columns.map asciiLower
  terms.all fun term => columns.any fun text => contains text term

/-- Ranked items first, the lower rank first; equal ranks by number. -/
def rankLe (a b : Option Float × Item) : Bool :=
  match a.1, b.1 with
  | some x, some y => x < y || (!(y < x) && a.2.id ≤ b.2.id)
  | some _, none => true
  | none, some _ => false
  | none, none => a.2.id ≤ b.2.id

/-- The items that the text index finds, and those that hold every loose term
somewhere, the ranked ones first. -/
def hybrid (store : Store) (query : Query) (exact : List Bool) :
    Except StoreError (List Item) := do
  store.require [.items]
  match TextIndex.Expression.ofQuery? query exact with
  | none => return scanSort none (store.items.map StoredItem.view)
  | some expression =>
    let loose := looseTerms query exact
    if looseTermLimit < loose.length then throw .refused
    let found ← store.askIndex expression
    let ranked := store.items.filterMap fun item =>
      match found.find? (·.1 = item.id) with
      | some (_, rank) => some (rank, item.view)
      | none =>
        if !loose.isEmpty && holdsLoosely loose item then some (none, item.view) else none
    return (ranked.mergeSort rankLe).map (·.2)

end Store

end Gallery
