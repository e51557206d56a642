import Gallery.Record.Basic
import Gallery.Store.Read
import Gallery.Total

/-!
# Writing the store

Each write is a function from a store to a store or an error, so a write that
fails leaves nothing behind.  An item shows its tags as text; every write that
changes the tags of an item, or the category of one of them, writes the texts
anew from the attachments.
-/

namespace Gallery

/-- One more than the largest number in use; the first is one.  All numbers are taken to stay
below `2 ^ 63 - 1`: once that one is in use, a store draws random numbers. -/
def nextId : List Int → Int
  | [] => 1
  | first :: rest => rest.foldl max first + 1

namespace Store

/-! ## Items and the text index -/

def wordsOf (item : StoredItem) : List TextIndex.IndexToken :=
  item.columns.flatMap TextIndex.tokens

/-- The number of tokens in each column of an item. -/
def columnSizes (item : StoredItem) : List Nat :=
  item.columns.map fun text => (TextIndex.tokens text).length

/-- The number of tokens in each column over all items that the index holds. -/
def columnTotals (store : Store) : List Nat :=
  let sizes := store.indexedItems.map columnSizes
  (List.range 8).map fun column => totalOf (fun size => size.getD column 0) sizes

/-- Whether the totals of the index allow an item's texts to be taken out. -/
def canForget (store : Store) (item : StoredItem) : Bool :=
  let covered := List.zipWith (fun (total : Nat) (extra : Int) => total + extra)
    store.columnTotals store.drift.tokens
  0 < store.indexedItems.length + store.drift.rows &&
    (covered.zip (columnSizes item)).all fun (total, size) => size ≤ total

/-- Under a number the index holds each token for one row only. -/
def stripRelics (relics : List Relic) (id : ItemId) (words : List TextIndex.IndexToken) :
    List Relic :=
  relics.map fun relic =>
    if relic.item = id then { relic with layout := relic.layout.without words } else relic

/-- The drift after the index took out the texts of an item and put in those of
the changed item. -/
def driftAfter (store : Store) (item changed : StoredItem) : IndexDrift :=
  let drift := store.drift
  if drift.lost.contains item.id then
    { drift with
      lost := drift.lost.filter (· ≠ item.id)
      rows := drift.rows - 1
      tokens := List.zipWith (fun extra (size : Nat) => extra - size) drift.tokens
        (columnSizes item) }
  else if drift.relics.any (·.item = item.id) then
    { drift with
      relics := stripRelics drift.relics item.id (wordsOf item ++ wordsOf changed) }
  else drift

/-- Rewrites the item with a number.  The index takes out the old texts and puts
in the new ones, which it refuses if its totals do not cover the old ones. -/
def updateItem (store : Store) (id : ItemId) (change : StoredItem → StoredItem) :
    Except StoreError Store := do
  store.require [.items, .textIndex]
  match store.itemWithId? id with
  | none => return store
  | some item =>
    if store.drift ≠ {} && !store.canForget item then throw .refused
    return { store with
      items := store.items.map fun other => if other.id = id then change other else other
      drift := store.driftAfter item (change item) }

/-- The drift after the index put in the texts of a new item. -/
def driftWith (store : Store) (item : StoredItem) : IndexDrift :=
  if store.drift.relics.any (·.item = item.id) then
    { store.drift with
      relics := stripRelics store.drift.relics item.id (wordsOf item) }
  else store.drift

/-- A new item for a record, without tags. -/
def newItem (id : ItemId) (record : ItemRecord) : StoredItem where
  id := id
  filepath := record.filepath
  filename := fileName record.filepath
  contentHash := record.contentHash
  tags := {}
  score := record.score
  favCount := record.favCount
  ingestedAt := record.ingestedAt
  parent := none
  hasChildren := false
  upscaledSize := record.upscaledSize

/-- A stored item after its record came again: a time of ingestion that is not
given again is kept. -/
def refreshedItem (record : ItemRecord) (item : StoredItem) : StoredItem :=
  { item with
    contentHash := record.contentHash
    score := record.score
    favCount := record.favCount
    ingestedAt := record.ingestedAt <|> item.ingestedAt
    upscaledSize := record.upscaledSize }

/-- The item of a record, new or refreshed, and its number. -/
def placeItem (store : Store) (record : ItemRecord) : Except StoreError (ItemId × Store) :=
  match store.itemAt? record.filepath with
  | some item =>
    return (item.id, ← store.updateItem item.id (refreshedItem record))
  | none =>
    let item := newItem (nextId (store.items.map (·.id))) record
    return (item.id, { store with
      items := store.items ++ [item]
      drift := store.driftWith item })

/-- The number of the item at a path. -/
def itemIdAt (store : Store) (path : String) : Except StoreError ItemId := do
  store.require [.items]
  match store.itemAt? path with
  | some item => return item.id
  | none => throw (.noItem path)

def linkParent (store : Store) (child : ItemId) (path : String) :
    Except StoreError Store := do
  let parent ← store.itemIdAt path
  let store ← store.updateItem child fun item => { item with parent := some parent }
  store.updateItem parent fun item => { item with hasChildren := true }

/-! ## Tags and attachments -/

/-- A tag of a new name comes in; one that is there keeps its category. -/
def placeTag (store : Store) (name : String) (category : Category)
    (subcategory : Option Subcategory) : TagId × Store :=
  match store.tagNamed? name with
  | some tag => (tag.id, store)
  | none =>
    let id := nextId (store.tags.map (·.id))
    (id, { store with tags := store.tags ++ [⟨id, name, category, subcategory⟩] })

def isAttached (store : Store) (item : ItemId) (tag : TagId) : Bool :=
  store.attachments.any fun attachment => attachment.item = item ∧ attachment.tag = tag

/-- A tag is attached once; the first provenance stays. -/
def attach (store : Store) (item : ItemId) (tag : TagId) (provenance : Provenance) : Store :=
  if store.isAttached item tag then store
  else { store with attachments := store.attachments ++ [⟨item, tag, provenance⟩] }

def assignTag (item : ItemId) (store : Store) (tag : TagAssignment) : Store :=
  let (id, store) := store.placeTag tag.name tag.effectiveCategory tag.effectiveSubcategory
  store.attach item id tag.provenance

def addSource (item : ItemId) (store : Store) (source : String) : Store :=
  let label : SourceLabel := ⟨item, storedLabel source⟩
  if store.sources.contains label then store
  else { store with sources := store.sources ++ [label] }

def nameOrder (a b : Tag) : Bool :=
  !decide (b.name < a.name)

/-- The names of an item's tags of one category, in order, a space between. -/
def tagText (tags : List Tag) (category : Category) : String :=
  " ".intercalate ((tags.filter (·.category = category)).map (·.name))

/-- The texts that an item's attachments amount to. -/
def attachedTexts (store : Store) (item : ItemId) : CategoryTags :=
  CategoryTags.build (tagText ((store.tagsOf item).mergeSort nameOrder))

/-- Writes the tag texts of an item anew. -/
def refreshTexts (store : Store) (item : ItemId) : Except StoreError Store := do
  store.require [.attachments, .tags]
  store.updateItem item fun old => { old with tags := store.attachedTexts item }

/-! ## Batches -/

def storeRecord (store : Store) (record : ItemRecord) : Except StoreError Store := do
  let (id, store) ← store.placeItem record
  let store ←
    match record.parent with
    | some path => store.linkParent id path
    | none => pure store
  let store := record.tags.foldl (assignTag id) store
  let store := record.sources.foldl (addSource id) store
  store.refreshTexts id

/-- Stores records in order, all of them or none. -/
def storeBatch (store : Store) (batch : List ItemRecord) : Except StoreError Store := do
  store.require [.items, .textIndex, .tags, .attachments, .sources]
  batch.foldlM storeRecord store

/-! ## Single changes -/

def refreshAll (store : Store) (items : List ItemId) : Except StoreError Store :=
  items.foldlM refreshTexts store

/-- Moves a tag to a category.  Answers whether there is such a tag. -/
def setTagCategory (store : Store) (name : String) (category : Category)
    (subcategory : Option Subcategory) : Except StoreError (Bool × Store) := do
  store.require [.tags]
  match store.tagNamed? name with
  | none => return (false, store)
  | some tag =>
    store.require [.attachments]
    let kept := if category.allowsSubcategory then subcategory else none
    let moved : Store := { store with
      tags := store.tags.map fun other =>
        if other.name = name then { other with category := category, subcategory := kept }
        else other }
    return (true, ← moved.refreshAll (store.carriers tag.id))

/-- Takes a tag off the item at a path.  Answers whether the item had it. -/
def removeTag (store : Store) (path tag : String) : Except StoreError (Bool × Store) := do
  let item ← store.itemIdAt path
  store.require [.attachments, .tags]
  match store.tagNamed? tag with
  | none => return (false, store)
  | some tag =>
    if store.isAttached item tag.id then
      let detached := { store with
        attachments := store.attachments.filter fun attachment =>
          ¬(attachment.item = item ∧ attachment.tag = tag.id) }
      return (true, ← detached.refreshTexts item)
    else return (false, store)

/-- Puts the item at a path into a pool. -/
def addToPool (store : Store) (pool path : String) : Except StoreError Store := do
  let item ← store.itemIdAt path
  store.require [.pools, .memberships]
  let membership : Membership := ⟨pool, item⟩
  if store.memberships.contains membership then return store
  return { store with memberships := store.memberships ++ [membership] }

def setFavorite (store : Store) (path : String) (favorite : Bool) :
    Except StoreError Store := do
  let item ← store.itemIdAt path
  store.require [.favorites]
  if favorite then
    if store.favorites.contains item then return store
    return { store with favorites := store.favorites ++ [item] }
  return { store with favorites := store.favorites.filter (· ≠ item) }

def isOrphan (store : Store) (tag : Tag) : Bool :=
  !store.attachments.any (·.tag = tag.id)

/-- Removes the tags that no item has, and answers how many there were. -/
def deleteOrphanTags (store : Store) : Except StoreError (Nat × Store) := do
  store.require [.tags, .attachments, .items]
  return ((store.tags.filter store.isOrphan).length,
    { store with tags := store.tags.filter (! store.isOrphan ·) })

/-- Puts a tag in past the writers, under a number of its own if one is given. -/
def insertTag (store : Store) (id? : Option TagId) (name : String) (category : Category)
    (subcategory : Option Subcategory) : Except StoreError Store := do
  store.require [.tags]
  let id := id?.getD (nextId (store.tags.map (·.id)))
  if store.tags.any fun tag => tag.id = id ∨ tag.name = name then throw .refused
  return { store with tags := store.tags ++ [⟨id, name, category, subcategory⟩] }

/-! ## Losing and regaining relations -/

/-- Whether an item goes before one that it is the parent of.  The index cannot
be told of the change to the other one while the items are being dropped. -/
def holdsBackDrop (item : StoredItem) : Bool :=
  item.parent.any (· < item.id)

/-- The drift after all items went, while the index held on to their texts. -/
def driftWithoutItems (store : Store) : IndexDrift where
  relics := store.looseRelics ++ store.indexedItems.map fun item =>
    ⟨item.id, store.indexedLayout item⟩
  rows := store.drift.rows + store.indexedItems.length
  tokens := List.zipWith (fun extra (total : Nat) => extra + total) store.drift.tokens
    store.columnTotals

/-- The relations that must be there for one to be dropped: itself, the text index
where items go, and what else is referred to by rows that go along. -/
def neededToDrop (store : Store) (relation : Relation) : List Relation :=
  let along (referring referred : Relation) : List Relation :=
    if store.missing.contains referring then [] else [referred]
  relation :: match relation with
    | .items => .textIndex :: (along .attachments .tags ++ along .memberships .pools)
    | .tags => along .attachments .items
    | .pools => along .memberships .items
    | _ => []

/-- Drops a relation, and with it the rows elsewhere that refer to its rows. -/
def drop (store : Store) (relation : Relation) : Except StoreError Store := do
  store.require (store.neededToDrop relation)
  if relation = .items && store.items.any holdsBackDrop then throw .refused
  let emptied : Store :=
    match relation with
    | .tags => { store with tags := [], attachments := [] }
    | .items =>
      { store with
        items := [], attachments := [], sources := [], memberships := []
        favorites := [], drift := store.driftWithoutItems }
    | .attachments => { store with attachments := [] }
    | .sources => { store with sources := [] }
    | .pools => { store with memberships := [] }
    | .memberships => { store with memberships := [] }
    | .favorites => { store with favorites := [] }
    | .textIndex => { store with drift := { lost := store.items.map (·.id) } }
  return { emptied with missing := relation :: store.missing }

/-- Opens the store again: a relation that is missing is there again, empty. -/
def reopen (store : Store) : Store :=
  { store with missing := [] }

end Store

end Gallery
