import Gallery.Store.Basic

/-!
# Reading the store

Look-ups by key, and the summaries that caches are filled from.  A reading that
names a missing relation is refused.
-/

namespace Gallery.Store

def itemWithId? (store : Store) (id : ItemId) : Option StoredItem :=
  store.items.find? (·.id = id)

def itemAt? (store : Store) (path : String) : Option StoredItem :=
  store.items.find? (·.filepath = path)

def tagWithId? (store : Store) (id : TagId) : Option Tag :=
  store.tags.find? (·.id = id)

def tagNamed? (store : Store) (name : String) : Option Tag :=
  store.tags.find? (·.name = name)

/-- The attachments of an item, the oldest first. -/
def attachmentsOf (store : Store) (item : ItemId) : List Attachment :=
  store.attachments.filter (·.item = item)

/-- The items that have a tag, in the order in which they got it. -/
def carriers (store : Store) (tag : TagId) : List ItemId :=
  (store.attachments.filter (·.tag = tag)).map (·.item)

/-- The tags of an item. -/
def tagsOf (store : Store) (item : ItemId) : List Tag :=
  (store.attachmentsOf item).filterMap fun attachment => store.tagWithId? attachment.tag

def sourcesOf (store : Store) (item : ItemId) : List String :=
  (store.sources.filter (·.item = item)).map (·.label)

/-- The items whose texts the text index holds. -/
def indexedItems (store : Store) : List StoredItem :=
  store.items.filter fun item => !store.drift.lost.contains item.id

/-- What the text index holds under a number besides the texts of the item. -/
def relicLayout (store : Store) (id : ItemId) : TextIndex.Layout :=
  ((store.drift.relics.find? (·.item = id)).map (·.layout)).getD []

/-- What the text index holds of an item. -/
def indexedLayout (store : Store) (item : StoredItem) : TextIndex.Layout :=
  (TextIndex.layoutOf item.columns).above (store.relicLayout item.id)

/-- What the text index holds under numbers of no item that it holds. -/
def looseRelics (store : Store) : List Relic :=
  store.drift.relics.filter fun relic => !store.indexedItems.any (·.id = relic.item)

/-- The tags in the order of their numbers. -/
def tagRows (store : Store) : Except StoreError (List Tag) := do
  store.require [.tags]
  return store.tags.mergeSort fun a b => a.id ≤ b.id

def frequency (store : Store) (tag : TagId) : Nat :=
  (store.carriers tag).length

/-- How many items have each tag that some item has. -/
def frequencies (store : Store) : Except StoreError (List (TagId × Nat)) := do
  store.require [.attachments]
  return (distinct (store.attachments.map (·.tag))).map fun tag =>
    (tag, store.frequency tag)

def itemCount (store : Store) : Except StoreError Nat := do
  store.require [.items]
  return store.items.length

def itemById (store : Store) (id : ItemId) : Except StoreError (Option Item) := do
  store.require [.items]
  return (store.itemWithId? id).map StoredItem.view

def itemByPath (store : Store) (path : String) : Except StoreError (Option Item) := do
  store.require [.items]
  return (store.itemAt? path).map StoredItem.view

/-- The other items that share a tag with an item: tag by tag in the order of
their numbers, within a tag in the order in which they got it. -/
def sharingItems (store : Store) (item : ItemId) : List ItemId :=
  let tags := ((store.attachmentsOf item).map (·.tag)).mergeSort fun a b => a ≤ b
  distinct ((tags.flatMap store.carriers).filter (· ≠ item))

/-- The first of the items that share a tag with an item, at most `ceiling`. -/
def relatedCandidates (store : Store) (item : ItemId) (ceiling : Nat) :
    Except StoreError (List Item) := do
  store.require [.items, .attachments]
  let chosen := (store.sharingItems item).take ceiling
  return (store.items.filter fun other => chosen.contains other.id).map StoredItem.view

def tagCount (store : Store) (category : Category) : Nat :=
  (store.tags.filter (·.category = category)).length

/-- The number of tags of each category that has one. -/
def tagCounts (store : Store) : Except StoreError (List (Category × Nat)) := do
  store.require [.tags]
  return (Category.all.map fun category => (category, store.tagCount category)).filter
    (0 < ·.2)

/-- Most uses first; equal uses by name. -/
def useOrder (a b : String × Nat) : Bool :=
  b.2 < a.2 || (a.2 = b.2 && !decide (b.1 < a.1))

/-- The tags that some item has with their uses, the most used first. -/
def topTags (store : Store) (limit : Nat) : Except StoreError (List (String × Nat)) := do
  store.require [.tags, .attachments]
  let uses := store.tags.map fun tag => (tag.name, store.frequency tag.id)
  return ((uses.filter (0 < ·.2)).mergeSort useOrder).take limit

end Gallery.Store
