import Gallery.Item.Basic
import Gallery.TextIndex.Layout

/-!
# The store

The store holds items and tags, the attachments of tags to items, the sources,
pools and favorites of items, and a text index.  Items and tags stand in the
order in which they came.  The text index is derived from the items; the store
only records how it differs from them, which it does after one of the two was
lost and created anew.
-/

namespace Gallery

structure Tag where
  id : TagId
  name : String
  category : Category
  subcategory : Option Subcategory
  deriving DecidableEq

structure StoredItem where
  id : ItemId
  filepath : String
  filename : String
  contentHash : String
  tags : CategoryTags
  score : Option Int
  favCount : Option Int
  ingestedAt : Option Int
  parent : Option ItemId
  hasChildren : Bool
  /-- Width and height of the upscaled version, if there is one. -/
  upscaledSize : Option (Nat × Nat)
  deriving DecidableEq

/-- What searches see of an item. -/
def StoredItem.view (item : StoredItem) : Item where
  id := item.id
  filepath := item.filepath
  filename := item.filename
  tags := item.tags
  score := item.score
  favCount := item.favCount
  ingestedAt := item.ingestedAt
  parent := item.parent
  hasChildren := item.hasChildren
  upscaled := item.upscaledSize.isSome

/-- The texts of an item that the text index holds. -/
def StoredItem.columns (item : StoredItem) : List String :=
  item.filepath :: item.tags.texts

structure Attachment where
  item : ItemId
  tag : TagId
  provenance : Provenance
  deriving DecidableEq

structure SourceLabel where
  item : ItemId
  label : String
  deriving DecidableEq

structure Membership where
  pool : String
  item : ItemId
  deriving DecidableEq

inductive Relation
  | tags
  | items
  | attachments
  | sources
  | pools
  | memberships
  | favorites
  | textIndex
  deriving DecidableEq

/-- What the text index still holds under the number of an item that is gone. -/
structure Relic where
  item : ItemId
  layout : TextIndex.Layout
  deriving DecidableEq

/-- How the text index differs from the items: the items it does not hold, what
it holds of items that are gone, and by how much its totals of rows and of tokens,
column by column, exceed what they are for the items that it holds. -/
structure IndexDrift where
  lost : List ItemId := []
  relics : List Relic := []
  rows : Int := 0
  tokens : List Int := List.replicate 8 0
  deriving DecidableEq

structure Store where
  missing : List Relation := []
  tags : List Tag := []
  items : List StoredItem := []
  attachments : List Attachment := []
  sources : List SourceLabel := []
  memberships : List Membership := []
  favorites : List ItemId := []
  drift : IndexDrift := {}
  deriving DecidableEq

inductive StoreError
  /-- The store could not carry the statement out. -/
  | refused
  | noItem (path : String)
  deriving DecidableEq

namespace Store

/-- Every relation is there, and the text index holds every item. -/
def Healthy (store : Store) : Prop :=
  store.missing = [] ∧ store.drift = {}

/-- A statement needs the relations that it names. -/
def require (store : Store) (relations : List Relation) : Except StoreError Unit :=
  if relations.any store.missing.contains then .error .refused else .ok ()

theorem require_of_healthy {store : Store} (h : store.Healthy) (relations : List Relation) :
    store.require relations = .ok () := by
  simp [require, h.1]

end Store

end Gallery
