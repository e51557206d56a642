import Gallery.Query.Basic
import Gallery.Store.Read
import Gallery.Text.Lowercase

/-!
# The filter in memory

`Filter.accepts` decides about one item from what it shows and from side tables
on pools, favorites and sources.  Texts are compared in full lower case.  The
structural checks can be left out, for candidates that were already chosen by
them; `SideTables.load` then reads only what is still consulted.
-/

namespace Gallery

open Text

/-- The source that marks an item as annotated by the automatic tagger. -/
def automaticTagger : String := "local_tagger"

/-- What a filter has to know beyond the items themselves. -/
structure SideTables where
  pooled : Option (List ItemId) := none
  favorites : Option (List ItemId) := none
  sources : Option (List SourceLabel) := none

namespace SideTables

/-- The members of the pool of a name, whatever its basic Latin letters' case. -/
def poolMembers (store : Store) : PoolFilter → Except StoreError (List ItemId)
  | .any => do
    store.require [.memberships]
    return store.memberships.map (·.item)
  | .named pool => do
    store.require [.memberships, .pools]
    return (store.memberships.filter (asciiLower ·.pool = asciiLower pool)).map (·.item)

def favoriteItems (store : Store) : Except StoreError (List ItemId) := do
  store.require [.favorites]
  return store.favorites

def sourceLabels (store : Store) : Except StoreError (List SourceLabel) := do
  store.require [.sources]
  return store.sources

/-- Reads what the query consults, the structural checks included or not. -/
def load (store : Store) (query : Query) (structural : Bool) :
    Except StoreError SideTables := do
  let pooled ←
    match query.pool with
    | some filter => if structural then some <$> poolMembers store filter else pure none
    | none => pure none
  let favorites ←
    if structural && query.favorite then some <$> favoriteItems store else pure none
  let sources ←
    if query.metadata.isSome || (structural && !query.sources.isEmpty) then
      some <$> sourceLabels store
    else pure none
  return { pooled, favorites, sources }

def sourcesOf (tables : SideTables) (item : ItemId) : List String :=
  ((tables.sources.getD []).filter (·.item = item)).map (·.label)

def isPooled (tables : SideTables) (item : ItemId) : Bool :=
  tables.pooled.any (·.contains item)

def isFavorite (tables : SideTables) (item : ItemId) : Bool :=
  tables.favorites.any (·.contains item)

end SideTables

namespace Filter

def sourceAccepts (query : Query) (sources : List String) : Bool :=
  query.sources.isEmpty || sources.any query.sources.contains

def extensionAccepts (query : Query) (item : Item) : Bool :=
  query.extensions.isEmpty ||
    let path := lower item.filepath
    query.extensions.any (endsWith path)

def filenameAccepts (query : Query) (item : Item) : Bool :=
  query.filename.all (contains (lower item.filename))

def relationshipAccepts (query : Query) (item : Item) : Bool :=
  match query.relationship with
  | some .hasParent => item.parent.isSome
  | some .hasChildren => item.hasChildren
  | some .any => item.parent.isSome || item.hasChildren
  | none => true

def upscaledAccepts (query : Query) (item : Item) : Bool :=
  match query.upscaled with
  | some .present => item.upscaled
  | some .absent => !item.upscaled
  | none => true

/-- The checks on facets that the relations hold. -/
def structuralAccepts (query : Query) (tables : SideTables) (item : Item) : Bool :=
  sourceAccepts query (tables.sourcesOf item.id) &&
    extensionAccepts query item &&
    filenameAccepts query item &&
    (query.pool.isNone || tables.isPooled item.id) &&
    relationshipAccepts query item &&
    (!query.favorite || tables.isFavorite item.id) &&
    upscaledAccepts query item

/-- Metadata is a source other than the automatic tagger. -/
def metadataAccepts (query : Query) (sources : List String) : Bool :=
  match query.metadata with
  | some .missing => !sources.any (· ≠ automaticTagger)
  | some .present => sources.any (· ≠ automaticTagger)
  | none => true

/-- The lower-cased tags of one category. -/
def loweredTags (item : Item) (category : Category) : List String :=
  words (lower (item.tags.get category))

def categoriesAccept (query : Query) (item : Item) : Bool :=
  query.categorized.all fun (category, term) => (loweredTags item category).contains term

/-- The ratings of the item are the requested ones, no more and no fewer. -/
def ratingsAccept (query : Query) (item : Item) : Bool :=
  query.ratings.isEmpty ||
    let requested := query.ratings.map RatingLevel.tagName
    let held := loweredTags item .rating
    requested.all held.contains && held.all requested.contains

/-- Every general term is a tag or lies within the tags or the path, and no
negative term is a tag or lies within the path. -/
def termsAccept (query : Query) (item : Item) : Bool :=
  !query.hasTerms ||
    let joined := lower item.tags.joined
    let tags := words joined
    let path := lower item.filepath
    query.general.all (fun term =>
      tags.contains term || contains joined term || contains path term) &&
    !query.negative.any fun term => tags.contains term || contains path term

def accepts (query : Query) (structural : Bool) (tables : SideTables) (item : Item) : Bool :=
  (!structural || structuralAccepts query tables item) &&
    metadataAccepts query (tables.sourcesOf item.id) &&
    categoriesAccept query item &&
    ratingsAccept query item &&
    termsAccept query item

def retain (query : Query) (structural : Bool) (tables : SideTables) (items : List Item) :
    List Item :=
  items.filter (accepts query structural tables)

end Filter

end Gallery
