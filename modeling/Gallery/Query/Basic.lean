import Gallery.Tag.Category

/-!
# Queries

A query asks for items by terms, by terms of one category, by rating and by the
structural facets of an item, and may name an order.  `merge` says what two
queries ask for together: lists are put behind one another, the later of two
single choices wins, and switches stay on.
-/

namespace Gallery

inductive PoolFilter
  | any
  | named (pool : String)
  deriving DecidableEq

inductive RelationshipFilter
  | hasParent
  | hasChildren
  | any
  deriving DecidableEq

inductive OrderKey
  | newest
  | oldest
  | score
  | favorites
  | random
  deriving DecidableEq

namespace OrderKey

def ofName? : String → Option OrderKey
  | "new" | "newest" | "recent" | "date" => some newest
  | "old" | "oldest" | "date_asc" => some oldest
  | "score" | "score_desc" => some score
  | "fav" | "favs" | "favorites" | "favourites" => some favorites
  | "random" | "shuffle" => some random
  | _ => none

def name : OrderKey → String
  | newest => "newest"
  | oldest => "oldest"
  | score => "score"
  | favorites => "favorites"
  | random => "random"

end OrderKey

/-- Whether an item has a source other than the automatic tagger. -/
inductive MetadataFilter
  | missing
  | present
  deriving DecidableEq

inductive UpscaledFilter
  | present
  | absent
  deriving DecidableEq

structure Query where
  general : List String := []
  negative : List String := []
  categorized : List (Category × String) := []
  ratings : List RatingLevel := []
  sources : List String := []
  filename : Option String := none
  extensions : List String := []
  pool : Option PoolFilter := none
  relationship : Option RelationshipFilter := none
  order : Option OrderKey := none
  favorite : Bool := false
  metadata : Option MetadataFilter := none
  upscaledPresent : Bool := false
  upscaledAbsent : Bool := false
  /-- Set by a quoted phrase; such a query is answered from the text index. -/
  freetext : Bool := false
  deriving DecidableEq

namespace Query

/-- The terms asked for in one category, in the order given. -/
def categoryTerms (query : Query) (category : Category) : List String :=
  (query.categorized.filter (·.1 = category)).map (·.2)

/-- A query for both is a query for items that are not upscaled. -/
def upscaled (query : Query) : Option UpscaledFilter :=
  if query.upscaledAbsent then some .absent
  else if query.upscaledPresent then some .present
  else none

def hasTerms (query : Query) : Bool :=
  !query.general.isEmpty || !query.negative.isEmpty

def hasCategorizedTerms (query : Query) : Bool :=
  !query.categorized.isEmpty || !query.ratings.isEmpty

/-- Whether the query asks for facets that the item relations hold. -/
def hasStructuralFilters (query : Query) : Bool :=
  !query.sources.isEmpty || query.filename.isSome || !query.extensions.isEmpty ||
    query.pool.isSome || query.relationship.isSome || query.favorite ||
    query.upscaled.isSome

def isEmpty (query : Query) : Bool :=
  !query.hasTerms && !query.hasCategorizedTerms && !query.hasStructuralFilters &&
    query.metadata.isNone && query.order.isNone && !query.freetext

def merge (first second : Query) : Query where
  general := first.general ++ second.general
  negative := first.negative ++ second.negative
  categorized := first.categorized ++ second.categorized
  ratings := first.ratings ++ second.ratings
  sources := first.sources ++ second.sources
  filename := second.filename <|> first.filename
  extensions := first.extensions ++ second.extensions
  pool := second.pool <|> first.pool
  relationship := second.relationship <|> first.relationship
  order := second.order <|> first.order
  favorite := first.favorite || second.favorite
  metadata := second.metadata <|> first.metadata
  upscaledPresent := first.upscaledPresent || second.upscaledPresent
  upscaledAbsent := first.upscaledAbsent || second.upscaledAbsent
  freetext := first.freetext || second.freetext

theorem categoryTerms_merge (first second : Query) (category : Category) :
    (first.merge second).categoryTerms category =
      first.categoryTerms category ++ second.categoryTerms category := by
  simp [categoryTerms, merge]

end Query

end Gallery
