import Gallery.Query.Basic
import Gallery.Text.Piece

/-!
# Tokens of a query

A token is one word of a query, or one quoted run of words, with its meaning.
No word is refused: one that names no filter is a general term.
-/

namespace Gallery

open Text

inductive Token
  | general (term : String)
  | phrase (words : String)
  | negative (term : String)
  | categorized (category : Category) (term : String)
  | rating (level : RatingLevel)
  | source (label : String)
  | filename (fragment : String)
  | extensions (endings : List String)
  | pool (filter : PoolFilter)
  | relationship (filter : RelationshipFilter)
  | order (key : OrderKey)
  | favorite
  | metadata (filter : MetadataFilter)
  | upscaled (filter : UpscaledFilter)
  deriving DecidableEq

namespace Token

def hasFilter? : String → Option Token
  | "pool" => some (.pool .any)
  | "video" => some (.extensions [".mp4", ".webm"])
  | "upscaled" => some (.upscaled .present)
  | "parent" => some (.relationship .hasParent)
  | "child" | "children" => some (.relationship .hasChildren)
  | "relationship" | "relation" | "family" => some (.relationship .any)
  | _ => none

def isFilter? : String → Option Token
  | "favorite" | "favourite" | "fav" => some .favorite
  | "upscaled" => some (.upscaled .present)
  | _ => none

def metadataFilter? : String → Option Token
  | "missing" | "none" => some (.metadata .missing)
  | "found" | "present" | "any" => some (.metadata .present)
  | _ => none

def categorized? (name value : String) : Option Token :=
  (Category.ofName? name).bind fun category =>
    if category.isScopable then some (.categorized category value) else none

/-- The meaning of `name:value`, if it has one. -/
def namedFilter? (name value : String) : Option Token :=
  if value = "" then none
  else
    match name with
    | "source" => some (.source value)
    | "filename" => some (.filename value)
    | "pool" => some (.pool (.named value))
    | "order" => (OrderKey.ofName? value).map .order
    | "rating" => (RatingLevel.ofName? value).map .rating
    | "metadata" => metadataFilter? value
    | "has" => hasFilter? value
    | "is" => isFilter? value
    | name => categorized? name value

/-- The level in `rating:level` or `rating_level`. -/
def ratingLevel? (term : List Char) : Option RatingLevel :=
  ((afterStart? "rating:".toList term) <|> (afterStart? "rating_".toList term)).bind
    fun level => RatingLevel.ofName? (String.ofList level)

/-- A term to exclude.  A rating is excluded by its tag name, however it is
written. -/
def negativeTerm (term : List Char) : String :=
  match ratingLevel? term with
  | some level => level.tagName
  | none => String.ofList term

/-- A dot and at least one more character, with no further dot. -/
def isExtension : List Char → Bool
  | '.' :: rest => !rest.isEmpty && !rest.contains '.'
  | _ => false

def bareRating? (word : List Char) : Option RatingLevel :=
  (afterStart? "rating_".toList word).bind fun level =>
    RatingLevel.ofName? (String.ofList level)

def bare (word : List Char) : Token :=
  match bareRating? word with
  | some level => .rating level
  | none =>
    if isExtension word then .extensions [String.ofList word]
    else .general (String.ofList word)

def positive (word : List Char) : Token :=
  match cutAt? ':' word with
  | some (name, value) =>
    (namedFilter? (String.ofList name) (String.ofList value)).getD (bare word)
  | none => bare word

/-- The meaning of a word outside quotes. -/
def classify (word : List Char) : Token :=
  if word = "-has:upscaled".toList then .upscaled .absent
  else
    match word with
    | '-' :: c :: rest => .negative (negativeTerm (c :: rest))
    | word => positive word

end Token

end Gallery
