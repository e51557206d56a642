/-!
# Classification of tags

Every tag has one category.  General and metadata tags may have a subcategory
as well.  An attachment of a tag to an item records where it came from, and the
rating of an item is a tag of a fixed name.
-/

namespace Gallery

inductive Category
  | general
  | character
  | copyright
  | artist
  | species
  | metadata
  | rating
  deriving DecidableEq

namespace Category

/-- All categories in the order in which an item shows its tags. -/
def all : List Category :=
  [general, character, copyright, artist, species, metadata, rating]

def name : Category → String
  | general => "general"
  | character => "character"
  | copyright => "copyright"
  | artist => "artist"
  | species => "species"
  | metadata => "meta"
  | rating => "rating"

def ofName? (text : String) : Option Category :=
  all.find? (·.name == text)

/-- The name under which an item shows its tags of the category. -/
def column (category : Category) : String :=
  "tags_" ++ category.name

def allowsSubcategory : Category → Bool
  | general | metadata => true
  | _ => false

/-- Whether a query may ask for a term in this category alone. -/
def isScopable : Category → Bool
  | rating => false
  | _ => true

theorem mem_all (category : Category) : category ∈ all := by
  cases category <;> decide

end Category

/-- A finer classification of general and metadata tags. -/
inductive Subcategory
  | subjectCount
  | body
  | attire
  | expression
  | action
  | pose
  | object
  | setting
  | composition
  | style
  | technical
  | text
  deriving DecidableEq

namespace Subcategory

def all : List Subcategory :=
  [subjectCount, body, attire, expression, action, pose, object, setting,
   composition, style, technical, text]

def name : Subcategory → String
  | subjectCount => "subject_count"
  | body => "body"
  | attire => "attire"
  | expression => "expression"
  | action => "action"
  | pose => "pose"
  | object => "object"
  | setting => "setting"
  | composition => "composition"
  | style => "style"
  | technical => "technical"
  | text => "text"

def ofName? (given : String) : Option Subcategory :=
  all.find? (·.name == given)

end Subcategory

/-- Where the attachment of a tag to an item came from. -/
inductive Provenance
  /-- It came with the record of the item. -/
  | imported
  | user
  | inference
  | implication
  deriving DecidableEq

namespace Provenance

def all : List Provenance :=
  [imported, user, inference, implication]

def name : Provenance → String
  | imported => "original"
  | user => "user"
  | inference => "ai_inference"
  | implication => "implication"

def ofName? (text : String) : Option Provenance :=
  all.find? (·.name == text)

end Provenance

inductive RatingLevel
  | general
  | sensitive
  | questionable
  | explicit
  deriving DecidableEq

namespace RatingLevel

/-- Levels are written in full or by their first letter. -/
def ofName? : String → Option RatingLevel
  | "general" | "g" => some general
  | "sensitive" | "s" => some sensitive
  | "questionable" | "q" => some questionable
  | "explicit" | "e" => some explicit
  | _ => none

def name : RatingLevel → String
  | general => "general"
  | sensitive => "sensitive"
  | questionable => "questionable"
  | explicit => "explicit"

def tagName (level : RatingLevel) : String :=
  "rating:" ++ level.name

end RatingLevel

end Gallery
