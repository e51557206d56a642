import Gallery.Distinct
import Gallery.Tag.Category
import Gallery.Text.Blank

/-!
# The tags of an item as text

An item shows its tags as seven texts, one a category, each a list of names
separated by blanks.  `joined` puts the seven behind one another; `tagSet` and
`categorySet` read the names back.
-/

namespace Gallery

open Text

structure CategoryTags where
  general : String := ""
  character : String := ""
  copyright : String := ""
  artist : String := ""
  species : String := ""
  metadata : String := ""
  rating : String := ""
  deriving DecidableEq

namespace CategoryTags

def get (tags : CategoryTags) : Category → String
  | .general => tags.general
  | .character => tags.character
  | .copyright => tags.copyright
  | .artist => tags.artist
  | .species => tags.species
  | .metadata => tags.metadata
  | .rating => tags.rating

def set (tags : CategoryTags) (category : Category) (text : String) : CategoryTags :=
  match category with
  | .general => { tags with general := text }
  | .character => { tags with character := text }
  | .copyright => { tags with copyright := text }
  | .artist => { tags with artist := text }
  | .species => { tags with species := text }
  | .metadata => { tags with metadata := text }
  | .rating => { tags with rating := text }

/-- The seven texts in category order. -/
def texts (tags : CategoryTags) : List String :=
  Category.all.map tags.get

/-- The tags with seven texts in category order. -/
def ofTexts? : List String → Option CategoryTags
  | [general, character, copyright, artist, species, metadata, rating] =>
    some { general, character, copyright, artist, species, metadata, rating }
  | _ => none

/-- Every category's text is given by a function. -/
def build (text : Category → String) : CategoryTags where
  general := text .general
  character := text .character
  copyright := text .copyright
  artist := text .artist
  species := text .species
  metadata := text .metadata
  rating := text .rating

/-- The texts that are not empty, in category order, with a space between. -/
def joined (tags : CategoryTags) : String :=
  " ".intercalate (tags.texts.filter (! ·.isEmpty))

def tagSet (tags : CategoryTags) : List String :=
  distinct (tags.texts.flatMap words)

def categorySet (tags : CategoryTags) (category : Category) : List String :=
  distinct (words (tags.get category))

@[simp] theorem get_build (text : Category → String) (category : Category) :
    (build text).get category = text category := by
  cases category <;> rfl

@[simp] theorem get_set_self (tags : CategoryTags) (category : Category) (text : String) :
    (tags.set category text).get category = text := by
  cases category <;> rfl

@[simp] theorem ofTexts?_texts (tags : CategoryTags) : ofTexts? tags.texts = some tags :=
  rfl

theorem get_set_of_ne (tags : CategoryTags) {category other : Category} (text : String)
    (h : other ≠ category) :
    (tags.set category text).get other = tags.get other := by
  cases category <;> cases other <;> simp_all [get, set]

end CategoryTags

end Gallery
