import Gallery.Tag.Category
import Gallery.Text.Blank
import Gallery.Text.Lowercase
import Gallery.Weight.Scalar

/-!
# Weights of tags

A tag weighs the more, the rarer it is, times a factor for its category.  The
compressed measure of rarity is `1 / ln (frequency + 1)`; the classic one is
`ln (total / (frequency + 1)) + 1`, kept above a small positive bound.  A tag
that no item has counts as one that a single item has.
-/

namespace Gallery

open Text Scalar

inductive Rarity
  | compressed
  | classic
  deriving DecidableEq

namespace Rarity

def name : Rarity → String
  | compressed => "compressed"
  | classic => "classic"

/-- Names are read without regard to case and to blanks around them. -/
def ofName? (text : String) : Option Rarity :=
  match lower (trim text) with
  | "compressed" => some compressed
  | "classic" | "tfidf" => some classic
  | _ => none

variable {α : Type} [Scalar α]

/-- The least weight of the classic measure. -/
def floor : α := ratio 1 100

def weight (rarity : Rarity) (frequency total : Nat) : α :=
  let carriers : α := whole (max frequency 1)
  let beyond := add carriers (whole 1)
  match rarity with
  | compressed => div (whole 1) (ln beyond)
  | classic => atLeast floor (add (ln (div (whole (max total 1)) beyond)) (whole 1))

end Rarity

variable {α : Type} [Scalar α]

/-- The weight of a name that is no known tag. -/
def unknownTagWeight : α := ratio 1 10

def Category.weight : Category → α
  | .artist => whole 3
  | .character => ratio 5 2
  | .copyright => whole 2
  | .species => ratio 3 2
  | .metadata => ratio 1 2
  | .rating => ratio 1 5
  | .general => whole 1

/-- Tags that show text weigh what their category weighs. -/
def Subcategory.weight? : Subcategory → Option α
  | .subjectCount => some (ratio 6 10)
  | .body => some (ratio 12 10)
  | .attire => some (ratio 14 10)
  | .expression => some (ratio 8 10)
  | .action => some (ratio 11 10)
  | .pose => some (ratio 9 10)
  | .object => some (ratio 13 10)
  | .setting => some (ratio 12 10)
  | .composition => some (ratio 7 10)
  | .style => some (ratio 15 10)
  | .technical => some (ratio 3 10)
  | .text => none

/-- The factor of a tag: that of its subcategory where subcategories count and
it has one with a factor, else that of its category. -/
def categoryWeight (category : Category) (subcategory : Option Subcategory)
    (useSubcategories : Bool) : α :=
  if useSubcategories then (subcategory.bind Subcategory.weight?).getD category.weight
  else category.weight

end Gallery
