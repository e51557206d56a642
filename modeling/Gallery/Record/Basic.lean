import Gallery.Tag.Category
import Gallery.Text.Blank
import Gallery.Text.Lowercase
import Gallery.Text.Quoted

/-!
# Records

A record describes one item to be stored.  It needs a path that is not blank,
and tag names that are words.
-/

namespace Gallery

open Text

structure TagAssignment where
  name : String
  category : Category := .general
  subcategory : Option Subcategory := none
  provenance : Provenance := .imported
  deriving DecidableEq

structure ItemRecord where
  filepath : String
  contentHash : String
  tags : List TagAssignment := []
  sources : List String := []
  score : Option Int := none
  favCount : Option Int := none
  ingestedAt : Option Int := none
  /-- The path of the parent, which is stored or stands earlier in the batch. -/
  parent : Option String := none
  upscaledSize : Option (Nat × Nat) := none
  deriving DecidableEq

/-- Rating tags belong to the rating category, whatever was declared. -/
def TagAssignment.effectiveCategory (tag : TagAssignment) : Category :=
  if "rating:".toList.isPrefixOf tag.name.toList then .rating else tag.category

def TagAssignment.effectiveSubcategory (tag : TagAssignment) : Option Subcategory :=
  if tag.effectiveCategory.allowsSubcategory then tag.subcategory else none

/-- What is wrong with a record. -/
inductive RecordFault
  | blankPath
  | tagIsNoWord (name path : String)
  deriving DecidableEq

def RecordFault.message : RecordFault → String
  | .blankPath => "empty filepath"
  | .tagIsNoWord name path =>
    "tag " ++ quoted name ++ " on " ++ path ++ " is empty or contains whitespace"

def isWord (name : String) : Bool :=
  name ≠ "" && !name.toList.any isBlank

/-- The first fault of a record: its path, then its tags in order. -/
def ItemRecord.fault? (record : ItemRecord) : Option RecordFault :=
  if trim record.filepath = "" then some .blankPath
  else (record.tags.find? (! isWord ·.name)).map fun tag =>
    .tagIsNoWord tag.name record.filepath

/-- A source label as it is stored: trimmed and in lower case. -/
def storedLabel (source : String) : String :=
  lower (trim source)

end Gallery
