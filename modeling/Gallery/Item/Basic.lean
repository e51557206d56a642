import Gallery.Item.CategoryTags
import Gallery.Text.Piece

/-!
# Items

An item is a file with the facets that searches look at.  A hit is what a
search shows of it.
-/

namespace Gallery

open Text

abbrev ItemId := Int

abbrev TagId := Int

structure Item where
  id : ItemId
  filepath : String
  filename : String
  tags : CategoryTags
  score : Option Int
  favCount : Option Int
  ingestedAt : Option Int
  parent : Option ItemId
  hasChildren : Bool
  upscaled : Bool
  deriving DecidableEq

structure Hit where
  id : ItemId
  filepath : String
  tags : String
  deriving DecidableEq

def Item.hit (item : Item) : Hit :=
  ⟨item.id, item.filepath, item.tags.joined⟩

/-- The last component of a path that names something: empty components and
single dots are passed over, and two dots name nothing. -/
def fileNameOf? (path : List Char) : Option (List Char) :=
  match ((pieces '/' path).filter fun part => part ≠ [] ∧ part ≠ ['.']).getLast? with
  | some ['.', '.'] => none
  | last => last

/-- The file name shown for a path; the path itself where it names no file. -/
def fileName (path : String) : String :=
  match fileNameOf? path.toList with
  | some last => String.ofList last
  | none => path

end Gallery
