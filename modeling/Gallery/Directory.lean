import Gallery.Store.Read

/-!
# The tag directory

The directory translates between names and numbers of tags.  It answers from
one state of the tag relation, read at its first use and replaced as a whole by
a reload.  A reading that fails changes nothing; before the first success the
directory is empty.
-/

namespace Gallery

/-- One state of the tag relation, as pairs of number and name. -/
structure TagNames where
  entries : List (TagId × String) := []
  deriving DecidableEq

namespace TagNames

def ofTags (tags : List Tag) : TagNames :=
  ⟨tags.map fun tag => (tag.id, tag.name)⟩

def id? (names : TagNames) (name : String) : Option TagId :=
  (names.entries.find? (·.2 = name)).map (·.1)

def name? (names : TagNames) (id : TagId) : Option String :=
  (names.entries.find? (·.1 = id)).map (·.2)

def count (names : TagNames) : Nat :=
  names.entries.length

/-- The numbers of the names that are known. -/
def ids (names : TagNames) (given : List String) : List TagId :=
  given.filterMap names.id?

/-- The names of the numbers that are known. -/
def namesOf (names : TagNames) (given : List TagId) : List String :=
  given.filterMap names.name?

end TagNames

structure Directory where
  current : Option TagNames := none
  deriving DecidableEq

namespace Directory

def load (store : Store) : Except StoreError TagNames := do
  return TagNames.ofTags (← store.tagRows)

/-- The names in use, read from the store if none were read before. -/
def names (directory : Directory) (store : Store) : TagNames × Directory :=
  match directory.current with
  | some names => (names, directory)
  | none =>
    match load store with
    | .ok names => (names, ⟨some names⟩)
    | .error _ => ({}, directory)

/-- Reads the tag relation again and answers how many tags there are. -/
def reload (directory : Directory) (store : Store) :
    Except StoreError Nat × Directory :=
  match load store with
  | .ok names => (.ok names.count, ⟨some names⟩)
  | .error fault => (.error fault, directory)

end Directory

end Gallery
