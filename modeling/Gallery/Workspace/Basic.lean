import Gallery.Store.Write
import Gallery.Workspace.Address

/-!
# Workspaces

A workspace is what a run of the program finds on the disk: the directory that it
runs in, the directories above it, and files, each of which holds a text or a
store.  A text is read by walking its path from directory to directory.  A store
is opened at the place where its path leads by its letters, and may be new: there,
where an empty text is, and nowhere else.
-/

namespace Gallery

inductive Content
  | text (value : String)
  | store (value : Store)

structure Workspace where
  location : Place := []
  directories : List Place := []
  files : List (Place × Content) := []

namespace Workspace

def file? (workspace : Workspace) (place : Place) : Option Content :=
  (workspace.files.find? (·.1 = place)).map (·.2)

def put (workspace : Workspace) (place : Place) (content : Content) : Workspace :=
  { workspace with
    files := (place, content) :: workspace.files.filter (·.1 ≠ place) }

def hasDirectory (workspace : Workspace) (place : Place) : Bool :=
  place.isPrefixOf workspace.location || workspace.directories.contains place

def placeOf (workspace : Workspace) (path : String) : Place :=
  workspace.location.resolve (Path.ofString path)

def writeText (workspace : Workspace) (path text : String) : Workspace :=
  workspace.put (workspace.placeOf path) (.text text)

/-! ## Texts -/

/-- The longest path that can be walked, in bytes. -/
def pathLimit : Nat := 4095

/-- Walks the parts of a path.  Each part but the last one must lead to a
directory. -/
def walk? (workspace : Workspace) (place : Place) : List FileName → Option Place
  | [] => some place
  | [part] => some (place.follow part)
  | part :: later =>
    let next := place.follow part
    if workspace.hasDirectory next then workspace.walk? next later else none

def text? (workspace : Workspace) (path : String) : Option String :=
  let path := Path.ofString path
  if path.length ≤ pathLimit then
    match (workspace.walk? (workspace.location.startOf path) (Path.parts path)).bind
      workspace.file? with
    | some (.text text) => some text
    | _ => none
  else none

/-! ## Stores -/

/-- The longest name of a file, in bytes. -/
def nameLimit : Nat := 255

/-- The longest place of a store, in bytes. -/
def placeLimit : Nat := 511

/-- What a store appends to its own name for a file with changes that may have to
be taken back. -/
def journalEnding : FileName :=
  Path.ofString "-journal"

/-- What a store appends to its own name for a file with changes to come. -/
def logEnding : FileName :=
  Path.ofString "-wal"

/-- Whether looking for a place below a directory fails, other than by finding
nothing: below a file, or by a name that is too long. -/
def isBarred (workspace : Workspace) (place : Place) : List FileName → Bool
  | [] => false
  | name :: later =>
    let next := place ++ [name]
    name.length > nameLimit ||
      if workspace.hasDirectory next then workspace.isBarred next later
      else (workspace.file? next).isSome && later != []

/-- Goes one part further, and looks for every place that a name leads to. -/
def seek? (workspace : Workspace) (place : Place) (part : FileName) : Option Place :=
  let next := place.follow part
  if Path.isName part && (next.width > placeLimit || workspace.isBarred [] next) then none
  else some next

/-- The place of a store.  Its directory must be there, and its journal beside it
must have a name. -/
def storePlace? (workspace : Workspace) (path : List UInt8) : Option Place := do
  let place ← (Path.parts path).foldlM workspace.seek? (workspace.location.startOf path)
  let name ← place.getLast?
  if workspace.hasDirectory place || !workspace.hasDirectory place.dropLast then none
  else if name.length + journalEnding.length > nameLimit then none
  else if place.width + journalEnding.length > placeLimit + 1 then none
  else some place

/-- A store that is open, and where its changes are kept; those of a transient
store are kept nowhere. -/
structure OpenStore where
  store : Store
  isReadOnly : Bool := false
  place? : Option Place := none

/-- What a new store takes the place of: at most one byte. -/
def isVacant (text : String) : Bool :=
  text.utf8ByteSize ≤ 1

/-- Opens a file as a store.  It becomes one if it may be written. -/
def openContent? (address : StoreAddress) (place : Place) :
    Option Content → Option OpenStore
  | some (.store store) => some ⟨store.reopen, address.isReadOnly, some place⟩
  | some (.text text) =>
    if isVacant text && !address.isReadOnly then some ⟨{}, false, some place⟩ else none
  | none =>
    if address.access == .creating && !address.isReadOnly then some ⟨{}, false, some place⟩
    else none

/-- A file that stands where a store would have its journal is taken for one.  It
cannot be cleared away by someone who only reads. -/
def isBlocked (workspace : Workspace) (address : StoreAddress) (place : Place) : Bool :=
  address.isReadOnly && !address.isImmutable &&
    (workspace.file? (place.beside journalEnding)).isSome

def openAddress? (workspace : Workspace) (address : StoreAddress) : Option OpenStore :=
  if address.isTransient then
    if address.isReadOnly then none else some { store := {} }
  else
    (workspace.storePlace? address.path).bind fun place =>
      if workspace.isBlocked address place then none
      else openContent? address place (workspace.file? place)

def openStore? (workspace : Workspace) (path : String) : Option OpenStore :=
  (StoreAddress.ofString? path).bind workspace.openAddress?

/-- Keeps a store where it was opened.  What is taken for its journal or its log is
cleared away. -/
def keep (workspace : Workspace) (opened : OpenStore) : Workspace :=
  match opened.place? with
  | some place =>
    if opened.isReadOnly then workspace
    else
      let cleared := [place.beside journalEnding, place.beside logEnding]
      let kept := workspace.files.filter fun file => !cleared.contains file.1
      { workspace with files := kept }.put place (.store opened.store)
  | none => workspace

end Workspace

end Gallery
