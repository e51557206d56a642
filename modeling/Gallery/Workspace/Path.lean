import Gallery.Text.Piece

/-!
# Paths

A path is a text of bytes, cut into parts at the slashes.  A place is where a
file or a directory stands: the names on the way from the root.  Of two ways from
a path to a place this module has the one that looks at letters only; the one
that asks which directories are there belongs to the workspace.
-/

namespace Gallery

abbrev FileName := List UInt8

/-- The names from the root down. -/
abbrev Place := List FileName

namespace Path

def slash : UInt8 := 47

def dot : UInt8 := 46

def ofString (path : String) : List UInt8 :=
  path.toUTF8.toList

def parts (path : List UInt8) : List FileName :=
  Text.pieces slash path

/-- The part that stays where it is, written or left out. -/
def isHere (part : FileName) : Bool :=
  part == [] || part == [dot]

def isUp (part : FileName) : Bool :=
  part == [dot, dot]

/-- Whether a part leads into a directory by a name. -/
def isName (part : FileName) : Bool :=
  !isHere part && !isUp part

def isAbsolute (path : List UInt8) : Bool :=
  path.head? == some slash

end Path

namespace Place

/-- One part further.  There is nothing above the root. -/
def follow (place : Place) (part : FileName) : Place :=
  if Path.isHere part then place
  else if Path.isUp part then place.dropLast
  else place ++ [part]

/-- Where a path begins for someone who is at a place. -/
def startOf (place : Place) (path : List UInt8) : Place :=
  if Path.isAbsolute path then [] else place

/-- Where a path leads by its letters. -/
def resolve (place : Place) (path : List UInt8) : Place :=
  (Path.parts path).foldl follow (place.startOf path)

/-- The places that the parts of a path come by. -/
def passed (place : Place) : List FileName → List Place
  | [] => []
  | part :: later => place.follow part :: passed (place.follow part) later

def trail (place : Place) (path : List UInt8) : List Place :=
  passed (place.startOf path) (Path.parts path)

/-- The length of a place in writing: its names, each behind a slash. -/
def width (place : Place) : Nat :=
  place.foldl (fun width name => width + name.length + 1) 0

/-- The place beside another whose name goes on with an ending. -/
def beside (place : Place) (ending : FileName) : Place :=
  place.dropLast ++ [place.getLast?.getD [] ++ ending]

/-- The place in writing, if its names are text. -/
def toString? (place : Place) : Option String :=
  String.fromUTF8? (ByteArray.mk (place.flatMap (Path.slash :: ·)).toArray)

end Place

end Gallery
