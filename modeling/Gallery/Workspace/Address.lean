import Gallery.Text.Lowercase
import Gallery.Word
import Gallery.Workspace.Path

/-!
# Addresses of stores

A store is addressed by a path, or by `file:` and a path in which `%` and two
hexadecimal digits stand for a byte.  Parameters may follow such a path after a
question mark, and a fragment, which means nothing, after a hash.  The parameters
say how the store may be used, and whether it is kept in a file at all.
-/

namespace Gallery

open Text

/-- How a store at an address may be used. -/
inductive Access
  | readOnly
  | existing
  | creating
  | inMemory
  deriving DecidableEq

namespace Access

def ofName? : String → Option Access
  | "ro" => some .readOnly
  | "rw" => some .existing
  | "rwc" => some .creating
  | "memory" => some .inMemory
  | _ => none

/-- Whether a later parameter may ask for another access.  It may ask for less;
what is in memory may become anything. -/
def mayBecome : Access → Access → Bool
  | _, .inMemory | .inMemory, _ | .creating, _ => true
  | .existing, access => access != .creating
  | .readOnly, access => access == .readOnly

end Access

/-- What keeps the bytes of a store. -/
inductive Medium
  | disk
  | memory
  deriving DecidableEq

def Medium.ofName? : String → Option Medium
  | "unix" | "unix-none" | "unix-dotfile" | "unix-excl" => some .disk
  | "memdb" => some .memory
  | _ => none

structure StoreAddress where
  path : List UInt8
  access : Access := .creating
  medium : Medium := .disk
  isImmutable : Bool := false
  deriving DecidableEq

namespace StoreAddress

/-- The path of a store that is kept nowhere. -/
def transientPath : String := ":memory:"

/-- The path that is written as nothing names no file. -/
def isTransient (address : StoreAddress) : Bool :=
  address.path == [] || address.path == Path.ofString transientPath ||
    address.access == .inMemory || address.medium == .memory

/-- Whether nothing may be written.  Only a store with a path of its own can be
immutable. -/
def isReadOnly (address : StoreAddress) : Bool :=
  address.access == .readOnly ||
    (address.isImmutable && address.access != .inMemory && address.path != [] &&
      address.path != Path.ofString transientPath)

/-! ## Reading -/

def hexDigit? (c : Char) : Option Nat :=
  if c.isDigit then some (c.toNat - '0'.toNat)
  else if 'a' ≤ c ∧ c ≤ 'f' then some (c.toNat - 'a'.toNat + 10)
  else if 'A' ≤ c ∧ c ≤ 'F' then some (c.toNat - 'A'.toNat + 10)
  else none

/-- The byte that two hexadecimal digits stand for. -/
def escapedByte? (high low : Char) : Option Nat := do
  return 16 * (← hexDigit? high) + (← hexDigit? low)

/-- The bytes of a text with escapes.  An escaped zero ends it. -/
def unescape : List Char → List UInt8
  | [] => []
  | '%' :: high :: low :: rest =>
    match escapedByte? high low with
    | some 0 => []
    | some byte => UInt8.ofNat byte :: unescape rest
    | none => UInt8.ofNat '%'.toNat :: unescape (high :: low :: rest)
  | c :: rest => Path.ofString (String.singleton c) ++ unescape rest

/-- The two sides of a mark; without one, everything is on the left. -/
def splitAt (mark : Char) (text : List Char) : List Char × List Char :=
  (cutAt? mark text).getD (text, [])

/-- Bytes as a text.  Where they are none it is a character that no escape
gives, so that it is the name of nothing. -/
def asText (bytes : List UInt8) : String :=
  (String.fromUTF8? (ByteArray.mk bytes.toArray)).getD "\x00"

/-- Parameters with a name, in the order written. -/
def parameters (text : List Char) : List (String × String) :=
  ((pieces '&' text).map fun piece =>
    let (name, value) := splitAt '=' piece
    (asText (unescape name), asText (unescape value))).filter fun (name, _) => name ≠ ""

/-- Whether a parameter switches something on: by a word, or by the digits at its
head.  Of their number only the last byte counts. -/
def isOn (value : String) : Bool :=
  match value.toList.takeWhile Char.isDigit with
  | [] => ["on", "yes", "true"].contains (asciiLower value)
  | digits =>
    let n := digits.foldl (fun n c => 10 * n + (c.toNat - '0'.toNat)) 0
    n < halfWordBound / 2 && n % 256 != 0

/-- Applies one parameter.  Those that are not known change nothing. -/
def withParameter? (address : StoreAddress) (parameter : String × String) : Option StoreAddress :=
  match parameter with
  | ("mode", name) =>
    (Access.ofName? name).bind fun access =>
      if address.access.mayBecome access then some { address with access } else none
  | ("cache", name) => if name = "shared" ∨ name = "private" then some address else none
  | _ => some address

/-- The medium that the last such parameter names. -/
def medium? (parameters : List (String × String)) : Option Medium :=
  match parameters.reverse.find? (·.1 = "vfs") with
  | some (_, name) => Medium.ofName? name
  | none => some .disk

/-- What follows the name of the machine, which is this one. -/
def afterAuthority? : List Char → Option (List Char)
  | '/' :: '/' :: rest =>
    let authority := String.ofList (rest.takeWhile (· ≠ '/'))
    if authority = "" ∨ authority = "localhost" then some (rest.dropWhile (· ≠ '/'))
    else none
  | text => some text

/-- The address after `file:`. -/
def ofTail? (text : List Char) : Option StoreAddress := do
  let text ← afterAuthority? text
  let (path, query) := splitAt '?' (splitAt '#' text).1
  let parameters := parameters query
  let address ← parameters.foldlM withParameter? { path := unescape path }
  let medium ← medium? parameters
  let immutable := parameters.find? (·.1 = "immutable")
  return { address with medium, isImmutable := immutable.any fun (_, value) => isOn value }

/-- Reads an address.  No path holds a zero character. -/
def ofString? (text : String) : Option StoreAddress :=
  if text.toList.contains '\x00' then none
  else
    match afterStart? "file:".toList text.toList with
    | some tail => ofTail? tail
    | none => some { path := Path.ofString text }

end StoreAddress

end Gallery
