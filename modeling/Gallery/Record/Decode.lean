import Gallery.Json.Basic
import Gallery.Record.Basic
import Gallery.Word

/-!
# Reading records from JSON

A record is an object, or an array of its fields in order.  Fields that are not
known are passed over and a known field may come once.  A field that is left out
has its default; null stands for absence where a field may be absent.
-/

namespace Gallery

namespace Json

/-- The value of a field: nothing where the object has none, and a failure where
it has several. -/
def field? (members : List (String × Json)) (name : String) : Option (Option Json) :=
  match members.filter (·.1 == name) with
  | [] => some none
  | [member] => some (some member.2)
  | _ => none

/-- The fields of a structure by name, or by position in an array. -/
def fields? (names : List String) : Json → Option (List (Option Json))
  | .object members => names.mapM (field? members)
  | .array elements =>
    if elements.length ≤ names.length then
      some (elements.map some ++ List.replicate (names.length - elements.length) none)
    else none
  | _ => none

/-- A required field. -/
def needed? {α : Type} (decode : Json → Option α) : Option Json → Option α
  | some value => decode value
  | none => none

/-- A field with a default. -/
def orDefault? {α : Type} (default : α) (decode : Json → Option α) :
    Option Json → Option α
  | some value => decode value
  | none => some default

/-- Null or a value. -/
def nullable? {α : Type} (decode : Json → Option α) : Json → Option (Option α)
  | .null => some none
  | value => (decode value).map some

def int64? (value : Json) : Option Int :=
  value.int?.bind fun n => 
    if -(signedWordBound : Int) ≤ n ∧ n < signedWordBound then some n else none

def nat32? (value : Json) : Option Nat :=
  value.nat?.bind fun n => if n < halfWordBound then some n else none

/-- A name of an enumeration, alone or as the one member of an object with
nothing in it. -/
def enumeration? {α : Type} (ofName? : String → Option α) : Json → Option α
  | .string name => ofName? name
  | .object [(name, .null)] => ofName? name
  | _ => none

def listOf? {α : Type} (decode : Json → Option α) (value : Json) : Option (List α) :=
  value.elements?.bind (·.mapM decode)

def pair32? : Json → Option (Nat × Nat)
  | .array [width, height] => do
    let width ← width.nat32?
    let height ← height.nat32?
    some (width, height)
  | _ => none

end Json

open Json

def TagAssignment.ofJson? (value : Json) : Option TagAssignment := do
  match ← fields? ["name", "category", "extended_category", "provenance"] value with
  | [name, category, subcategory, provenance] =>
    some {
      name := ← needed? text? name
      category := ← orDefault? .general (enumeration? Category.ofName?) category
      subcategory :=
        ← orDefault? none (nullable? (enumeration? Subcategory.ofName?)) subcategory
      provenance := ← orDefault? .imported (enumeration? Provenance.ofName?) provenance }
  | _ => none

def ItemRecord.ofJson? (value : Json) : Option ItemRecord := do
  let names := ["filepath", "content_hash", "tags", "sources", "score", "fav_count",
    "ingested_at", "parent", "upscaled"]
  match ← fields? names value with
  | [filepath, contentHash, tags, sources, score, favCount, ingestedAt, parent, upscaled] =>
    some {
      filepath := ← needed? text? filepath
      contentHash := ← needed? text? contentHash
      tags := ← orDefault? [] (listOf? TagAssignment.ofJson?) tags
      sources := ← orDefault? [] (listOf? text?) sources
      score := ← orDefault? none (nullable? int64?) score
      favCount := ← orDefault? none (nullable? int64?) favCount
      ingestedAt := ← orDefault? none (nullable? int64?) ingestedAt
      parent := ← orDefault? none (nullable? text?) parent
      upscaledSize := ← orDefault? none (nullable? pair32?) upscaled }
  | _ => none

end Gallery
