import Gallery.Record.Decode
import Gallery.Store.Basic

/-!
# Stores as JSON

A store is kept between runs as one JSON object: every relation is a member, an
array of rows, and a row is an array of its fields.  A store that is kept misses
no relation, and its text index is made from its items.
-/

namespace Gallery

open Json

namespace Snapshot

/-! ## Rows -/

def tag (tag : Tag) : Json :=
  .array [.ofInt tag.id, .string tag.name, .string tag.category.name,
    .ofOption (.string ·.name) tag.subcategory]

def tag? : Json → Option Tag
  | .array [id, name, category, subcategory] => do
    return {
      id := ← id.int?
      name := ← name.text?
      category := ← enumeration? Category.ofName? category
      subcategory := ← nullable? (enumeration? Subcategory.ofName?) subcategory }
  | _ => none

def size (size : Nat × Nat) : Json :=
  .array [.ofNat size.1, .ofNat size.2]

def item (item : StoredItem) : Json :=
  .array [.ofInt item.id, .string item.filepath, .string item.filename,
    .string item.contentHash, .ofList .string item.tags.texts, .ofOption .ofInt item.score,
    .ofOption .ofInt item.favCount, .ofOption .ofInt item.ingestedAt,
    .ofOption .ofInt item.parent, .bool item.hasChildren, .ofOption size item.upscaledSize]

def item? : Json → Option StoredItem
  | .array [id, filepath, filename, contentHash, tags, score, favCount, ingestedAt, parent,
      hasChildren, upscaledSize] => do
    return {
      id := ← id.int?
      filepath := ← filepath.text?
      filename := ← filename.text?
      contentHash := ← contentHash.text?
      tags := ← (listOf? text? tags).bind CategoryTags.ofTexts?
      score := ← nullable? int? score
      favCount := ← nullable? int? favCount
      ingestedAt := ← nullable? int? ingestedAt
      parent := ← nullable? int? parent
      hasChildren := ← hasChildren.bool?
      upscaledSize := ← nullable? pair32? upscaledSize }
  | _ => none

def attachment (attachment : Attachment) : Json :=
  .array [.ofInt attachment.item, .ofInt attachment.tag, .string attachment.provenance.name]

def attachment? : Json → Option Attachment
  | .array [item, tag, provenance] => do
    return ⟨← item.int?, ← tag.int?, ← enumeration? Provenance.ofName? provenance⟩
  | _ => none

def source (source : SourceLabel) : Json :=
  .array [.ofInt source.item, .string source.label]

def source? : Json → Option SourceLabel
  | .array [item, label] => do return ⟨← item.int?, ← label.text?⟩
  | _ => none

def membership (membership : Membership) : Json :=
  .array [.string membership.pool, .ofInt membership.item]

def membership? : Json → Option Membership
  | .array [pool, item] => do return ⟨← pool.text?, ← item.int?⟩
  | _ => none

end Snapshot

/-! ## Stores -/

def Store.toJson (store : Store) : Json :=
  .object [
    ("tags", .ofList Snapshot.tag store.tags),
    ("items", .ofList Snapshot.item store.items),
    ("attachments", .ofList Snapshot.attachment store.attachments),
    ("sources", .ofList Snapshot.source store.sources),
    ("memberships", .ofList Snapshot.membership store.memberships),
    ("favorites", .ofList .ofInt store.favorites)]

def Store.ofJson? (value : Json) : Option Store := do
  let rows {α : Type} (name : String) (row? : Json → Option α) : Option (List α) :=
    (value.member? name).bind (listOf? row?)
  return {
    tags := ← rows "tags" Snapshot.tag?
    items := ← rows "items" Snapshot.item?
    attachments := ← rows "attachments" Snapshot.attachment?
    sources := ← rows "sources" Snapshot.source?
    memberships := ← rows "memberships" Snapshot.membership?
    favorites := ← rows "favorites" int? }

end Gallery
