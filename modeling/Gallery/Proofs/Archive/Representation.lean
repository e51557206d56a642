import Gallery.Proofs.Archive.Basic
import Gallery.Proofs.Store.Consistent
import Gallery.Proofs.Text.Bytes

/-!
# What the relations of an archive represent

Whatever calls its writers and readers make, and in whatever order, an archive
that started empty shows every item with the tags attached to it, category by
category, and its keys, references and tag names are in order.
-/

namespace Gallery

open Text

namespace Store

/-- The representation of items, tags and attachments in a store. -/
structure Faithful (store : Store) : Prop where
  /-- The text of a category lists the names attached in it, in the order of their
  bytes, and is read back as these names. -/
  texts : ∀ item ∈ store.items, ∀ category, ∃ names : List String,
    names.Pairwise (fun a b => utf8Bytes a < utf8Bytes b) ∧
    (∀ name, name ∈ names ↔
      ∃ tag ∈ store.tags, tag.name = name ∧ tag.category = category ∧
        ∃ a ∈ store.attachments, a.item = item.id ∧ a.tag = tag.id) ∧
    item.tags.get category = " ".intercalate names ∧
    words (item.tags.get category) = names
  paths : (store.items.map (·.filepath)).Nodup
  names : (store.tags.map (·.name)).Nodup
  letters : ∀ tag ∈ store.tags, tag.name ≠ "" ∧ ∀ c ∈ tag.name.toList, isBlank c = false
  /-- Numbers stand for one row each, so that the attachments name one item and one tag. -/
  ids : (store.items.map (·.id)).Nodup ∧ (store.tags.map (·.id)).Nodup
  links : ∀ a ∈ store.attachments,
    (∃ item ∈ store.items, item.id = a.item) ∧ ∃ tag ∈ store.tags, tag.id = a.tag
  linkedOnce : (store.attachments.map fun a => (a.item, a.tag)).Nodup
  subcategories : ∀ tag ∈ store.tags, tag.subcategory.isSome = true →
    tag.category = .general ∨ tag.category = .metadata

theorem Consistent.faithful {store : Store} (h : store.Consistent) : store.Faithful where
  texts := by
    intro item hitem category
    refine ⟨store.namesOf item.id category, ?_, ?_, ?_, ?_⟩
    · exact (h.sound.pairwise_namesOf item.id category).imp utf8Bytes_lt_iff.2
    · exact fun name => h.sound.mem_namesOf_iff
    · exact h.get_tags hitem category
    · exact h.words_get hitem category
  paths := h.sound.paths
  names := h.sound.tagNames
  letters := fun tag htag => isWord_iff.1 (h.sound.tagWords tag htag)
  ids := ⟨h.sound.itemIds, h.sound.tagIds⟩
  links := fun a ha => ⟨h.sound.attachedItems a ha, h.sound.attachedTags a ha⟩
  linkedOnce := h.sound.attachedOnce
  subcategories := by
    intro tag htag hsub
    have hallowed := h.sound.subcategories tag htag hsub
    cases hcategory : tag.category <;> simp_all [Category.allowsSubcategory]

end Store

namespace Archive

theorem faithful_run
    {α : Type} [Scalar α] (configs : ℕ → Config) (limits : ℕ → ℕ) {calls : List Call}
    (hordinary : ∀ call ∈ calls, call.request.isOrdinary = true) :
    ((opened {} configs limits : Archive α).run calls).store.Faithful :=
  (reachable_run configs limits hordinary).consistent.faithful

/-- Two writers of two catalogs, one of which moves a tag that the other attached. -/
theorem faithful_run_of_two_writers :
    let calls : List Call :=
      [⟨0, 0, .add { filepath := "a.png", contentHash := "0", tags := [⟨"cat", .general, none,
          .imported⟩, ⟨"rating:safe", .general, none, .imported⟩] }⟩,
        ⟨0, 0, .flush⟩,
        ⟨1, 1, .setTagCategory "cat" .species none⟩,
        ⟨1, 0, .removeTag "a.png" "rating:safe"⟩,
        ⟨0, 1, .deleteOrphanTags⟩]
    ((opened {} (fun _ => {}) (fun _ => 8) : Archive Float).run calls).store.Faithful := by
  refine faithful_run (fun _ => {}) (fun _ => 8) ?_
  simp [Request.isOrdinary, Request.isWrite]

end Archive

end Gallery
