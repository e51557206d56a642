import Gallery.Proofs.Archive.Effects
import Gallery.Proofs.Archive.Transparency
import Gallery.Proofs.Catalog.Related

/-!
# The items most like an item of an archive

A catalog whose caches hold what is so answers with the items most like an item in the
order of their ranks among all items of the archive, as far as it was asked to.  Only where
more items share a tag with the item than are looked at may it miss some.
-/

namespace Gallery

namespace Archive

variable {α : Type} [Field α] [LinearOrder α] [Scalar α] [Scalar.Exact α]

theorem related_is_start_of_ranking
    (configs : ℕ → Config) (limits : ℕ → ℕ) {calls : List Call}
    (hordinary : ∀ call ∈ calls, call.request.isOrdinary = true) (catalog : Catalog α) :
    let store := ((opened {} configs limits : Archive α).run calls).store
    let config := catalog.config
    let related (id : ItemId) (limit : ℕ) := (catalog.related store id limit).1
    Caches.Coherent config store catalog.caches →
      (∀ item ∈ store.items, (store.sharers item.id).length ≤ 500 →
        ∃ ranked : List (RelatedItem α),
          ranked.Perm (((store.items.filter fun other => other.id ≠ item.id).map
            (store.compared config item)).filter fun other => 0.05 ≤ other.score) ∧
          ranked.Pairwise RelatedItem.Before ∧
          ∀ limit, related item.id limit = ranked.take limit) ∧
      ∀ id limit,
        (∀ other ∈ related id limit, other.item.id ≠ id) ∧
        ((∀ item ∈ store.items, item.id ≠ id) ∨ (∀ tag, ¬store.Carries id tag) →
          related id limit = []) := by
  intro store config related hcoherent
  have hconsistent : store.Consistent := (reachable_run configs limits hordinary).consistent
  have hsound := hconsistent.sound
  have hrelated (id : ItemId) (limit : ℕ) : related id limit = store.relatedOf config id limit :=
    (hcoherent.relatedTo hsound.healthy id limit).1
  simp only [hrelated]
  refine ⟨?_, ?_⟩
  · intro item hitem hfew
    exact hconsistent.exists_ranking config hitem hfew
  · intro id limit
    refine ⟨fun other hother => hsound.id_ne_of_mem_relatedOf hother, ?_⟩
    rintro (hunknown | huntagged)
    · exact hsound.relatedOf_of_untagged (hsound.not_carries_of_unknown hunknown) config limit
    · exact hsound.relatedOf_of_untagged huntagged config limit

/-- Two items have all their tags in common with the item, and a third has none. -/
theorem related_is_start_of_ranking_of_four_items :
    let calls : List Call :=
      [⟨0, 0, .add { filepath := "a.png", contentHash := "0", tags := [{ name := "cat" }] }⟩,
        ⟨0, 0, .add { filepath := "b.png", contentHash := "1", tags := [{ name := "cat" }] }⟩,
        ⟨0, 0, .add { filepath := "c.png", contentHash := "2", tags := [{ name := "cat" }] }⟩,
        ⟨0, 0, .add { filepath := "d.png", contentHash := "3", tags := [{ name := "hat" }] }⟩,
        ⟨0, 0, .flush⟩]
    let store := ((opened {} (fun _ => {}) (fun _ => 8) : Archive ℝ).run calls).store
    let catalog : Catalog ℝ := .fresh { similarity := .jaccard }
    (catalog.related store 1 5).1 =
        [⟨⟨2, "b.png", "cat"⟩, 1⟩, ⟨⟨3, "c.png", "cat"⟩, 1⟩] ∧
      (catalog.related store 1 1).1 = [⟨⟨2, "b.png", "cat"⟩, 1⟩] ∧
      (catalog.related store 5 5).1 = [] := by
  intro calls store catalog
  have hordinary : ∀ call ∈ calls, call.request.isOrdinary = true := by decide
  have hcoherent : Caches.Coherent catalog.config store catalog.caches :=
    (Catalog.coherent_fresh { similarity := .jaccard } store).caches
  obtain ⟨hknown, hrest⟩ := related_is_start_of_ranking (fun _ => {}) (fun _ => 8) hordinary catalog
    hcoherent
  let row (id : ItemId) (path hash tag : String) : StoredItem :=
    ⟨id, path, path, hash, { general := tag }, none, none, none, none, false, none⟩
  have hitems : store.items = [row 1 "a.png" "0" "cat", row 2 "b.png" "1" "cat",
      row 3 "c.png" "2" "cat", row 4 "d.png" "3" "hat"] := by
    decide +kernel
  have hfew : (store.sharers 1).length ≤ 500 := by decide
  have hunknown : ∀ item ∈ store.items, item.id ≠ 5 := by decide
  obtain ⟨ranked, hperm, hranked, hanswers⟩ :=
    hknown (row 1 "a.png" "0" "cat") (by rw [hitems]; simp) hfew
  have hcat : ({ general := "cat" } : CategoryTags).tagSet = ["cat"] ∧
      ({ general := "cat" } : CategoryTags).joined = "cat" := by
    decide
  have hhat : ({ general := "hat" } : CategoryTags).tagSet = ["hat"] := by decide
  have hcompared (store : Store) :
      ((([row 1 "a.png" "0" "cat", row 2 "b.png" "1" "cat", row 3 "c.png" "2" "cat",
        row 4 "d.png" "3" "hat"].filter fun other => other.id ≠ 1).map
          (store.compared { similarity := .jaccard } (row 1 "a.png" "0" "cat"))).filter
            fun other => (0.05 : ℝ) ≤ other.score) =
        [⟨⟨2, "b.png", "cat"⟩, 1⟩, ⟨⟨3, "c.png", "cat"⟩, 1⟩] := by
    have hall : (0.05 : ℝ) ≤ 1 := by norm_num
    have hnone : ¬(0.05 : ℝ) ≤ 0 := by norm_num
    simp [row, Store.compared, Store.likeness, Policy.overlap, StoredItem.view, Item.hit, hcat,
      hhat, hall, hnone]
  have hlist : ranked = [⟨⟨2, "b.png", "cat"⟩, 1⟩, ⟨⟨3, "c.png", "cat"⟩, 1⟩] := by
    refine RelatedItem.eq_of_perm_of_before (hperm.trans (.of_eq ?_)) hranked ?_
    · refine .trans ?_ (hcompared store)
      rw [← hitems]
      rfl
    · simp [RelatedItem.Before]
  refine ⟨?_, ?_, (hrest 5 5).2 (.inl hunknown)⟩
  · exact (hanswers 5).trans (by rw [hlist]; rfl)
  · exact (hanswers 1).trans (by rw [hlist]; rfl)

end Archive

end Gallery
