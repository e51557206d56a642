import Gallery.Proofs.Archive.Soundness
import Gallery.Proofs.Search.Shuffling

/-!
# Shuffling loses no order

Over every archive and with any directory, hits that may be shuffled were found without
the text index and without a sort that the query asked for.  They stand by number, so
neither a rank nor a sort is lost when they are rearranged.
-/

namespace Gallery

namespace Archive

-- Small stores are sorted while a fact about one is decided.
attribute [local semireducible] List.mergeSort

variable {α : Type} [Scalar α]

theorem shuffling_loses_no_order
    (configs : ℕ → Config) (limits : ℕ → ℕ) {calls : List Call}
    (hordinary : ∀ call ∈ calls, call.request.isOrdinary = true)
    (catalog : Catalog α) (query : Query) :
    let store := ((opened {} configs limits : Archive α).run calls).store
    let results := (catalog.execute store query).1
    results.shuffleEligible = true →
      (∃ items : List Item,
          Search.outcome store (catalog.names store).1 query = .ok items ∧
            results.hits = items.map Item.hit) ∧
        results.route ≠ .hybrid ∧
        (query.order = none ∨ query.order = some .random) ∧
        results.hits.Pairwise (fun a b => a.id < b.id) := by
  intro store results heligible
  have hsound : store.Sound := (reachable_run configs limits hordinary).consistent.sound
  have hanswer : results = Search.answer store (catalog.names store).1 query :=
    catalog.execute_eq_answer store query
  rw [hanswer] at heligible ⊢
  obtain ⟨items, houtcome, hhits, hroute⟩ := Search.exists_items_of_shuffleEligible heligible
  obtain ⟨hindex, hopen⟩ := Route.of_shuffleEligible hroute
  refine ⟨⟨items, houtcome, hhits⟩, ?_, hopen, ?_⟩
  · rw [Search.route_answer]
    exact hindex
  · rw [hhits]
    exact List.pairwise_map.2 (Search.pairwise_id_lt hsound hopen hindex houtcome)

/-- A search by a tag and one for a random order of all items, where the newest item has
the lowest number and a directory is stale. -/
theorem shuffling_loses_no_order_of_three_items :
    let cat : TagAssignment := ⟨"cat", .general, none, .imported⟩
    let calls : List Call :=
      [⟨0, 0, .add { filepath := "a.png", contentHash := "0", ingestedAt := some 9, tags := [cat] }⟩,
        ⟨0, 0, .add { filepath := "b.png", contentHash := "1" }⟩,
        ⟨0, 1, .add { filepath := "c.png", contentHash := "2", ingestedAt := some 5, tags := [cat] }⟩,
        ⟨0, 0, .flush⟩, ⟨0, 1, .flush⟩]
    let store := ((opened {} (fun _ => {}) (fun _ => 8) : Archive Float).run calls).store
    let stale : Catalog Float :=
      { (Catalog.fresh {} : Catalog Float) with
        caches := { (Caches.cold {} : Caches Float) with
          directory := ⟨some ⟨[(1, "cat"), (9, "dog")]⟩⟩ } }
    let tagged := (stale.execute store (Query.parse "cat")).1
    let all := (stale.execute store (Query.parse "order:random")).1
    tagged.shuffleEligible = true ∧ all.shuffleEligible = true ∧
      tagged.route = .exactTag ∧ all.route = .simpleOrder ∧
      tagged.hits.map (·.id) = [1, 3] ∧ all.hits.map (·.id) = [1, 2, 3] ∧
      tagged.hits.Pairwise (fun a b => a.id < b.id) ∧
      all.hits.Pairwise (fun a b => a.id < b.id) := by
  intro cat calls store stale tagged all
  have hordinary : ∀ call ∈ calls, call.request.isOrdinary = true := by decide
  obtain ⟨htagged, hall, hroutes⟩ :
      tagged.shuffleEligible = true ∧ all.shuffleEligible = true ∧
        tagged.route = .exactTag ∧ all.route = .simpleOrder := by
    decide
  have hshown : tagged.hits.map (·.id) = [1, 3] ∧ all.hits.map (·.id) = [1, 2, 3] := by
    simp only [tagged, all, Catalog.execute, Search.execute, Search.answer, Search.run,
      Search.sorted, Store.withTags, Store.scanOrdered, scanSort_eq_insertionSort,
      OrderKey.sort_eq_insertionSort]
    decide
  have hfirst := shuffling_loses_no_order (fun _ => {}) (fun _ => 8) hordinary stale
    (Query.parse "cat") htagged
  have hsecond := shuffling_loses_no_order (fun _ => {}) (fun _ => 8) hordinary stale
    (Query.parse "order:random") hall
  exact ⟨htagged, hall, hroutes.1, hroutes.2, hshown.1, hshown.2, hfirst.2.2.2, hsecond.2.2.2⟩

end Archive

end Gallery
