import Gallery.Proofs.Archive.ReferenceScan
import Gallery.Proofs.Archive.Soundness
import Gallery.Proofs.Search.Rearranged

/-!
# One order for all searches

Asking for more than an order takes items away and leaves the others where they were, on
every route but the text index.  There is one exception: items that were added at one time
are shown with the higher number first by a search that the store has sorted for the newest
key, and with the lower number first by one that the filter has sorted.

An order by itself takes nothing away: with any key and with none a search finds the same
items, through the text index too, and they stand by the key.
-/

namespace Gallery

namespace Search

variable {store : Store} {query : Query} {key : OrderKey} {names : TagNames}

theorem hits_sublist_inOrder
    (h : store.Sound) (horder : query.order = some key) (hroute : routeOf names query ≠ .hybrid)
    (hsame : foundLe (routeOf names query) key = scanLe (some key)) :
    (answer store names query).hits.Sublist ((store.inOrder key).map Item.hit) := by
  obtain ⟨items, hhits, hnodup, hstored, hsorted⟩ := exists_items_of_answer h horder hroute
  rw [hsame] at hsorted
  rw [hhits]
  exact (Store.sublist_inOrder h.itemIds hnodup hstored hsorted).map _

theorem hits_subperm_inOrder
    (h : store.Sound) (horder : query.order = some key)
    (hroute : routeOf names query ≠ .hybrid) :
    (answer store names query).hits.Subperm ((store.inOrder key).map Item.hit) := by
  obtain ⟨items, hhits, hnodup, hstored, -⟩ := exists_items_of_answer h horder hroute
  have hsubset : items ⊆ store.inOrder key :=
    fun item hitem => Store.mem_inOrder.2 (hstored item hitem)
  obtain ⟨kept, hkept, hsublist⟩ := List.subperm_of_subset hnodup hsubset
  rw [hhits]
  exact ⟨kept.map Item.hit, hkept.map _, hsublist.map _⟩

/-- Two hits stand as the items that they show. -/
theorem pair_of_hits
    (h : store.Sound) {items : List Item}
    (hstored : ∀ item ∈ items, ∃ row ∈ store.items, row.view = item)
    {a b : StoredItem} (ha : a ∈ store.items) (hb : b ∈ store.items)
    (hpair : [a.view.hit, b.view.hit].Sublist (items.map Item.hit)) :
    [a.view, b.view].Sublist items := by
  have hview : ∀ item ∈ items, ∀ row ∈ store.items, row.view.hit = item.hit →
      row.view = item := by
    intro item hitem row hrow hsame
    obtain ⟨other, hother, rfl⟩ := hstored item hitem
    have hid : other.id = row.id := (congrArg Hit.id hsame).symm
    rw [h.item_eq_of_id hother hrow hid]
  obtain ⟨shown, hshown, hhits⟩ := List.sublist_map_iff.1 hpair
  obtain ⟨first, rest, rfl, hfirst, hrest⟩ := List.map_eq_cons_iff.1 hhits.symm
  obtain ⟨second, rfl, hsecond⟩ := List.map_eq_singleton_iff.1 hrest
  have hmem := hshown.subset
  rw [hview first (hmem (by simp)) a ha hfirst.symm, hview second (hmem (by simp)) b hb hsecond.symm]
  exact hshown

theorem pair_hits_inOrder_newest
    (h : store.Sound) (horder : query.order = some .newest)
    (hroute : routeOf names query = .exactTag ∨ routeOf names query = .fallback)
    {a b : StoredItem} (ha : a ∈ store.items) (hb : b ∈ store.items)
    (hpair : [a.view.hit, b.view.hit].Sublist (answer store names query).hits) :
    if a.ingestedAt = b.ingestedAt then
      [b.view.hit, a.view.hit].Sublist ((store.inOrder .newest).map Item.hit)
    else [a.view.hit, b.view.hit].Sublist ((store.inOrder .newest).map Item.hit) := by
  have hindex : routeOf names query ≠ .hybrid := by
    rintro hhybrid
    simp [hhybrid] at hroute
  have hfound : foundLe (routeOf names query) .newest = OrderKey.newest.thenNumber := by
    obtain hexact | hfallback := hroute
    · rw [hexact]
      rfl
    · rw [hfallback]
      rfl
  obtain ⟨items, hhits, hnodup, hstored, hsorted⟩ := exists_items_of_answer h horder hindex
  rw [hhits] at hpair
  rw [hfound, List.pairwise_iff_forall_sublist] at hsorted
  have hviews := pair_of_hits h hstored ha hb hpair
  have hcases := Store.pair_inOrder_newest h.itemIds (Store.mem_inOrder.2 ⟨a, ha, rfl⟩)
    (Store.mem_inOrder.2 ⟨b, hb, rfl⟩) (hnodup.forall_sublist hviews) (hsorted hviews)
  by_cases htied : a.view.ingestedAt = b.view.ingestedAt
  · rw [if_pos htied] at hcases
    rw [if_pos (show a.ingestedAt = b.ingestedAt from htied)]
    exact hcases.map Item.hit
  · rw [if_neg htied] at hcases
    rw [if_neg (show ¬a.ingestedAt = b.ingestedAt from htied)]
    exact hcases.map Item.hit

end Search

namespace Archive

-- Small stores are sorted while a fact about one is decided.
attribute [local semireducible] List.mergeSort

variable {α : Type} [Scalar α]

theorem hits_in_order
    (configs : ℕ → Config) (limits : ℕ → ℕ) {calls : List Call}
    (hordinary : ∀ call ∈ calls, call.request.isOrdinary = true)
    (catalog other : Catalog α) {query : Query} {key : OrderKey}
    (horder : query.order = some key) :
    let store := ((opened {} configs limits : Archive α).run calls).store
    let results := (catalog.execute store query).1
    let all := (other.execute store { order := some key }).1
    results.route ≠ .hybrid →
      results.hits.Subperm all.hits ∧
        (key ≠ .newest ∨ results.route = .simpleOrder ∨ results.route = .simpleFilter →
          results.hits.Sublist all.hits) ∧
        (key = .newest → results.route = .exactTag ∨ results.route = .fallback →
          ∀ a ∈ store.items, ∀ b ∈ store.items,
            [a.view.hit, b.view.hit].Sublist results.hits →
              if a.ingestedAt = b.ingestedAt then
                [b.view.hit, a.view.hit].Sublist all.hits
              else [a.view.hit, b.view.hit].Sublist all.hits) := by
  intro store results all hindex
  have hsound : store.Sound := (reachable_run configs limits hordinary).consistent.sound
  obtain ⟨names, hanswer⟩ := catalog.exists_names_of_execute store query
  obtain ⟨others, hothers⟩ := other.exists_names_of_execute store { order := some key }
  have hall : all.hits = (store.inOrder key).map Item.hit := by
    rw [← Search.hits_answer_order hsound.healthy others key, ← hothers]
  have hroute : results.route = Search.routeOf names query := by
    rw [← Search.route_answer store names query, ← hanswer]
  have hhits : results.hits = (Search.answer store names query).hits := by
    rw [← hanswer]
  rw [hroute] at hindex ⊢
  rw [hall, hhits]
  refine ⟨Search.hits_subperm_inOrder hsound horder hindex, ?_, ?_⟩
  · intro hsame
    exact Search.hits_sublist_inOrder hsound horder hindex (Search.foundLe_eq_scanLe hsame)
  · rintro rfl hmemory a ha b hb hpair
    exact Search.pair_hits_inOrder_newest hsound horder hmemory ha hb hpair

/-- Of three items one was added later and lacks the tag; the other two change places. -/
theorem hits_in_order_of_three_items :
    let calls : List Call :=
      [⟨0, 0, .add { filepath := "a.png", contentHash := "0", tags := [⟨"cat", .general, none,
          .imported⟩] }⟩,
        ⟨0, 0, .add { filepath := "b.png", contentHash := "1", tags := [⟨"cat", .general, none,
          .imported⟩] }⟩,
        ⟨0, 1, .add { filepath := "c.png", contentHash := "2", ingestedAt := some 5 }⟩,
        ⟨0, 0, .flush⟩, ⟨0, 1, .flush⟩]
    let store := ((opened {} (fun _ => {}) (fun _ => 8) : Archive Float).run calls).store
    let catalog : Catalog Float := .fresh {}
    let newest := (catalog.execute store (Query.parse "cat order:newest")).1
    let oldest := (catalog.execute store (Query.parse "cat order:oldest")).1
    newest.hits.map (·.id) = [1, 2] ∧
      (catalog.execute store { order := some .newest }).1.hits.map (·.id) = [3, 2, 1] ∧
      newest.hits.Subperm (catalog.execute store { order := some .newest }).1.hits ∧
      oldest.hits.Sublist (catalog.execute store { order := some .oldest }).1.hits := by
  intro calls store catalog newest oldest
  have hordinary : ∀ call ∈ calls, call.request.isOrdinary = true := by decide
  obtain ⟨hnewest, holdest, hroutes⟩ :
      (Query.parse "cat order:newest").order = some .newest ∧
        (Query.parse "cat order:oldest").order = some .oldest ∧
        newest.route ≠ .hybrid ∧ oldest.route ≠ .hybrid := by
    decide
  have hshown :
      newest.hits.map (·.id) = [1, 2] ∧
        (catalog.execute store { order := some .newest }).1.hits.map (·.id) = [3, 2, 1] := by
    simp only [newest, Catalog.execute, Search.execute, Search.answer, Search.run,
      Search.sorted, Store.withTags, Store.scanOrdered, scanSort_eq_insertionSort,
      OrderKey.sort_eq_insertionSort]
    decide
  have hall := hits_in_order (fun _ => {}) (fun _ => 8) hordinary catalog catalog hnewest hroutes.1
  have hkept := hits_in_order (fun _ => {}) (fun _ => 8) hordinary catalog catalog holdest hroutes.2
  exact ⟨hshown.1, hshown.2, hall.1, hkept.2.1 (Or.inl (by decide))⟩

/-- Two items that were added at no known time: the tag they share turns them round. -/
theorem hits_turned_round :
    let calls : List Call :=
      [⟨0, 0, .add { filepath := "a.png", contentHash := "0", tags := [⟨"cat", .general, none,
          .imported⟩] }⟩,
        ⟨0, 0, .add { filepath := "b.png", contentHash := "1", tags := [⟨"cat", .general, none,
          .imported⟩] }⟩,
        ⟨0, 0, .flush⟩]
    let store := ((opened {} (fun _ => {}) (fun _ => 8) : Archive Float).run calls).store
    let catalog : Catalog Float := .fresh {}
    let query := Query.parse "cat order:newest"
    let results := (catalog.execute store query).1
    (∀ call ∈ calls, call.request.isOrdinary = true) ∧
      query.order = some .newest ∧ results.route = .exactTag ∧
      ¬results.hits.Sublist (catalog.execute store { order := some .newest }).1.hits := by
  simp only [Catalog.execute, Search.execute, Search.answer, Search.run, Search.sorted,
    Store.withTags, Store.scanOrdered, scanSort_eq_insertionSort, OrderKey.sort_eq_insertionSort]
  decide

theorem order_only_rearranges
    (configs : ℕ → Config) (limits : ℕ → ℕ) {calls : List Call}
    (hordinary : ∀ call ∈ calls, call.request.isOrdinary = true)
    (catalog : Catalog α) (query : Query) :
    let store := ((opened {} configs limits : Archive α).run calls).store
    (∀ key? : Option OrderKey,
        (catalog.execute store { query with order := key? }).1.hits.Perm
          (catalog.execute store query).1.hits) ∧
      ∀ key : OrderKey, ∃ items : List Item,
        (catalog.execute store { query with order := some key }).1.hits = items.map Item.hit ∧
          (∀ item ∈ items, ∃ row ∈ store.items, row.view = item) ∧
          items.Pairwise (Search.InOrder key) := by
  intro store
  have hsound : store.Sound := (reachable_run configs limits hordinary).consistent.sound
  constructor
  · intro key?
    rw [catalog.execute_eq_answer, catalog.execute_eq_answer]
    exact Search.hits_ordered_perm hsound.healthy (catalog.names store).1 query key?
  · intro key
    rw [catalog.execute_eq_answer]
    exact Search.exists_items_inOrder hsound rfl (catalog.names store).1

/-- Without a key the filter finds all items, with one the store; and a search through the
text index is ordered too. -/
theorem order_only_rearranges_three_items :
    let calls : List Call :=
      [⟨0, 0, .add { filepath := "a.png", contentHash := "0", ingestedAt := some 5 }⟩,
        ⟨0, 0, .add { filepath := "b.png", contentHash := "1" }⟩,
        ⟨0, 0, .add { filepath := "c.png", contentHash := "2", ingestedAt := some (-7) }⟩,
        ⟨0, 0, .flush⟩]
    let store := ((opened {} (fun _ => {}) (fun _ => 8) : Archive Float).run calls).store
    let catalog : Catalog Float := .fresh {}
    let indexed := Query.parse "png"
    (∀ call ∈ calls, call.request.isOrdinary = true) ∧
      (catalog.execute store {}).1.route = .fallback ∧
      (catalog.execute store { order := some .newest }).1.route = .simpleOrder ∧
      (catalog.execute store indexed).1.route = .hybrid ∧
      (catalog.execute store { order := some .newest }).1.hits.map (·.id) = [1, 3, 2] ∧
      (catalog.execute store { order := some .newest }).1.hits.Perm
        (catalog.execute store {}).1.hits ∧
      ∃ items : List Item,
        (catalog.execute store { indexed with order := some .oldest }).1.hits =
            items.map Item.hit ∧
          (∀ item ∈ items, ∃ row ∈ store.items, row.view = item) ∧
          items.Pairwise (Search.InOrder .oldest) := by
  intro calls store catalog indexed
  have hordinary : ∀ call ∈ calls, call.request.isOrdinary = true := by decide
  have hroutes :
      (catalog.execute store {}).1.route = .fallback ∧
        (catalog.execute store { order := some .newest }).1.route = .simpleOrder ∧
        (catalog.execute store indexed).1.route = .hybrid := by
    decide
  have hshown :
      (catalog.execute store { order := some .newest }).1.hits.map (·.id) = [1, 3, 2] := by
    simp only [Catalog.execute, Search.execute, Search.answer, Search.run, Store.scanOrdered,
      scanSort_eq_insertionSort]
    decide
  exact ⟨hordinary, hroutes.1, hroutes.2.1, hroutes.2.2, hshown,
    (order_only_rearranges (fun _ => {}) (fun _ => 8) hordinary catalog {}).1 (some .newest),
    (order_only_rearranges (fun _ => {}) (fun _ => 8) hordinary catalog indexed).2 .oldest⟩

end Archive

end Gallery
