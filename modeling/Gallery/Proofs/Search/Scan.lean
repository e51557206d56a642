import Gallery.Proofs.Search.Reference

/-!
# Searching by structural filters alone

A query of structural filters and nothing else is answered by one scan of the items, and
its hits are the items that meet its conditions.  The store answers it unless its
conditions nest too deep or a pattern for the ending of a path is too long, and it never
looks at the directory.
-/

namespace Gallery

namespace Search

/-- The query asks for structural facets, at least for one, and for nothing else but
perhaps an order. -/
structure IsStructural (query : Query) : Prop where
  terms : query.hasTerms = false
  categorized : query.hasCategorizedTerms = false
  metadata : query.metadata = none
  freetext : query.freetext = false
  filters : query.hasStructuralFilters = true

instance (query : Query) : Decidable (IsStructural query) :=
  decidable_of_iff (query.hasTerms = false ∧ query.hasCategorizedTerms = false ∧
      query.metadata = none ∧ query.freetext = false ∧ query.hasStructuralFilters = true)
    ⟨fun ⟨hterms, hcategorized, hmetadata, hfreetext, hfilters⟩ =>
      ⟨hterms, hcategorized, hmetadata, hfreetext, hfilters⟩,
    fun h => ⟨h.terms, h.categorized, h.metadata, h.freetext, h.filters⟩⟩

variable {store : Store} {query : Query}

theorem IsStructural.routeOf (h : IsStructural query) (names : TagNames) :
    routeOf names query = .simpleFilter := by
  simp [Search.routeOf, Route.choose, h.terms, h.categorized, h.metadata, h.freetext, h.filters]

theorem scanFiltered_of_fits (hhealthy : store.Healthy)
    (hnesting : (Nesting.all (Nesting.structural query)).isAccepted = true)
    (hpatterns : ∀ item ∈ store.items, Store.meetsOverlong query item = false) :
    store.scanFiltered query = .ok
      (scanSort query.order ((store.items.filter (store.meets query)).map StoredItem.view)) := by
  have hfits : store.items.any (Store.meetsOverlong query) = false := by
    simpa using hpatterns
  unfold Store.scanFiltered
  rw [Store.require_of_healthy hhealthy, hnesting, hfits]
  rfl

theorem mem_hits_iff_meets (hhealthy : store.Healthy) (h : IsStructural query)
    (hnesting : (Nesting.all (Nesting.structural query)).isAccepted = true)
    (hextensions : query.extensions = []) (names : TagNames) {hit : Hit} :
    hit ∈ (answer store names query).hits ↔
      ∃ item ∈ store.items, store.meets query item = true ∧ item.view.hit = hit := by
  have haccepts (tables : SideTables) (item : Item) :
      Filter.accepts query false tables item = true :=
    Filter.accepts_of_none h.terms h.metadata h.categorized tables item
  have hpatterns : ∀ item ∈ store.items, Store.meetsOverlong query item = false := by
    simp [Store.meetsOverlong, hextensions]
  have hrun : outcome store names query = .ok
      (scanSort query.order ((store.items.filter (store.meets query)).map StoredItem.view)) := by
    rw [outcome, h.routeOf, run, scanFiltered_of_fits hhealthy hnesting hpatterns,
      ok_bind, refine_of_healthy hhealthy, List.filter_eq_self.2 fun item _ => haccepts _ item]
  rw [answer_eq, hrun, hits_results]
  constructor
  · rintro ⟨found, hfound, shown, hshown, rfl⟩
    cases hfound
    obtain ⟨item, hitem, rfl⟩ := List.mem_map.1 ((Store.scanSort_perm _ _).mem_iff.1 hshown)
    obtain ⟨hmem, hmeets⟩ := List.mem_filter.1 hitem
    exact ⟨item, hmem, hmeets, rfl⟩
  · rintro ⟨item, hitem, hmeets, rfl⟩
    refine ⟨_, rfl, item.view, ?_, rfl⟩
    rw [(Store.scanSort_perm _ _).mem_iff]
    exact List.mem_map_of_mem (List.mem_filter.2 ⟨hitem, hmeets⟩)

end Search

end Gallery
