import Gallery.Proofs.Search.Structural

/-!
# What a route leaves open

A route skips checks that its shape makes superfluous.  The inversions of
`Route.choose` say what a query is known not to ask on each route; with them every
skipped check is vacuous or was made by the store.
-/

namespace Gallery

open Text

namespace Route

variable {query : Query} {exact : List Bool}

theorem of_simpleOrder (hroute : choose query exact = .simpleOrder) :
    query.hasTerms = false ∧ query.metadata = none ∧ query.hasCategorizedTerms = false ∧
      query.hasStructuralFilters = false := by
  unfold choose at hroute
  dsimp only at hroute
  split_ifs at hroute
  simp_all

theorem of_simpleFilter (hroute : choose query exact = .simpleFilter) :
    query.hasTerms = false ∧ query.metadata = none := by
  unfold choose at hroute
  dsimp only at hroute
  split_ifs at hroute
  simp_all

theorem of_exactTag (hroute : choose query exact = .exactTag) :
    query.hasTerms = true ∧ ∀ known ∈ exact, known = true := by
  unfold choose at hroute
  dsimp only at hroute
  split_ifs at hroute
  simp_all

theorem of_fallback (hroute : choose query exact = .fallback) : query.hasTerms = false := by
  unfold choose at hroute
  dsimp only at hroute
  split_ifs at hroute <;> simp_all

end Route

namespace Filter

variable {store : Store} {query : Query} {item : StoredItem}

theorem accepts_true (tables : SideTables) (item : Item) :
    accepts query true tables item =
      (structuralAccepts query tables item && accepts query false tables item) := by
  simp only [accepts, Bool.not_true, Bool.not_false, Bool.false_or, Bool.true_or, Bool.true_and,
    Bool.and_assoc]

theorem extensionAccepts_of_structuralAccepts
    {tables : SideTables} {item : Item} (haccepts : structuralAccepts query tables item = true) :
    extensionAccepts query item = true := by
  simp only [structuralAccepts, Bool.and_eq_true] at haccepts
  exact haccepts.1.1.1.1.1.2

theorem structuralAccepts_of_none
    (hnone : query.hasStructuralFilters = false) (tables : SideTables) (item : Item) :
    structuralAccepts query tables item = true := by
  simp only [Query.hasStructuralFilters, Bool.or_eq_false_iff, Bool.not_eq_false',
    Option.isSome_eq_false_iff] at hnone
  obtain ⟨⟨⟨⟨⟨⟨hsources, hfilename⟩, hextensions⟩, hpool⟩, hrelationship⟩, hfavorite⟩,
    hupscaled⟩ := hnone
  simp only [Option.isNone_iff_eq_none] at hfilename hrelationship hupscaled
  simp [structuralAccepts, sourceAccepts, extensionAccepts, filenameAccepts, relationshipAccepts,
    upscaledAccepts, hsources, hfilename, hextensions, hpool, hrelationship, hfavorite, hupscaled]

/-- A query without terms of any kind and without a metadata filter asks nothing more
of its candidates. -/
theorem accepts_of_none
    (hterms : query.hasTerms = false) (hmetadata : query.metadata = none)
    (hcategorized : query.hasCategorizedTerms = false) (tables : SideTables) (item : Item) :
    accepts query false tables item = true := by
  simp only [Query.hasCategorizedTerms, Bool.or_eq_false_iff, Bool.not_eq_false',
    List.isEmpty_iff] at hcategorized
  simp [accepts, metadataAccepts, categoriesAccept, ratingsAccept, termsAccept, hterms, hmetadata,
    hcategorized]

end Filter

namespace Search

variable {store : Store} {query : Query} {exact : List Bool} {included excluded : List TagId}
  {item : StoredItem}

/-- By whatever route an item was selected, the complete filter accepts it if its path
has an ending asked for. -/
theorem accepts_of_selects_of_settled
    (hsettled : query.Over Settled)
    (hselects :
      selects store query (Route.choose query exact) included excluded item = true) :
    Filter.accepts query true (SideTables.full store query) item.view =
      Filter.extensionAccepts query item.view := by
  have hstructural : ∀ {tables : SideTables},
      Filter.accepts query true tables item.view = true →
        Filter.accepts query true tables item.view = Filter.extensionAccepts query item.view := by
    intro tables haccepts
    rw [haccepts]
    rw [Filter.accepts_true, Bool.and_eq_true] at haccepts
    exact (Filter.extensionAccepts_of_structuralAccepts haccepts.1).symm
  cases hroute : Route.choose query exact with
  | simpleOrder =>
      obtain ⟨hterms, hmetadata, hcategorized, hnone⟩ := Route.of_simpleOrder hroute
      apply hstructural
      rw [Filter.accepts_true, Filter.structuralAccepts_of_none hnone,
        Filter.accepts_of_none hterms hmetadata hcategorized]
      rfl
  | simpleFilter =>
      rw [hroute] at hselects
      simp only [selects, Bool.and_eq_true] at hselects
      rw [Filter.accepts_true, structuralAccepts_of_meets hsettled hselects.1, hselects.2,
        Bool.and_true]
  | exactTag =>
      rw [hroute] at hselects
      simp only [selects, Store.holdsTags, Bool.and_eq_true] at hselects
      rw [Filter.accepts_true, structuralAccepts_of_meets hsettled hselects.1.1.2, hselects.2,
        Bool.and_true]
  | hybrid =>
      rw [hroute] at hselects
      exact hstructural hselects
  | fallback =>
      rw [hroute] at hselects
      exact hstructural hselects

theorem accepts_of_selects
    (hplain : query.Plain)
    (hselects :
      selects store query (Route.choose query exact) included excluded item = true) :
    Filter.accepts query true (SideTables.full store query) item.view =
      Filter.extensionAccepts query item.view :=
  accepts_of_selects_of_settled hplain.settled hselects

/-- Where a pattern tells the endings asked for from all others, the filter accepts
whatever was selected. -/
theorem accepts_of_selects_of_distinguishable
    (hplain : query.Plain) (hpath : '\x00' ∉ item.filepath.toList)
    (hdistinct : Distinguishable query)
    (hselects :
      selects store query (Route.choose query exact) included excluded item = true) :
    Filter.accepts query true (SideTables.full store query) item.view = true := by
  have hsame := accepts_of_selects hplain hselects
  cases hroute : Route.choose query exact with
  | simpleOrder =>
      have hnone := (Route.of_simpleOrder hroute).2.2.2
      rw [hsame]
      exact Filter.extensionAccepts_of_structuralAccepts
        (Filter.structuralAccepts_of_none hnone {} item.view)
  | simpleFilter =>
      rw [hroute] at hselects
      simp only [selects, Bool.and_eq_true] at hselects
      rw [hsame]
      exact extensionAccepts_of_meets hplain hpath hdistinct hselects.1
  | exactTag =>
      rw [hroute] at hselects
      simp only [selects, Store.holdsTags, Bool.and_eq_true] at hselects
      rw [hsame]
      exact extensionAccepts_of_meets hplain hpath hdistinct hselects.1.1.2
  | hybrid =>
      rw [hroute] at hselects
      exact hselects
  | fallback =>
      rw [hroute] at hselects
      exact hselects

/-! ## Hits -/

theorem hits_results
    {route : Route} {outcome : Except StoreError (List Item)} {hit : Hit} :
    hit ∈ (results query route outcome).hits ↔
      ∃ items, outcome = .ok items ∧ ∃ item ∈ items, item.hit = hit := by
  cases outcome with
  | error fault => simp [results, SearchResults.none]
  | ok items => simp [results]

/-- The hits of a search are some of the stored items that its route selects. -/
theorem exists_of_mem_answer
    (hhealthy : store.Healthy) {names : TagNames} {hit : Hit}
    (hhit : hit ∈ (answer store names query).hits) :
    ∃ item ∈ store.items, item.view.hit = hit ∧
      selects store query
        (Route.choose query (query.general.map fun term => (names.id? term).isSome))
        (names.ids query.general) (names.ids query.negative) item = true := by
  unfold answer at hhit
  obtain ⟨items, hrun, shown, hshown, rfl⟩ := hits_results.1 hhit
  obtain ⟨kept, hkept, hperm⟩ := run_ok hhealthy hrun
  obtain ⟨item, hitem, rfl⟩ := List.mem_map.1 (hperm.mem_iff.1 hshown)
  obtain ⟨hmem, hselects⟩ := List.mem_filter.1 (hkept.subset hitem)
  exact ⟨item, hmem, rfl, hselects⟩

theorem nodup_hits
    (hhealthy : store.Healthy) (hids : (store.items.map (·.id)).Nodup) (names : TagNames)
    (query : Query) : ((answer store names query).hits.map (·.id)).Nodup := by
  unfold answer
  cases hrun : run store query
      (Route.choose query (query.general.map fun term => (names.id? term).isSome))
      (query.general.map fun term => (names.id? term).isSome)
      (names.ids query.general) (names.ids query.negative) with
  | error fault => simp [results, SearchResults.none, hrun]
  | ok items =>
      obtain ⟨kept, hkept, hperm⟩ := run_ok hhealthy hrun
      have hsame : (items.map Item.hit).map (·.id) = items.map (·.id) := by
        rw [List.map_map]
        rfl
      have hkeptIds : (kept.map (·.id)).Nodup :=
        hids.sublist ((hkept.trans List.filter_sublist).map _)
      simp only [results, hrun]
      rw [hsame]
      exact Store.nodup_ids_of_perm hperm hkeptIds

end Search

end Gallery
