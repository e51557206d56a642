import Gallery.Proofs.Search.Hybrid
import Gallery.Proofs.Search.Scan

/-!
# Order and repetition of terms

A query keeps its terms in lists, but neither how often an entry occurs in one of them nor
where makes a difference.  Every check asks whether some entry or all entries have a
property, the tags of a query are looked up one by one, and the route only looks at whether
a list is empty and at whether all terms are known.

What a longer list does change are the sizes that the store takes: how deep conditions
nest, how long a pattern is, how many terms the text index is asked for (`FitsLimits`).
Ranks, too, are sums over all terms, so with the text index what is found may come in
another order.
-/

namespace Gallery

open Text TextIndex

/-! ## Lists with the same entries -/

section SameEntries

variable {β γ : Type} {first second : List β} (h : ∀ x, x ∈ first ↔ x ∈ second)

include h

theorem all_eq_of_mem_iff (p : β → Bool) : first.all p = second.all p := by
  rw [Bool.eq_iff_iff, List.all_eq_true, List.all_eq_true]
  simp only [h]

theorem any_eq_of_mem_iff (p : β → Bool) : first.any p = second.any p := by
  rw [Bool.eq_iff_iff, List.any_eq_true, List.any_eq_true]
  simp only [h]

theorem isEmpty_eq_of_mem_iff : first.isEmpty = second.isEmpty := by
  rw [Bool.eq_iff_iff, List.isEmpty_iff, List.isEmpty_iff, List.eq_nil_iff_forall_not_mem,
    List.eq_nil_iff_forall_not_mem]
  simp only [h]

theorem contains_eq_of_mem_iff [BEq β] [LawfulBEq β] :
    first.contains = second.contains := by
  funext x
  rw [Bool.eq_iff_iff, List.contains_iff_mem, List.contains_iff_mem, h]

theorem mem_map_iff_of_mem_iff (f : β → γ) (y : γ) : y ∈ first.map f ↔ y ∈ second.map f := by
  simp only [List.mem_map, h]

theorem mem_filterMap_iff_of_mem_iff (f : β → Option γ) (y : γ) :
    y ∈ first.filterMap f ↔ y ∈ second.filterMap f := by
  simp only [List.mem_filterMap, h]

end SameEntries

/-! ## Queries with the same terms -/

/-- Two queries have the same entries in each of their lists, wherever they stand and
however often, and agree in all else. -/
structure Query.SameTerms (first second : Query) : Prop where
  general : ∀ term, term ∈ first.general ↔ term ∈ second.general
  negative : ∀ term, term ∈ first.negative ↔ term ∈ second.negative
  categorized : ∀ category term,
    term ∈ first.categoryTerms category ↔ term ∈ second.categoryTerms category
  ratings : ∀ level, level ∈ first.ratings ↔ level ∈ second.ratings
  sources : ∀ label, label ∈ first.sources ↔ label ∈ second.sources
  extensions : ∀ ending, ending ∈ first.extensions ↔ ending ∈ second.extensions
  filename : first.filename = second.filename
  pool : first.pool = second.pool
  relationship : first.relationship = second.relationship
  order : first.order = second.order
  favorite : first.favorite = second.favorite
  metadata : first.metadata = second.metadata
  upscaledPresent : first.upscaledPresent = second.upscaledPresent
  upscaledAbsent : first.upscaledAbsent = second.upscaledAbsent
  freetext : first.freetext = second.freetext

namespace Query.SameTerms

variable {first second : Query} (h : SameTerms first second)

include h

theorem symm : SameTerms second first where
  general := fun term => (h.general term).symm
  negative := fun term => (h.negative term).symm
  categorized := fun category term => (h.categorized category term).symm
  ratings := fun level => (h.ratings level).symm
  sources := fun label => (h.sources label).symm
  extensions := fun ending => (h.extensions ending).symm
  filename := h.filename.symm
  pool := h.pool.symm
  relationship := h.relationship.symm
  order := h.order.symm
  favorite := h.favorite.symm
  metadata := h.metadata.symm
  upscaledPresent := h.upscaledPresent.symm
  upscaledAbsent := h.upscaledAbsent.symm
  freetext := h.freetext.symm

theorem mem_categorized_iff (asked : Category × String) :
    asked ∈ first.categorized ↔ asked ∈ second.categorized := by
  obtain ⟨category, term⟩ := asked
  have hterms := h.categorized category term
  simpa [categoryTerms] using hterms

theorem hasTerms : first.hasTerms = second.hasTerms := by
  rw [Query.hasTerms, Query.hasTerms, isEmpty_eq_of_mem_iff h.general,
    isEmpty_eq_of_mem_iff h.negative]

theorem hasCategorizedTerms : first.hasCategorizedTerms = second.hasCategorizedTerms := by
  rw [Query.hasCategorizedTerms, Query.hasCategorizedTerms,
    isEmpty_eq_of_mem_iff h.mem_categorized_iff, isEmpty_eq_of_mem_iff h.ratings]

theorem upscaled : first.upscaled = second.upscaled := by
  rw [Query.upscaled, Query.upscaled, h.upscaledAbsent, h.upscaledPresent]

theorem hasStructuralFilters : first.hasStructuralFilters = second.hasStructuralFilters := by
  rw [Query.hasStructuralFilters, Query.hasStructuralFilters, isEmpty_eq_of_mem_iff h.sources,
    isEmpty_eq_of_mem_iff h.extensions, h.filename, h.pool, h.relationship, h.favorite,
    h.upscaled]

theorem choose (known : String → Bool) :
    Route.choose first (first.general.map known) =
      Route.choose second (second.general.map known) := by
  rw [Route.choose, Route.choose, h.hasTerms, h.hasCategorizedTerms, h.hasStructuralFilters,
    h.freetext, h.metadata, h.order,
    any_eq_of_mem_iff (mem_map_iff_of_mem_iff h.general known)]

theorem shuffleEligible (route : Route) :
    route.shuffleEligible first = route.shuffleEligible second := by
  unfold Route.shuffleEligible
  rw [h.hasStructuralFilters, h.order]

/-! ## Checks -/

theorem sourceAccepts : Filter.sourceAccepts first = Filter.sourceAccepts second := by
  funext sources
  rw [Filter.sourceAccepts, Filter.sourceAccepts, isEmpty_eq_of_mem_iff h.sources,
    contains_eq_of_mem_iff h.sources]

theorem extensionAccepts : Filter.extensionAccepts first = Filter.extensionAccepts second := by
  funext item
  rw [Filter.extensionAccepts, Filter.extensionAccepts, isEmpty_eq_of_mem_iff h.extensions,
    any_eq_of_mem_iff h.extensions]

theorem structuralAccepts :
    Filter.structuralAccepts first = Filter.structuralAccepts second := by
  funext tables item
  simp only [Filter.structuralAccepts, Filter.filenameAccepts, Filter.relationshipAccepts,
    Filter.upscaledAccepts, h.sourceAccepts, h.extensionAccepts, h.filename, h.pool,
    h.relationship, h.favorite, h.upscaled]

theorem categoriesAccept : Filter.categoriesAccept first = Filter.categoriesAccept second := by
  funext item
  exact all_eq_of_mem_iff h.mem_categorized_iff _

theorem ratingsAccept : Filter.ratingsAccept first = Filter.ratingsAccept second := by
  funext item
  have hrequested := mem_map_iff_of_mem_iff h.ratings RatingLevel.tagName
  simp only [Filter.ratingsAccept, isEmpty_eq_of_mem_iff h.ratings,
    all_eq_of_mem_iff hrequested, contains_eq_of_mem_iff hrequested]

theorem termsAccept : Filter.termsAccept first = Filter.termsAccept second := by
  funext item
  simp only [Filter.termsAccept, h.hasTerms, all_eq_of_mem_iff h.general,
    any_eq_of_mem_iff h.negative]

theorem accepts : Filter.accepts first = Filter.accepts second := by
  funext structural tables item
  simp only [Filter.accepts, Filter.metadataAccepts, h.structuralAccepts, h.categoriesAccept,
    h.ratingsAccept, h.termsAccept, h.metadata]

theorem full (store : Store) : SideTables.full store first = SideTables.full store second := by
  rw [SideTables.full, SideTables.full, h.pool]

theorem sourceMatches (store : Store) :
    store.sourceMatches first = store.sourceMatches second := by
  funext item
  rw [Store.sourceMatches, Store.sourceMatches, isEmpty_eq_of_mem_iff h.sources,
    contains_eq_of_mem_iff h.sources]

theorem meets (store : Store) : store.meets first = store.meets second := by
  funext item
  simp only [Store.meets, h.sourceMatches, Store.extensionMatches, Store.poolMatches,
    Store.relationshipMatches, Store.upscaledMatches, isEmpty_eq_of_mem_iff h.extensions,
    any_eq_of_mem_iff h.extensions, h.filename, h.pool, h.relationship, h.favorite, h.upscaled]

theorem mem_ids_general_iff (names : TagNames) (id : TagId) :
    id ∈ names.ids first.general ↔ id ∈ names.ids second.general :=
  mem_filterMap_iff_of_mem_iff h.general names.id? id

theorem mem_ids_negative_iff (names : TagNames) (id : TagId) :
    id ∈ names.ids first.negative ↔ id ∈ names.ids second.negative :=
  mem_filterMap_iff_of_mem_iff h.negative names.id? id

end Query.SameTerms

/-! ## Sizes -/

namespace Search

/-- Whether a query stays within the sizes that the store takes on a route. -/
def FitsOn (store : Store) (names : TagNames) (query : Query) : Route → Prop
  | .simpleOrder | .fallback => True
  | .simpleFilter =>
    (Nesting.all (Nesting.structural query)).isAccepted = true ∧
      ∀ item ∈ store.items, Store.meetsOverlong query item = false
  | .exactTag =>
    (Nesting.all (Nesting.included (distinct (names.ids query.general)).length ++
        Nesting.excluded (distinct (names.ids query.negative)).length ++
          Nesting.structural query)).isAccepted = true ∧
      ∀ item ∈ store.items, store.hasAll item.id (names.ids query.general) = true →
        Store.meetsOverlong query item = false
  | .hybrid =>
    let exact := query.general.map fun term => (names.id? term).isSome
    ∀ expression ∈ Expression.ofQuery? query exact,
      (Store.looseTerms query exact).length ≤ Store.looseTermLimit ∧
        expression.depth ≤ depthLimit

instance (store : Store) (names : TagNames) (query : Query) :
    (route : Route) → Decidable (FitsOn store names query route)
  | .simpleOrder | .fallback => inferInstanceAs (Decidable True)
  | .simpleFilter | .exactTag => inferInstanceAs (Decidable (_ ∧ ∀ item ∈ store.items, _))
  | .hybrid => inferInstanceAs (Decidable (∀ expression ∈ Expression.ofQuery? query _, _ ∧ _))

/-- Whether a query stays within the sizes that the store takes on its route. -/
def FitsLimits (store : Store) (names : TagNames) (query : Query) : Prop :=
  FitsOn store names query (routeOf names query)

instance (store : Store) (names : TagNames) (query : Query) :
    Decidable (FitsLimits store names query) :=
  inferInstanceAs (Decidable (FitsOn store names query (routeOf names query)))

variable {store : Store} {query first second : Query} {names : TagNames}

theorem withTags_of_fits (hhealthy : store.Healthy) {included excluded : List TagId}
    (hnesting : (Nesting.all (Nesting.included (distinct included).length ++
      Nesting.excluded (distinct excluded).length ++ Nesting.structural query)).isAccepted = true)
    (hpatterns : ∀ item ∈ store.items, store.hasAll item.id included = true →
      Store.meetsOverlong query item = false) :
    store.withTags query included excluded = .ok
      (scanSort none
        ((store.items.filter (store.holdsTags query included excluded)).map
          StoredItem.view)) := by
  have hfits : (store.items.filter fun item => store.hasAll item.id included).any
      (Store.meetsOverlong query) = false := by
    simpa using hpatterns
  unfold Store.withTags
  simp only [Store.require_of_healthy hhealthy, ok_bind, ite_self, hnesting, hfits, Bool.not_true,
    Bool.false_eq_true, if_false, List.filter_filter]
  rfl

/-! ## Without the text index -/

theorem holdsTags_of_sameTerms (h : first.SameTerms second) (store : Store) (names : TagNames) :
    store.holdsTags first (names.ids first.general) (names.ids first.negative) =
      store.holdsTags second (names.ids second.general) (names.ids second.negative) := by
  funext item
  simp only [Store.holdsTags, Store.hasAll, Store.hasNone, h.meets,
    all_eq_of_mem_iff (h.mem_ids_general_iff names),
    any_eq_of_mem_iff (h.mem_ids_negative_iff names)]

theorem refine_of_sameTerms (h : first.SameTerms second) (hhealthy : store.Healthy)
    (structural : Bool) (candidates : List Item) :
    refine store first structural candidates = refine store second structural candidates := by
  rw [refine_of_healthy hhealthy, refine_of_healthy hhealthy, h.accepts, h.full]

theorem sorted_of_sameTerms (h : first.SameTerms second) : sorted first = sorted second := by
  funext items
  rw [sorted, sorted, h.order]

theorem routeOf_of_sameTerms (h : first.SameTerms second) (names : TagNames) :
    routeOf names first = routeOf names second :=
  h.choose fun term => (names.id? term).isSome

theorem outcome_of_sameTerms (h : first.SameTerms second) (hhealthy : store.Healthy)
    (hindex : routeOf names first ≠ .hybrid) (hfirst : FitsLimits store names first)
    (hsecond : FitsLimits store names second) :
    outcome store names first = outcome store names second := by
  have hsame := routeOf_of_sameTerms h names
  have hrefine := refine_of_sameTerms h hhealthy
  have hsorted := sorted_of_sameTerms h
  unfold FitsLimits at hfirst hsecond
  unfold outcome
  rw [← hsame] at hsecond ⊢
  cases hroute : routeOf names first with
  | simpleOrder => rw [run, run, h.order]
  | simpleFilter =>
      rw [hroute] at hfirst hsecond
      rw [run, run, scanFiltered_of_fits hhealthy hfirst.1 hfirst.2,
        scanFiltered_of_fits hhealthy hsecond.1 hsecond.2, h.meets, h.order]
      exact hrefine false _
  | exactTag =>
      rw [hroute] at hfirst hsecond
      rw [run, run, withTags_of_fits hhealthy hfirst.1 hfirst.2,
        withTags_of_fits hhealthy hsecond.1 hsecond.2, holdsTags_of_sameTerms h]
      simp only [ok_bind, hrefine, hsorted]
  | fallback => simp only [run, hrefine, hsorted]
  | hybrid => exact absurd hroute hindex

/-! ## With the text index -/

theorem mem_looseTerms_iff (query : Query) (known : String → Bool) (term : String) :
    term ∈ Store.looseTerms query (query.general.map known) ↔
      term ∈ query.general ∧ known term = false := by
  rw [Store.looseTerms_map, List.mem_filter, Bool.not_eq_true']

theorem accepts_ofQuery {known : String → Bool} {expression : Expression}
    (hexpression : Expression.ofQuery? query (query.general.map known) = some expression)
    (document : Document) :
    expression.search.accepts document =
      ((query.general.all fun term => Sought.occursIn ⟨tokens term, !known term⟩ document) &&
        !query.negative.any fun term => Sought.occursIn ⟨tokens term, false⟩ document) := by
  unfold Expression.ofQuery? at hexpression
  split at hexpression
  · cases hexpression
  · cases hexpression
    simp only [TextIndex.Search.accepts, Expression.search, withExactness_map, List.map_map,
      List.all_map, List.any_map]
    rfl

theorem hasNul_ofQuery {known : String → Bool} {expression : Expression}
    (hexpression : Expression.ofQuery? query (query.general.map known) = some expression) :
    expression.hasNul =
      ((query.general.any fun term => term.toList.contains '\x00') ||
        query.negative.any fun term => term.toList.contains '\x00') := by
  unfold Expression.ofQuery? at hexpression
  split at hexpression
  · cases hexpression
  · cases hexpression
    simp only [Expression.hasNul, withExactness_map, List.map_map, List.any_append, List.any_map]
    rfl

theorem finds_of_sameTerms (h : first.SameTerms second) (store : Store) (known : String → Bool) :
    store.finds first (first.general.map known) =
      store.finds second (second.general.map known) := by
  funext item
  have hempty := isEmpty_eq_of_mem_iff h.general
  have hloose (term : String) :
      term ∈ Store.looseTerms first (first.general.map known) ↔
        term ∈ Store.looseTerms second (second.general.map known) := by
    rw [mem_looseTerms_iff, mem_looseTerms_iff, h.general]
  unfold Store.finds
  cases hfirst : Expression.ofQuery? first (first.general.map known) with
  | none =>
      have hsecond : Expression.ofQuery? second (second.general.map known) = none := by
        rw [ofQuery_eq_none_iff] at hfirst ⊢
        rwa [← hempty]
      rw [hsecond]
  | some asked =>
      cases hsecond : Expression.ofQuery? second (second.general.map known) with
      | none =>
          rw [ofQuery_eq_none_iff, ← hempty, ← ofQuery_eq_none_iff first
            (first.general.map known), hfirst] at hsecond
          cases hsecond
      | some other =>
          simp only [accepts_ofQuery hfirst, accepts_ofQuery hsecond, Store.holdsLoosely,
            all_eq_of_mem_iff h.general, any_eq_of_mem_iff h.negative,
            all_eq_of_mem_iff hloose, isEmpty_eq_of_mem_iff hloose]

/-- Within its sizes the text index refuses nothing but terms with a zero character. -/
theorem isOk_hybrid_iff_of_fits (hhealthy : store.Healthy) {known : String → Bool}
    (hlimits : ∀ expression ∈ Expression.ofQuery? query (query.general.map known),
      (Store.looseTerms query (query.general.map known)).length ≤ Store.looseTermLimit ∧
        expression.depth ≤ depthLimit) :
    (store.hybrid query (query.general.map known)).isOk = true ↔
      query.general.isEmpty = true ∨
        ((query.general.any fun term => term.toList.contains '\x00') ||
          query.negative.any fun term => term.toList.contains '\x00') = false := by
  rw [Store.isOk_hybrid_iff hhealthy]
  cases hexpression : Expression.ofQuery? query (query.general.map known) with
  | none =>
      exact iff_of_true (by simp) (.inl ((ofQuery_eq_none_iff query _).1 hexpression))
  | some expression =>
      obtain ⟨hloose, hdepth⟩ := hlimits expression hexpression
      have hsome : query.general.isEmpty ≠ true := by
        rw [Ne, ← ofQuery_eq_none_iff query (query.general.map known), hexpression]
        exact Option.some_ne_none expression
      rw [← hasNul_ofQuery hexpression]
      simp [hsome, hloose, hdepth, Expression.isAdmissible]

/-- What the text index takes of one query it takes of the other, and finds the same. -/
theorem exists_perm_of_sameTerms (h : first.SameTerms second) (hsound : store.Sound)
    (hroute : routeOf names first = .hybrid) (hfirst : FitsLimits store names first)
    (hsecond : FitsLimits store names second) {items : List Item}
    (hitems : outcome store names first = .ok items) :
    ∃ others, outcome store names second = .ok others ∧ items.Perm others := by
  have hother : routeOf names second = .hybrid := routeOf_of_sameTerms h names ▸ hroute
  rw [FitsLimits, hroute] at hfirst
  rw [FitsLimits, hother] at hsecond
  have hasked : (outcome store names first).isOk = true := by
    rw [hitems]
    rfl
  have hanswered : (outcome store names second).isOk = true := by
    rw [isOk_outcome_of_hybrid hsound.healthy hroute,
      isOk_hybrid_iff_of_fits hsound.healthy hfirst, isEmpty_eq_of_mem_iff h.general,
      any_eq_of_mem_iff h.general, any_eq_of_mem_iff h.negative] at hasked
    rwa [isOk_outcome_of_hybrid hsound.healthy hother,
      isOk_hybrid_iff_of_fits hsound.healthy hsecond]
  cases hothers : outcome store names second with
  | error fault =>
      rw [hothers] at hanswered
      cases hanswered
  | ok others =>
      rw [outcome, hroute] at hitems
      rw [outcome, hother] at hothers
      have hperm := run_hybrid_perm hsound hothers
      rw [← h.accepts, ← h.full, ← finds_of_sameTerms h] at hperm
      exact ⟨others, rfl, (run_hybrid_perm hsound hitems).trans hperm.symm⟩

/-! ## Answers -/

/-- Two queries with the same terms go the same way and find the same, within the sizes of
the store, and but for the text index they find it in the same order. -/
theorem answer_of_sameTerms (h : first.SameTerms second) (hsound : store.Sound)
    (names : TagNames) (hfirst : FitsLimits store names first)
    (hsecond : FitsLimits store names second) :
    (answer store names first).route = (answer store names second).route ∧
      (answer store names first).hits.Perm (answer store names second).hits ∧
      ((answer store names first).route ≠ .hybrid →
        answer store names first = answer store names second) := by
  have hroute := routeOf_of_sameTerms h names
  have hresults (outcome : Except StoreError (List Item)) :
      results first (routeOf names first) outcome =
        results second (routeOf names first) outcome := by
    cases outcome with
    | error fault => rfl
    | ok items => rw [results, results, h.shuffleEligible]
  have hequal (hindex : routeOf names first ≠ .hybrid) :
      answer store names first = answer store names second := by
    rw [answer_eq, answer_eq, ← outcome_of_sameTerms h hsound.healthy hindex hfirst hsecond,
      ← hroute, hresults]
  rw [route_answer, route_answer]
  refine ⟨hroute, ?_, hequal⟩
  by_cases hindex : routeOf names first = .hybrid
  · have hother : routeOf names second = .hybrid := hroute ▸ hindex
    rw [answer_eq, answer_eq]
    cases hitems : outcome store names first with
    | ok items =>
        obtain ⟨others, hothers, hperm⟩ :=
          exists_perm_of_sameTerms h hsound hindex hfirst hsecond hitems
        rw [hothers]
        exact hperm.map Item.hit
    | error fault =>
        cases hothers : outcome store names second with
        | error other => exact .refl _
        | ok others =>
            obtain ⟨items, hfound, -⟩ :=
              exists_perm_of_sameTerms h.symm hsound hother hsecond hfirst hothers
            rw [hitems] at hfound
            cases hfound
  · rw [hequal hindex]

end Search

end Gallery
