import Gallery.Proofs.Store.Healthy
import Gallery.Search.Basic

/-!
# What a route selects

Over a healthy store the side tables of a filter can all be read, and reading only
those that a query consults makes no difference.  `Search.selects` says of one item
what a route asks of it: what its candidates fulfil and what the filter then checks.
A search that is answered finds, up to order, the items that its route selects; by
the text index it finds some of them.
-/

namespace Gallery

open Text

/-! ## Side tables -/

namespace SideTables

def poolItems (store : Store) : PoolFilter → List ItemId
  | .any => store.memberships.map (·.item)
  | .named pool =>
    (store.memberships.filter (asciiLower ·.pool = asciiLower pool)).map (·.item)

def full (store : Store) (query : Query) : SideTables where
  pooled := query.pool.map (poolItems store)
  favorites := some store.favorites
  sources := some store.sources

/-- What is read for a query, the structural checks included or not. -/
def consulted (store : Store) (query : Query) (structural : Bool) : SideTables where
  pooled := if structural then query.pool.map (poolItems store) else none
  favorites := if structural && query.favorite then some store.favorites else none
  sources :=
    if query.metadata.isSome || (structural && !query.sources.isEmpty) then some store.sources
    else none

theorem poolMembers_of_healthy {store : Store} (hhealthy : store.Healthy) (filter : PoolFilter) :
    poolMembers store filter = .ok (poolItems store filter) := by
  have hmemberships : store.require [.memberships] = .ok () :=
    Store.require_of_healthy hhealthy _
  have hboth : store.require [.memberships, .pools] = .ok () :=
    Store.require_of_healthy hhealthy _
  unfold poolMembers
  cases filter with
  | any =>
      rw [hmemberships]
      rfl
  | named pool =>
      dsimp only
      rw [hboth]
      rfl

theorem load_of_healthy
    {store : Store} (hhealthy : store.Healthy) (query : Query) (structural : Bool) :
    load store query structural = .ok (consulted store query structural) := by
  have hfavorites : favoriteItems store = .ok store.favorites := by
    unfold favoriteItems
    rw [Store.require_of_healthy hhealthy]
    rfl
  have hsources : sourceLabels store = .ok store.sources := by
    unfold sourceLabels
    rw [Store.require_of_healthy hhealthy]
    rfl
  unfold load consulted
  simp only [poolMembers_of_healthy hhealthy, hfavorites, hsources]
  cases query.pool <;> cases structural <;> cases query.favorite <;>
    cases query.metadata <;> cases query.sources <;> rfl

@[simp] theorem sourcesOf_full (store : Store) (query : Query) (item : ItemId) :
    (full store query).sourcesOf item = store.sourcesOf item := rfl

end SideTables

namespace Filter

theorem metadataAccepts_consulted
    (store : Store) (query : Query) (structural : Bool) (item : ItemId) :
    metadataAccepts query ((SideTables.consulted store query structural).sourcesOf item) =
      metadataAccepts query (store.sourcesOf item) := by
  cases hmetadata : query.metadata with
  | none => simp [metadataAccepts, hmetadata]
  | some filter =>
      unfold SideTables.sourcesOf SideTables.consulted
      simp only [hmetadata, Option.isSome_some, Bool.true_or, if_true]
      rfl

theorem structuralAccepts_consulted (store : Store) (query : Query) (item : Item) :
    structuralAccepts query (SideTables.consulted store query true) item =
      structuralAccepts query (SideTables.full store query) item := by
  have hsources :
      sourceAccepts query ((SideTables.consulted store query true).sourcesOf item.id) =
        sourceAccepts query (store.sourcesOf item.id) := by
    by_cases hempty : query.sources.isEmpty = true
    · simp [sourceAccepts, hempty]
    · unfold SideTables.sourcesOf SideTables.consulted
      simp only [hempty, Bool.not_false, Bool.and_true, Bool.or_true, if_true]
      rfl
  have hfavorite :
      (!query.favorite || (SideTables.consulted store query true).isFavorite item.id) =
        (!query.favorite || (SideTables.full store query).isFavorite item.id) := by
    cases hfavorite : query.favorite with
    | false => rfl
    | true => simp [SideTables.consulted, SideTables.full, SideTables.isFavorite, hfavorite]
  have hpooled :
      (SideTables.consulted store query true).isPooled item.id =
        (SideTables.full store query).isPooled item.id := rfl
  unfold structuralAccepts
  rw [hsources, hfavorite, hpooled, SideTables.sourcesOf_full]

theorem accepts_consulted (store : Store) (query : Query) (structural : Bool) (item : Item) :
    accepts query structural (SideTables.consulted store query structural) item =
      accepts query structural (SideTables.full store query) item := by
  unfold accepts
  rw [metadataAccepts_consulted, SideTables.sourcesOf_full]
  cases structural with
  | false => rfl
  | true => rw [structuralAccepts_consulted]

end Filter

theorem Search.refine_of_healthy
    {store : Store} (hhealthy : store.Healthy) (query : Query) (structural : Bool)
    (candidates : List Item) :
    Search.refine store query structural candidates =
      .ok (candidates.filter
        (Filter.accepts query structural (SideTables.full store query))) := by
  unfold Search.refine
  rw [SideTables.load_of_healthy hhealthy]
  have hsame :
      Filter.accepts query structural (SideTables.consulted store query structural) =
        Filter.accepts query structural (SideTables.full store query) :=
    funext (Filter.accepts_consulted store query structural)
  change Except.ok (candidates.filter _) = _
  rw [hsame]

/-! ## Candidates -/

namespace Store

variable {store : Store} {query : Query} {items : List Item}

theorem nodup_ids_of_perm
    {kept : List StoredItem} (hperm : items.Perm (kept.map StoredItem.view))
    (hids : (kept.map (·.id)).Nodup) : (items.map (·.id)).Nodup := by
  have hviews := hperm.map fun item : Item => item.id
  rw [List.map_map] at hviews
  exact hviews.nodup_iff.2 hids

theorem scanSort_perm (key : Option OrderKey) (items : List Item) :
    (scanSort key items).Perm items :=
  List.mergeSort_perm _ _

theorem scanOrdered_ok {key : Option OrderKey} (hscan : store.scanOrdered key = .ok items) :
    items = scanSort key (store.items.map StoredItem.view) := by
  obtain ⟨_, -, hsorted⟩ := ok_of_bind hscan
  cases hsorted
  rfl

theorem scanFiltered_ok
    (hhealthy : store.Healthy) (hscan : store.scanFiltered query = .ok items) :
    items =
      scanSort query.order ((store.items.filter (store.meets query)).map StoredItem.view) := by
  unfold scanFiltered at hscan
  simp only [require_of_healthy hhealthy, ok_bind] at hscan
  split at hscan
  · cases hscan
  · split at hscan
    · cases hscan
    · cases hscan
      rfl

def holdsTags (store : Store) (query : Query) (included excluded : List TagId)
    (item : StoredItem) : Bool :=
  store.hasNone item.id excluded && store.meets query item && store.hasAll item.id included

theorem withTags_ok
    (hhealthy : store.Healthy) {included excluded : List TagId}
    (hscan : store.withTags query included excluded = .ok items) :
    items =
      scanSort none
        ((store.items.filter (store.holdsTags query included excluded)).map
          StoredItem.view) := by
  unfold withTags at hscan
  simp only [require_of_healthy hhealthy, ok_bind, ite_self] at hscan
  split at hscan
  · cases hscan
  · split at hscan
    · cases hscan
    · cases hscan
      rw [List.filter_filter]
      rfl

/-- What becomes of an item by what the index found and by the loose terms. -/
def ranked (found : List (ItemId × Option Float)) (loose : List String) (item : StoredItem) :
    Option (Option Float × Item) :=
  match found.find? (·.1 = item.id) with
  | some (_, rank) => some (rank, item.view)
  | none =>
    if !loose.isEmpty && holdsLoosely loose item then some (none, item.view) else none

theorem snd_of_ranked
    {found : List (ItemId × Option Float)} {loose : List String} {item : StoredItem}
    {result : Option Float × Item} (hranked : ranked found loose item = some result) :
    result.2 = item.view := by
  unfold ranked at hranked
  split at hranked
  · cases hranked
    rfl
  · split at hranked
    · cases hranked
      rfl
    · cases hranked

theorem map_snd_filterMap
    {ρ : Type} {choose : StoredItem → Option (ρ × Item)}
    (hchoose : ∀ item ranked, choose item = some ranked → ranked.2 = item.view)
    (rows : List StoredItem) :
    (rows.filterMap choose).map (·.2) =
      (rows.filter fun row => (choose row).isSome).map StoredItem.view := by
  induction rows with
  | nil => rfl
  | cons row rows ih =>
      cases hrow : choose row with
      | none =>
          rw [List.filterMap_cons_none hrow, List.filter_cons, hrow, ih]
          rfl
      | some ranked =>
          rw [List.filterMap_cons_some hrow, List.filter_cons, hrow, List.map_cons, ih,
            hchoose row ranked hrow]
          rfl

/-- What is found with the text index: what it says, and what holds the loose terms. -/
theorem hybrid_cases
    (hhealthy : store.Healthy) {exact : List Bool}
    (hscan : store.hybrid query exact = .ok items) :
    TextIndex.Expression.ofQuery? query exact = none ∧
        items.Perm (store.items.map StoredItem.view) ∨
      ∃ expression found,
        TextIndex.Expression.ofQuery? query exact = some expression ∧
          store.askIndex expression = .ok found ∧
          items.Perm
            ((store.items.filter fun item =>
              (ranked found (looseTerms query exact) item).isSome).map StoredItem.view) := by
  unfold hybrid at hscan
  simp only [require_of_healthy hhealthy, ok_bind] at hscan
  cases hexpression : TextIndex.Expression.ofQuery? query exact with
  | none =>
      rw [hexpression] at hscan
      cases hscan
      exact Or.inl ⟨rfl, scanSort_perm _ _⟩
  | some expression =>
      rw [hexpression] at hscan
      dsimp only at hscan
      split at hscan
      · cases hscan
      · obtain ⟨found, hfound, hsorted⟩ := ok_of_bind hscan
        cases hsorted
        refine Or.inr ⟨expression, found, rfl, hfound, ?_⟩
        rw [← map_snd_filterMap fun _ _ => snd_of_ranked]
        exact (List.mergeSort_perm _ _).map _

/-- Whatever the text index says, no item is found twice. -/
theorem hybrid_ok
    (hhealthy : store.Healthy) {exact : List Bool}
    (hscan : store.hybrid query exact = .ok items) :
    ∃ kept : List StoredItem,
      kept.Sublist store.items ∧ items.Perm (kept.map StoredItem.view) := by
  obtain ⟨-, hall⟩ | ⟨expression, found, -, -, hsome⟩ := hybrid_cases hhealthy hscan
  · exact ⟨store.items, .refl _, hall⟩
  · exact ⟨_, List.filter_sublist, hsome⟩

end Store

/-! ## Routes -/

namespace Search

/-- What a route asks of an item.  The text index narrows its items down before. -/
def selects (store : Store) (query : Query) (route : Route) (included excluded : List TagId)
    (item : StoredItem) : Bool :=
  let accepts structural :=
    Filter.accepts query structural (SideTables.full store query) item.view
  match route with
  | .simpleOrder => true
  | .simpleFilter => store.meets query item && accepts false
  | .exactTag => store.holdsTags query included excluded item && accepts false
  | .hybrid | .fallback => accepts true

theorem sorted_perm (query : Query) (items : List Item) : (sorted query items).Perm items := by
  unfold sorted
  split
  · exact List.mergeSort_perm _ _
  · exact .refl _

theorem refine_ok
    {store : Store} (hhealthy : store.Healthy) {query : Query} {structural : Bool}
    {candidates refined : List Item} {kept : List StoredItem}
    (hkept : candidates.Perm (kept.map StoredItem.view))
    (hrefine : refine store query structural candidates = .ok refined) :
    refined.Perm
      ((kept.filter fun item =>
        Filter.accepts query structural (SideTables.full store query) item.view).map
          StoredItem.view) := by
  rw [refine_of_healthy hhealthy] at hrefine
  cases hrefine
  have hfiltered := hkept.filter (Filter.accepts query structural (SideTables.full store query))
  rw [List.filter_map] at hfiltered
  exact hfiltered

/-- Without the text index, an answered search finds exactly what its route selects. -/
theorem run_ok_of_ne_hybrid
    {store : Store} (hhealthy : store.Healthy) {query : Query} {route : Route}
    (hroute : route ≠ .hybrid) {exact : List Bool} {included excluded : List TagId}
    {items : List Item} (hrun : run store query route exact included excluded = .ok items) :
    items.Perm
      ((store.items.filter (selects store query route included excluded)).map
        StoredItem.view) := by
  cases route with
  | simpleOrder =>
      have hall : store.items.filter (selects store query .simpleOrder included excluded) =
          store.items := List.filter_eq_self.2 fun _ _ => rfl
      rw [hall, Store.scanOrdered_ok hrun]
      exact Store.scanSort_perm _ _
  | simpleFilter =>
      obtain ⟨candidates, hscan, hrefine⟩ := ok_of_bind hrun
      rw [Store.scanFiltered_ok hhealthy hscan] at hrefine
      have hperm := refine_ok hhealthy (Store.scanSort_perm _ _) hrefine
      rw [List.filter_filter] at hperm
      unfold selects
      simpa only [Bool.and_comm] using hperm
  | exactTag =>
      obtain ⟨candidates, hscan, hrest⟩ := ok_of_bind hrun
      obtain ⟨refined, hrefine, hsorted⟩ := ok_of_bind hrest
      cases hsorted
      rw [Store.withTags_ok hhealthy hscan] at hrefine
      have hperm := refine_ok hhealthy (Store.scanSort_perm _ _) hrefine
      rw [List.filter_filter] at hperm
      unfold selects
      simpa only [Bool.and_comm] using (sorted_perm query refined).trans hperm
  | fallback =>
      obtain ⟨candidates, hscan, hrest⟩ := ok_of_bind hrun
      obtain ⟨refined, hrefine, hsorted⟩ := ok_of_bind hrest
      cases hsorted
      rw [Store.scanOrdered_ok hscan] at hrefine
      have hperm := refine_ok hhealthy (Store.scanSort_perm _ _) hrefine
      exact (sorted_perm query refined).trans hperm
  | hybrid => exact absurd rfl hroute

/-- By any route, an answered search finds items that the route selects, each once. -/
theorem run_ok
    {store : Store} (hhealthy : store.Healthy) {query : Query} {route : Route}
    {exact : List Bool} {included excluded : List TagId} {items : List Item}
    (hrun : run store query route exact included excluded = .ok items) :
    ∃ kept : List StoredItem,
      kept.Sublist (store.items.filter (selects store query route included excluded)) ∧
        items.Perm (kept.map StoredItem.view) := by
  by_cases hroute : route = .hybrid
  · subst hroute
    obtain ⟨candidates, hscan, hrest⟩ := ok_of_bind hrun
    obtain ⟨refined, hrefine, hsorted⟩ := ok_of_bind hrest
    cases hsorted
    obtain ⟨found, hfound, hcandidates⟩ := Store.hybrid_ok hhealthy hscan
    have hperm := refine_ok hhealthy hcandidates hrefine
    exact ⟨_, hfound.filter _, (sorted_perm query refined).trans hperm⟩
  · exact ⟨_, .refl _, run_ok_of_ne_hybrid hhealthy hroute hrun⟩

end Search

end Gallery
