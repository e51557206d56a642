import Gallery.Proofs.Search.Ordered
import Mathlib.Order.WithBot

/-!
# An order only rearranges

Filters never look at the order that a query asks for, and every route, whether it has
the store sort or sorts what it was given, ends with a permutation of what it found.  So
an outcome stays the same up to its order when a query is given another key or none.
The key also has a say in the route, but only for a query that asks for nothing else:
with a key the store sorts all items, without one the filter accepts all of them.

What is found stands by the key on every route, that through the text index included.
-/

namespace Gallery

/-- A query with another key to order by, or with none. -/
def Query.ordered (query : Query) (key? : Option OrderKey) : Query :=
  { query with order := key? }

namespace Search

variable {store : Store} {query : Query} {items others : List Item}

/-! ## Outcomes that differ in their order -/

inductive Rearranged : Except StoreError (List Item) → Except StoreError (List Item) → Prop
  | error (fault : StoreError) : Rearranged (.error fault) (.error fault)
  | ok {items others : List Item} (perm : items.Perm others) : Rearranged (.ok items) (.ok others)

namespace Rearranged

theorem refl (outcome : Except StoreError (List Item)) : Rearranged outcome outcome := by
  cases outcome with
  | error fault => exact .error fault
  | ok items => exact .ok (.refl items)

theorem bind {first second : Except StoreError (List Item)}
    {next other : List Item → Except StoreError (List Item)} (h : Rearranged first second)
    (hnext : ∀ {items others}, items.Perm others → Rearranged (next items) (other others)) :
    Rearranged (first >>= next) (second >>= other) := by
  cases h with
  | error fault => exact .error fault
  | ok perm => exact hnext perm

theorem hits {first second : Except StoreError (List Item)} (h : Rearranged first second)
    (query other : Query) (route path : Route) :
    (results query route first).hits.Perm (results other path second).hits := by
  cases h with
  | error fault => exact .nil
  | ok perm => exact perm.map Item.hit

end Rearranged

/-! ## Routes -/

theorem rearranged_scanOrdered (store : Store) (first second : Option OrderKey) :
    Rearranged (store.scanOrdered first) (store.scanOrdered second) := by
  unfold Store.scanOrdered
  cases store.require [.items] with
  | error fault => exact .error fault
  | ok _ => exact .ok ((Store.scanSort_perm first _).trans (Store.scanSort_perm second _).symm)

/-- All that is asked before the sorting is the same for both queries. -/
theorem rearranged_scanFiltered (store : Store) (query : Query) (key? : Option OrderKey) :
    Rearranged (store.scanFiltered query) (store.scanFiltered (query.ordered key?)) := by
  have hsorted :
      (scanSort query.order ((store.items.filter (store.meets query)).map StoredItem.view)).Perm
        (scanSort key? ((store.items.filter (store.meets query)).map StoredItem.view)) :=
    (Store.scanSort_perm _ _).trans (Store.scanSort_perm _ _).symm
  have hneeded : Store.structuralRelations (query.ordered key?) =
      Store.structuralRelations query := rfl
  have hnested : Nesting.structural (query.ordered key?) = Nesting.structural query := rfl
  have hpatterns : Store.meetsOverlong (query.ordered key?) = Store.meetsOverlong query := rfl
  unfold Store.scanFiltered
  rw [hneeded, hnested, hpatterns]
  cases store.require (.items :: Store.structuralRelations query) with
  | error fault => exact .error fault
  | ok _ =>
      simp only [ok_bind]
      split
      · exact .error .refused
      · split
        · exact .error .refused
        · exact .ok hsorted

theorem rearranged_refine (store : Store) (query : Query) (key? : Option OrderKey)
    (structural : Bool) (hperm : items.Perm others) :
    Rearranged (refine store query structural items)
      (refine store (query.ordered key?) structural others) := by
  change Rearranged (SideTables.load store query structural >>= fun tables => _)
    (SideTables.load store query structural >>= fun tables => _)
  cases SideTables.load store query structural with
  | error fault => exact .error fault
  | ok tables => exact .ok (hperm.filter _)

theorem sorted_perm_ordered (query : Query) (key? : Option OrderKey) (hperm : items.Perm others) :
    (sorted query items).Perm (sorted (query.ordered key?) others) :=
  ((sorted_perm query items).trans hperm).trans (sorted_perm _ others).symm

theorem rearranged_run (store : Store) (query : Query) (key? : Option OrderKey) (route : Route)
    (exact : List Bool) (included excluded : List TagId) :
    Rearranged (run store query route exact included excluded)
      (run store (query.ordered key?) route exact included excluded) := by
  cases route with
  | simpleOrder => exact rearranged_scanOrdered store query.order key?
  | simpleFilter =>
      exact (rearranged_scanFiltered store query key?).bind fun hperm =>
        rearranged_refine store query key? false hperm
  | exactTag =>
      refine (Rearranged.refl (store.withTags query included excluded)).bind fun hperm => ?_
      exact (rearranged_refine store query key? false hperm).bind fun hrefined =>
        .ok (sorted_perm_ordered query key? hrefined)
  | hybrid =>
      refine (Rearranged.refl (store.hybrid query exact)).bind fun hperm => ?_
      exact (rearranged_refine store query key? true hperm).bind fun hrefined =>
        .ok (sorted_perm_ordered query key? hrefined)
  | fallback =>
      refine (Rearranged.refl (store.scanOrdered none)).bind fun hperm => ?_
      exact (rearranged_refine store query key? true hperm).bind fun hrefined =>
        .ok (sorted_perm_ordered query key? hrefined)

/-! ## Queries for an order alone -/

/-- The query asks for nothing but perhaps an order. -/
structure IsBare (query : Query) : Prop where
  terms : query.hasTerms = false
  categorized : query.hasCategorizedTerms = false
  metadata : query.metadata = none
  freetext : query.freetext = false
  filters : query.hasStructuralFilters = false

theorem IsBare.ordered (h : IsBare query) (key? : Option OrderKey) :
    IsBare (query.ordered key?) :=
  ⟨h.terms, h.categorized, h.metadata, h.freetext, h.filters⟩

/-- Whether a query has a key makes a difference to the route of a bare one only. -/
theorem routeOf_ordered (names : TagNames) (query : Query) (key? : Option OrderKey) :
    IsBare query ∨ routeOf names (query.ordered key?) = routeOf names query := by
  by_cases hbare : (!query.hasTerms && !query.freetext && query.metadata.isNone &&
      !query.hasCategorizedTerms && !query.hasStructuralFilters) = true
  · left
    simp only [Bool.and_eq_true, Bool.not_eq_true', Option.isNone_iff_eq_none] at hbare
    obtain ⟨⟨⟨⟨hterms, hfreetext⟩, hmetadata⟩, hcategorized⟩, hfilters⟩ := hbare
    exact ⟨hterms, hcategorized, hmetadata, hfreetext, hfilters⟩
  · right
    have hchoose (order : Option OrderKey) (exact : List Bool) :
        Route.choose (query.ordered order) exact =
          if !query.hasTerms && !query.freetext && query.metadata.isNone &&
              query.hasStructuralFilters then .simpleFilter
          else if query.freetext || exact.any (! ·) then .hybrid
          else if query.hasTerms then .exactTag
          else .fallback := if_neg hbare
    exact (hchoose key? _).trans (hchoose query.order _).symm

/-- A bare query finds all items, with a key and without. -/
theorem IsBare.outcome_perm (h : IsBare query) (hhealthy : store.Healthy) (names : TagNames) :
    ∃ items, outcome store names query = .ok items ∧
      items.Perm (store.items.map StoredItem.view) := by
  have hscan (key : Option OrderKey) :
      store.scanOrdered key = .ok (scanSort key (store.items.map StoredItem.view)) := by
    rw [Store.scanOrdered, Store.require_of_healthy hhealthy]
    rfl
  cases horder : query.order with
  | some key =>
      have hroute : routeOf names query = .simpleOrder := by
        simp [routeOf, Route.choose, h.terms, h.categorized, h.metadata, h.freetext, h.filters,
          horder]
      refine ⟨_, ?_, Store.scanSort_perm (some key) _⟩
      rw [outcome, hroute, ← hscan, ← horder]
      rfl
  | none =>
      have hroute : routeOf names query = .fallback := by
        simp [routeOf, Route.choose, h.terms, h.categorized, h.metadata, h.freetext, h.filters,
          horder]
      have haccepts (tables : SideTables) (item : Item) :
          Filter.accepts query true tables item = true := by
        rw [Filter.accepts_true, Filter.structuralAccepts_of_none h.filters,
          Filter.accepts_of_none h.terms h.metadata h.categorized, Bool.and_self]
      refine ⟨sorted query (scanSort none (store.items.map StoredItem.view)), ?_, ?_⟩
      · rw [outcome, hroute, run, hscan, ok_bind, refine_of_healthy hhealthy,
          List.filter_eq_self.2 fun item _ => haccepts _ item]
        rfl
      · exact (sorted_perm query _).trans (Store.scanSort_perm none _)

/-- A query finds the same items whatever it is ordered by. -/
theorem hits_ordered_perm (hhealthy : store.Healthy) (names : TagNames) (query : Query)
    (key? : Option OrderKey) :
    (answer store names (query.ordered key?)).hits.Perm (answer store names query).hits := by
  obtain hbare | hroute := routeOf_ordered names query key?
  · obtain ⟨items, hitems, hall⟩ := hbare.outcome_perm hhealthy names
    obtain ⟨others, hothers, hsome⟩ := (hbare.ordered key?).outcome_perm hhealthy names
    rw [answer_eq, answer_eq, hitems, hothers]
    exact (hsome.trans hall.symm).map Item.hit
  · have hrun : Rearranged (outcome store names query)
        (outcome store names (query.ordered key?)) := by
      unfold outcome
      rw [hroute]
      exact rearranged_run store query key? _ _ _ _
    rw [answer_eq, answer_eq]
    exact (hrun.hits query (query.ordered key?) _ _).symm

/-! ## Facets in order -/

theorem le_of_scanLe {key : OrderKey} {a b : Item} (hscan : scanLe (some key) a b = true) :
    key.le a b = true := by
  rw [OrderKey.scanLe_some] at hscan
  split at hscan
  · exact (Bool.and_eq_true_iff.1 hscan).1
  · exact (Bool.and_eq_true_iff.1 hscan).1

theorem pairwise_le_sorted {key : OrderKey} (horder : query.order = some key)
    (items : List Item) : (sorted query items).Pairwise fun a b => key.le a b = true := by
  unfold sorted
  rw [horder]
  exact @List.pairwise_mergeSort _ key.le (fun _ _ _ => OrderKey.le_trans) key.le_total items

/-- Whatever its route, a search for a key finds items in the order of that key. -/
theorem pairwise_le_run (hhealthy : store.Healthy) {key : OrderKey}
    (horder : query.order = some key) {route : Route} {exact : List Bool}
    {included excluded : List TagId}
    (hrun : run store query route exact included excluded = .ok items) :
    items.Pairwise fun a b => key.le a b = true := by
  cases route with
  | simpleOrder =>
      rw [Store.scanOrdered_ok hrun, horder]
      exact (pairwise_scanSort (some key) _).imp le_of_scanLe
  | simpleFilter =>
      obtain ⟨candidates, hscan, hrefine⟩ := ok_of_bind hrun
      rw [Store.scanFiltered_ok hhealthy hscan, horder] at hrefine
      exact (pairwise_refine hhealthy (pairwise_scanSort (some key) _) hrefine).imp le_of_scanLe
  | exactTag | hybrid | fallback =>
      obtain ⟨candidates, -, hrest⟩ := ok_of_bind hrun
      obtain ⟨refined, -, hsorted⟩ := ok_of_bind hrest
      cases hsorted
      exact pairwise_le_sorted horder refined

/-- The place of a facet among all values, below them if it is not set. -/
def facetRank : Option Int → WithBot ℤ
  | none => ⊥
  | some value => value

theorem facetLe_iff {a b : Option Int} : facetLe a b = true ↔ facetRank a ≤ facetRank b := by
  cases a <;> cases b <;> simp [facetLe, facetRank]

/-- Two items stand as a key asks for. -/
def InOrder (key : OrderKey) (a b : Item) : Prop :=
  match key with
  | .newest => facetRank b.ingestedAt ≤ facetRank a.ingestedAt
  | .oldest => facetRank a.ingestedAt ≤ facetRank b.ingestedAt
  | .score => facetRank b.score ≤ facetRank a.score
  | .favorites => facetRank b.favCount ≤ facetRank a.favCount
  | .random => True

theorem le_iff_inOrder {key : OrderKey} {a b : Item} : key.le a b = true ↔ InOrder key a b := by
  cases key with
  | newest | oldest | score | favorites => exact facetLe_iff
  | random => simp [OrderKey.le, InOrder]

theorem exists_items_inOrder (h : store.Sound) {key : OrderKey}
    (horder : query.order = some key) (names : TagNames) :
    ∃ items : List Item, (answer store names query).hits = items.map Item.hit ∧
      (∀ item ∈ items, ∃ row ∈ store.items, row.view = item) ∧
      items.Pairwise (InOrder key) := by
  rw [answer_eq]
  cases hrun : outcome store names query with
  | error fault => exact ⟨[], rfl, by simp, .nil⟩
  | ok items =>
      obtain ⟨kept, hkept, hperm⟩ := run_ok h.healthy hrun
      refine ⟨items, rfl, ?_, (pairwise_le_run h.healthy horder hrun).imp le_iff_inOrder.1⟩
      intro item hitem
      obtain ⟨row, hrow, hview⟩ := List.mem_map.1 (hperm.mem_iff.1 hitem)
      exact ⟨row, List.mem_of_mem_filter (hkept.subset hrow), hview⟩

end Search

end Gallery
