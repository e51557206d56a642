import Gallery.Proofs.Search.Ordered

/-!
# What may be shuffled

Whether hits may be shown in a random order is told from the route and the query alone.
Such a query has no key to order by, or that of a random order, and it did not go
through the text index, so what the store gives it by number is neither ranked nor
sorted afterwards.  What is shuffled stood by number, which no query asks for.
-/

namespace Gallery

/-- The query leaves open how what it finds is ordered. -/
def Query.Unordered (query : Query) : Prop :=
  query.order = none ∨ query.order = some .random

theorem Route.of_shuffleEligible
    {route : Route} {query : Query} (heligible : route.shuffleEligible query = true) :
    route ≠ .hybrid ∧ query.Unordered := by
  unfold Query.Unordered
  cases route with
  | hybrid => simp [shuffleEligible] at heligible
  | simpleOrder | simpleFilter =>
      simp only [shuffleEligible, beq_iff_eq] at heligible
      exact ⟨by simp, Or.inr heligible⟩
  | exactTag | fallback =>
      simp only [shuffleEligible, Bool.and_eq_true, Bool.or_eq_true, Option.isNone_iff_eq_none,
        beq_iff_eq] at heligible
      exact ⟨by simp, heligible.2⟩

namespace Search

variable {store : Store} {query : Query} {names : TagNames}

theorem scanLe_of_unordered (hopen : query.Unordered) : scanLe query.order = scanLe none := by
  obtain horder | horder := hopen
  · rw [horder]
  · rw [horder]
    rfl

/-- A random order is that of the items as they came. -/
theorem sorted_of_unordered (hopen : query.Unordered) (items : List Item) :
    sorted query items = items := by
  unfold sorted
  obtain horder | horder := hopen
  · rw [horder]
  · rw [horder]
    exact List.mergeSort_of_pairwise (List.pairwise_of_forall fun _ _ => rfl)

/-- Where the order is open, every route but the text index keeps what the store gave it
by number. -/
theorem pairwise_number_run
    (hhealthy : store.Healthy) (hopen : query.Unordered) {route : Route}
    (hroute : route ≠ .hybrid) {exact : List Bool} {included excluded : List TagId}
    {items : List Item} (hrun : run store query route exact included excluded = .ok items) :
    items.Pairwise fun a b => scanLe none a b = true := by
  cases arranged_run hhealthy hroute hrun with
  | byStore _ hitems =>
      rw [scanLe_of_unordered hopen] at hitems
      exact hitems
  | byFilter _ hitems =>
      rw [sorted_of_unordered hopen]
      exact hitems

/-- Only what was found may be shuffled: a search that failed shows nothing. -/
theorem exists_items_of_shuffleEligible
    (heligible : (answer store names query).shuffleEligible = true) :
    ∃ items, outcome store names query = .ok items ∧
      (answer store names query).hits = items.map Item.hit ∧
      (routeOf names query).shuffleEligible query = true := by
  rw [answer_eq] at heligible ⊢
  cases houtcome : outcome store names query with
  | error fault => simp [houtcome, results, SearchResults.none] at heligible
  | ok items =>
      rw [houtcome] at heligible
      exact ⟨items, rfl, rfl, heligible⟩

/-- No two stored items share a number, so what stands by number stands strictly so. -/
theorem pairwise_id_lt
    (h : store.Sound) (hopen : query.Unordered) (hroute : routeOf names query ≠ .hybrid)
    {items : List Item} (houtcome : outcome store names query = .ok items) :
    items.Pairwise fun a b => a.id < b.id := by
  have hperm := run_ok_of_ne_hybrid h.healthy hroute houtcome
  have hnodup : (items.map (·.id)).Nodup :=
    Store.nodup_ids_of_perm hperm (h.itemIds.sublist (List.filter_sublist.map _))
  have hdistinct : items.Pairwise fun a b => a.id ≠ b.id := List.pairwise_map.1 hnodup
  refine ((pairwise_number_run h.healthy hopen hroute houtcome).and hdistinct).imp ?_
  rintro a b ⟨hle, hne⟩
  simp only [scanLe, decide_eq_true_eq] at hle
  exact lt_of_le_of_ne hle hne

end Search

end Gallery
