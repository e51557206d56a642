import Gallery.Proofs.Search.Hybrid

/-!
# One more exclusion

A term to exclude is asked of an item on top of everything else, but it may send the
query another way.  Through the text index it stays there; from every other route it
is answered from the attachments.  So the structural conditions, which a query with a
metadata filter had checked in memory, are checked by the store.  The two differ in the
ending of a path alone.
-/

namespace Gallery

open Text TextIndex

def Query.excluding (query : Query) (term : String) : Query :=
  { query with negative := query.negative ++ [term] }

variable {store : Store} {query : Query} {item : StoredItem} {names : TagNames} {term : String}

namespace Filter

theorem termsAccept_of_excluding
    {shown : Item} (haccepts : termsAccept (query.excluding term) shown = true) :
    termsAccept query shown = true := by
  have hterms : (query.excluding term).hasTerms = true := by
    simp [Query.hasTerms, Query.excluding]
  unfold termsAccept at haccepts ⊢
  rw [hterms] at haccepts
  simp only [Query.excluding, Bool.not_true, Bool.false_or, List.any_append, Bool.and_eq_true,
    Bool.not_eq_true', Bool.or_eq_false_iff] at haccepts
  simp only [haccepts.1, haccepts.2.1, Bool.not_false, Bool.and_self, Bool.or_true]

theorem accepts_of_excluding
    {structural : Bool} {tables : SideTables} {shown : Item}
    (haccepts : accepts (query.excluding term) structural tables shown = true) :
    accepts query structural tables shown = true := by
  unfold accepts at haccepts ⊢
  rw [Bool.and_eq_true] at haccepts ⊢
  exact ⟨haccepts.1, termsAccept_of_excluding haccepts.2⟩

end Filter

namespace Store

theorem hasNone_append (id : ItemId) (tags more : List TagId) :
    store.hasNone id (tags ++ more) = (store.hasNone id tags && store.hasNone id more) := by
  simp [hasNone]

theorem finds_of_excluding
    {exact : List Bool} (hfinds : store.finds (query.excluding term) exact item = true) :
    store.finds query exact item = true := by
  unfold finds Expression.ofQuery? at hfinds ⊢
  have hgeneral : (query.excluding term).general = query.general := rfl
  have hloose : looseTerms (query.excluding term) exact = looseTerms query exact := rfl
  rw [hgeneral, hloose] at hfinds
  split_ifs at hfinds ⊢ with hnone
  · rfl
  · simp only [Bool.or_eq_true] at hfinds ⊢
    refine hfinds.imp_left fun haccepts => ?_
    simp only [TextIndex.Search.accepts, Expression.search, Query.excluding, List.map_append,
      List.any_append, Bool.and_eq_true, Bool.not_eq_true', Bool.or_eq_false_iff] at haccepts ⊢
    exact ⟨haccepts.1, haccepts.2.1⟩

end Store

namespace Search

/-- Only phrases, and terms that are no known tag, send a query to the text index. -/
theorem routeOf_eq_hybrid_iff :
    routeOf names query = .hybrid ↔
      (query.freetext || (query.general.map fun term => (names.id? term).isSome).any (! ·)) =
        true := by
  by_cases hindexed :
      (query.freetext || (query.general.map fun term => (names.id? term).isSome).any (! ·)) = true
  · have hbare : (!query.hasTerms && !query.freetext && query.metadata.isNone) = false := by
      rcases Bool.or_eq_true_iff.1 hindexed with hfreetext | hunknown
      · simp [hfreetext]
      · have hgeneral : query.general ≠ [] := by
          rintro hnone
          simp [hnone] at hunknown
        simp [Query.hasTerms, hgeneral]
    simp only [routeOf, Route.choose, hbare, hindexed, Bool.false_and, Bool.false_eq_true, if_false,
      if_true]
  · refine iff_of_false ?_ hindexed
    rw [Bool.not_eq_true] at hindexed
    simp only [routeOf, Route.choose, hindexed, Bool.false_eq_true, if_false]
    split_ifs <;> simp

theorem routeOf_excluding :
    routeOf names (query.excluding term) =
      if routeOf names query = .hybrid then .hybrid else .exactTag := by
  have hterms : (query.excluding term).hasTerms = true := by
    simp [Query.hasTerms, Query.excluding]
  have hkept : routeOf names (query.excluding term) = .hybrid ↔ routeOf names query = .hybrid := by
    rw [routeOf_eq_hybrid_iff, routeOf_eq_hybrid_iff]
    rfl
  by_cases hroute : routeOf names query = .hybrid
  · rw [if_pos hroute, hkept.2 hroute]
  · have hindexed := mt hkept.1 hroute
    rw [routeOf_eq_hybrid_iff] at hindexed
    rw [if_neg hroute]
    simp only [routeOf, Route.choose, hindexed, hterms, Bool.not_true, Bool.false_and,
      Bool.false_eq_true, if_false, if_true]

/-- Away from the text index, what is found with one more exclusion met all conditions that
were there before. -/
theorem conditions_of_mem_hits_excluding
    (h : store.Sound) (hindexed : routeOf names query ≠ .hybrid) (hitem : item ∈ store.items)
    (hhit : item.view.hit ∈ (answer store names (query.excluding term)).hits) :
    store.hasNone item.id (names.ids query.negative) = true ∧ store.meets query item = true ∧
      store.hasAll item.id (names.ids query.general) = true ∧
      Filter.accepts query false (SideTables.full store query) item.view = true := by
  have hroute : routeOf names (query.excluding term) = .exactTag := by
    rw [routeOf_excluding, if_neg hindexed]
  have hother : routeOf names (query.excluding term) ≠ .hybrid := by simp [hroute]
  rw [view_hit_mem_hits_iff_selects h hother (isOk_of_mem_hits hhit) hitem, hroute] at hhit
  simp only [selects, Store.holdsTags, Bool.and_eq_true] at hhit
  obtain ⟨⟨⟨hexcluded, hmeets⟩, hincluded⟩, haccepts⟩ := hhit
  have hids : names.ids (query.excluding term).negative =
      names.ids query.negative ++ names.ids [term] :=
    List.filterMap_append
  rw [hids, Store.hasNone_append, Bool.and_eq_true] at hexcluded
  exact ⟨hexcluded.1, hmeets, hincluded, Filter.accepts_of_excluding haccepts⟩

/-- Whatever is found with one more exclusion was found without it, but for the ending of a
path where a metadata filter has the conditions checked in memory. -/
theorem view_hit_mem_hits_iff_of_excluding
    (h : store.Sound) (hsettled : query.Over Settled)
    (hanswered : (outcome store names query).isOk = true) (hitem : item ∈ store.items)
    (hhit : item.view.hit ∈ (answer store names (query.excluding term)).hits) :
    item.view.hit ∈ (answer store names query).hits ↔
      (routeOf names query = .fallback → Filter.extensionAccepts query item.view = true) := by
  by_cases hindexed : routeOf names query = .hybrid
  · have hroute : routeOf names (query.excluding term) = .hybrid := by
      rw [routeOf_excluding, if_pos hindexed]
    rw [view_hit_mem_hits_iff_finds h hroute (isOk_of_mem_hits hhit) hitem] at hhit
    have hfound : item.view.hit ∈ (answer store names query).hits := by
      rw [view_hit_mem_hits_iff_finds h hindexed hanswered hitem]
      exact ⟨Filter.accepts_of_excluding hhit.1, Store.finds_of_excluding hhit.2⟩
    simp [hindexed, hfound]
  · obtain ⟨hexcluded, hmeets, hincluded, haccepts⟩ :=
      conditions_of_mem_hits_excluding h hindexed hitem hhit
    rw [view_hit_mem_hits_iff_selects h hindexed hanswered hitem]
    cases hwide : routeOf names query with
    | hybrid => exact absurd hwide hindexed
    | simpleOrder => simp [selects]
    | simpleFilter => simp [selects, hmeets, haccepts]
    | exactTag => simp [selects, Store.holdsTags, hexcluded, hmeets, hincluded, haccepts]
    | fallback =>
        simp [selects, Filter.accepts_true, structuralAccepts_of_meets hsettled hmeets, haccepts]

end Search

end Gallery
