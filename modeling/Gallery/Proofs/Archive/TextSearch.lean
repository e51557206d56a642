import Gallery.Proofs.Archive.ReferenceScan
import Gallery.Proofs.Archive.Soundness
import Gallery.Proofs.Search.Ordered
import Gallery.Proofs.Search.Quoting
import Gallery.Proofs.Search.SingleTerm
import Gallery.Proofs.Search.UnknownTerms

/-!
# Searching an archive through its text index

A search that goes through the text index takes two attempts at all its terms together, not
one at each of them: the index has to have every term, known tags as they are and other
terms open, or the texts of the item have to hold every term that is no known tag.  For a
single term, and for known tags alone, the two readings agree.  The second attempt is one
statement with all these terms in it, so that with more of them than `Store.looseTermLimit`
nothing is found at all.

So quoting a tag, which sends a search for known tags through the index, loses the items
whose tags have no tokens and those with an excluded phrase within a longer tag.  Words that
are no tags are no such danger: the second attempt finds all that the filter accepts, as long
as the letters beyond the basic Latin ones need no lowering and the terms are not too many.
-/

namespace Gallery

open Text TextIndex

namespace Catalog

variable {α : Type} {store : Store} {catalog : Catalog α}

/-- The tags that a catalog answers by are those of the store. -/
def UpToDate (catalog : Catalog α) (store : Store) : Prop :=
  (catalog.names store).1 = store.names

theorem Coherent.upToDate
    [Scalar α] {config : Config} (h : Coherent config store catalog) (hhealthy : store.Healthy) :
    catalog.UpToDate store :=
  (h.names hhealthy).1

theorem UpToDate.execute (h : catalog.UpToDate store) (query : Query) :
    (catalog.execute store query).1 = Search.answer store store.names query := by
  rw [catalog.execute_eq_answer, h]

end Catalog

namespace Archive

-- Small stores are sorted while a fact about one is decided.
attribute [local semireducible] List.mergeSort

variable {α : Type} [Scalar α]

/-- A new catalog reads the tags as they are. -/
theorem upToDate_fresh
    (configs : ℕ → Config) (limits : ℕ → ℕ) {calls : List Call}
    (hordinary : ∀ call ∈ calls, call.request.isOrdinary = true) (config : Config) :
    (Catalog.fresh config : Catalog α).UpToDate
      ((opened {} configs limits : Archive α).run calls).store :=
  (Catalog.coherent_fresh config _).upToDate
    (reachable_run configs limits hordinary).consistent.sound.healthy

theorem index_search_iff
    (configs : ℕ → Config) (limits : ℕ → ℕ) {calls : List Call}
    (hordinary : ∀ call ∈ calls, call.request.isOrdinary = true)
    (catalog : Catalog α) {query : Query} (hnegative : query.negative = []) :
    let store := ((opened {} configs limits : Archive α).run calls).store
    let exact := query.general.map fun term => (store.names.id? term).isSome
    let unknown := query.general.filter fun term => ¬store.Knows term
    let results := (catalog.execute store query).1
    let accepts (item : StoredItem) :=
      Filter.accepts query true (SideTables.full store query) item.view = true
    catalog.UpToDate store → results.route = .hybrid →
      (∀ expression ∈ Expression.ofQuery? query exact, expression.isAdmissible = true) →
        (∀ hit ∈ results.hits, ∃ item ∈ store.items, item.view.hit = hit) ∧
          ∀ item ∈ store.items,
            (item.view.hit ∈ results.hits ↔
              unknown.length ≤ Store.looseTermLimit ∧ accepts item ∧
                ((∀ term ∈ query.general, store.Matches item term) ∨
                  (∃ term ∈ query.general, ¬store.Knows term) ∧
                    ∀ term ∈ query.general,
                      ¬store.Knows term → HasFragment item.columns term)) ∧
            ((∀ term ∈ query.general, store.Knows term) ∨ query.general.length ≤ 1 →
              (item.view.hit ∈ results.hits ↔
                accepts item ∧ ∀ term ∈ query.general, store.HasTerm item term)) := by
  intro store exact unknown results accepts hcurrent hroute hindex
  have hsound : store.Sound := (reachable_run configs limits hordinary).consistent.sound
  have hanswer : results = Search.answer store store.names query := hcurrent.execute query
  rw [hanswer, Search.route_answer] at hroute
  have hanswered : (Search.outcome store store.names query).isOk = true ↔
      unknown.length ≤ Store.looseTermLimit := by
    rw [Search.isOk_outcome_of_hybrid hsound.healthy hroute]
    exact hsound.isOk_hybrid_iff_of_isAdmissible hindex
  have hfound : ∀ item ∈ store.items,
      (item.view.hit ∈ results.hits ↔
        unknown.length ≤ Store.looseTermLimit ∧ accepts item ∧
          ((∀ term ∈ query.general, store.Matches item term) ∨
            (∃ term ∈ query.general, ¬store.Knows term) ∧
              ∀ term ∈ query.general, ¬store.Knows term → HasFragment item.columns term)) := by
    intro item hitem
    rw [hanswer, Search.view_hit_mem_hits_iff_isCandidate hsound hroute hitem, hanswered,
      Search.isCandidate_iff_of_negative_eq_nil hnegative]
  refine ⟨?_, ?_⟩
  · intro hit hhit
    rw [hanswer] at hhit
    obtain ⟨item, hitem, hshown, -⟩ := Search.exists_of_mem_answer hsound.healthy hhit
    exact ⟨item, hitem, hshown⟩
  · intro item hitem
    refine ⟨hfound item hitem, ?_⟩
    intro hterms
    have hfew : unknown.length ≤ Store.looseTermLimit :=
      (Store.length_unknown_le_one hterms).trans (by decide)
    rw [hfound item hitem, Search.two_attempts_iff hterms, and_iff_right hfew]

/-- One item has the tag and a longer word, and one has the word within another. -/
theorem index_search_iff_of_two_items :
    let calls : List Call :=
      [⟨0, 0, .add { filepath := "äpfel_beach.png", contentHash := "0", tags := [⟨"sunset",
          .general, none, .imported⟩] }⟩,
        ⟨0, 0, .add { filepath := "Äpfel beach.png", contentHash := "1", tags := [⟨"sun",
          .general, none, .imported⟩] }⟩,
        ⟨0, 0, .flush⟩]
    let store := ((opened {} (fun _ => {}) (fun _ => 8) : Archive Float).run calls).store
    let catalog : Catalog Float := .fresh {}
    let results := (catalog.execute store (Query.parse "sun bea")).1
    results.route = .hybrid ∧
      (∃ item ∈ store.items, item.id = 1 ∧ item.view.hit ∈ results.hits ∧
        HasFragment item.columns "bea" ∧ ¬HasPhrase item.columns "sun") ∧
      ∃ item ∈ store.items, item.id = 2 ∧ item.view.hit ∈ results.hits ∧
        HasOpenPhrase item.columns "bea" ∧ HasPhrase item.columns "sun" := by
  intro calls store catalog results
  have hordinary : ∀ call ∈ calls, call.request.isOrdinary = true := by decide
  have hcurrent : catalog.UpToDate store :=
    upToDate_fresh (fun _ => {}) (fun _ => 8) hordinary {}
  have hquery : Query.parse "sun bea" = { general := ["sun", "bea"] } := by decide
  have hnegative : ({ general := ["sun", "bea"] } : Query).negative = [] := rfl
  have hfound := index_search_iff (fun _ => {}) (fun _ => 8) hordinary catalog hnegative hcurrent
  simp only [results, hquery]
  obtain ⟨hroute, hindex, hfew, hitems⟩ :
      (catalog.execute store { general := ["sun", "bea"] }).1.route = .hybrid ∧
      (∀ expression ∈ Expression.ofQuery? { general := ["sun", "bea"] }
          (["sun", "bea"].map fun term => (store.names.id? term).isSome),
        expression.isAdmissible = true) ∧
      (["sun", "bea"].filter fun term => ¬store.Knows term).length ≤ Store.looseTermLimit ∧
      (∃ item ∈ store.items, item.id = 1 ∧
        (Filter.accepts { general := ["sun", "bea"] } true
            (SideTables.full store { general := ["sun", "bea"] }) item.view = true ∧
          ((∃ term ∈ ["sun", "bea"], ¬store.Knows term) ∧
            ∀ term ∈ ["sun", "bea"], ¬store.Knows term → HasFragment item.columns term)) ∧
        HasFragment item.columns "bea" ∧ ¬HasPhrase item.columns "sun") ∧
      ∃ item ∈ store.items, item.id = 2 ∧
        (Filter.accepts { general := ["sun", "bea"] } true
            (SideTables.full store { general := ["sun", "bea"] }) item.view = true ∧
          ∀ term ∈ ["sun", "bea"], store.Matches item term) ∧
        HasOpenPhrase item.columns "bea" ∧ HasPhrase item.columns "sun" := by
    rw [hcurrent.execute, Search.route_answer, Store.names_eq_insertionSort]
    decide
  obtain ⟨⟨loose, hloose, hfirst, hheld, hbea⟩, ⟨matched, hmatched, hsecond, hmatches, hsun⟩⟩ :=
    hitems
  have hits := (hfound hroute hindex).2
  exact ⟨hroute,
    ⟨loose, hloose, hfirst, (hits loose hloose).1.2 ⟨hfew, hheld.1, Or.inr hheld.2⟩, hbea⟩,
    ⟨matched, hmatched, hsecond,
      (hits matched hmatched).1.2 ⟨hfew, hmatches.1, Or.inl hmatches.2⟩, hsun⟩⟩

/-- The tag does not stand in the first item, and the second holds each term in one way or
the other; the search finds the first item and not the second.  Nor is anything found for one
term more than the store looks for, though each of them stands in both items. -/
theorem index_search_takes_terms_together :
    let calls : List Call :=
      [⟨0, 0, .add { filepath := "äpfel_beach.png", contentHash := "0", tags := [⟨"sunset",
          .general, none, .imported⟩] }⟩,
        ⟨0, 0, .add { filepath := "Äpfel beach.png", contentHash := "1", tags := [⟨"sun",
          .general, none, .imported⟩] }⟩,
        ⟨0, 0, .flush⟩]
    let store := ((opened {} (fun _ => {}) (fun _ => 8) : Archive Float).run calls).store
    let catalog : Catalog Float := .fresh {}
    (∀ call ∈ calls, call.request.isOrdinary = true) ∧ catalog.UpToDate store ∧
      (∀ text ∈ ["sun ach äpfel", " ".intercalate (List.replicate 988 "ach")],
        let query := Query.parse text
        let exact := query.general.map fun term => (store.names.id? term).isSome
        let results := (catalog.execute store query).1
        query.negative = [] ∧ results.route = .hybrid ∧
          (∀ expression ∈ Expression.ofQuery? query exact, expression.isAdmissible = true) ∧
          ∃ item ∈ store.items, item.view.hit ∉ results.hits ∧
            Filter.accepts query true (SideTables.full store query) item.view = true ∧
            ∀ term ∈ query.general, store.HasTerm item term) ∧
      ∃ item ∈ store.items,
        item.view.hit ∈ (catalog.execute store (Query.parse "sun ach äpfel")).1.hits ∧
          ∃ term ∈ (Query.parse "sun ach äpfel").general,
            store.Knows term ∧ ¬HasPhrase item.columns term := by
  intro calls store catalog
  have hordinary : ∀ call ∈ calls, call.request.isOrdinary = true := by decide
  have hcurrent : catalog.UpToDate store :=
    upToDate_fresh (fun _ => {}) (fun _ => 8) hordinary {}
  have hmixed : Query.parse "sun ach äpfel" = { general := ["sun", "ach", "äpfel"] } := by decide
  have hlong : Query.parse (" ".intercalate (List.replicate 988 "ach")) =
      { general := List.replicate 988 "ach" } :=
    Query.parse_intercalate_replicate (by decide) (by decide) ⟨"ach", by decide⟩ 988
  refine ⟨hordinary, hcurrent, ?_⟩
  simp only [List.forall_mem_cons, hmixed, hlong, hcurrent.execute, Store.names_eq_insertionSort]
  refine ⟨⟨by decide, ?_, by simp⟩, by decide⟩
  decide +kernel

theorem quoted_search_iff
    (configs : ℕ → Config) (limits : ℕ → ℕ) {calls : List Call}
    (hordinary : ∀ call ∈ calls, call.request.isOrdinary = true)
    (catalog other : Catalog α) (text : String) :
    let store := ((opened {} configs limits : Archive α).run calls).store
    let query := Query.parse text
    let quoted : Query := { query with freetext := true }
    let results := (catalog.execute store query).1
    catalog.UpToDate store → other.UpToDate store → results.route = .exactTag →
      ∀ hit ∈ results.hits, ∃ item ∈ store.items, item.view.hit = hit ∧
        (Filter.extensionAccepts query item.view = true →
          (hit ∈ (other.execute store quoted).1.hits ↔
            (Search.outcome store store.names quoted).isOk = true ∧
              (query.general ≠ [] →
                (∀ term ∈ query.general, tokens term ≠ []) ∧
                  ∀ term ∈ query.negative, ¬HasPhrase item.columns term))) := by
  intro store query quoted results hcurrent hother hroute hit hhit
  have hconsistent : store.Consistent := (reachable_run configs limits hordinary).consistent
  have hanswer : results = Search.answer store store.names query := hcurrent.execute query
  rw [hanswer, Search.route_answer] at hroute
  rw [hanswer] at hhit
  obtain ⟨item, hitem, rfl, -⟩ := Search.exists_of_mem_answer hconsistent.sound.healthy hhit
  refine ⟨item, hitem, rfl, ?_⟩
  intro hextension
  rw [hother.execute quoted]
  exact Search.view_hit_mem_hits_quoted_iff hconsistent (Query.settled_parse text) hroute hitem
    hhit hextension

/-- The tag has a token and the exclusion stands nowhere. -/
theorem quoted_search_iff_of_cat :
    let calls : List Call :=
      [⟨0, 0, .add { filepath := "a.png", contentHash := "0", tags := [⟨"cat", .general, none,
          .imported⟩] }⟩,
        ⟨0, 0, .flush⟩]
    let store := ((opened {} (fun _ => {}) (fun _ => 8) : Archive Float).run calls).store
    let catalog : Catalog Float := .fresh {}
    let query := Query.parse "cat -dog .png"
    let quoted : Query := { query with freetext := true }
    let results := (catalog.execute store query).1
    results.route = .exactTag ∧ results.hits.map (·.id) = [1] ∧
      ∀ hit ∈ results.hits, hit ∈ (catalog.execute store quoted).1.hits := by
  intro calls store catalog query quoted results
  have hordinary : ∀ call ∈ calls, call.request.isOrdinary = true := by decide
  have hcurrent : catalog.UpToDate store :=
    upToDate_fresh (fun _ => {}) (fun _ => 8) hordinary {}
  obtain ⟨hroute, hhits, hfound⟩ :
      results.route = .exactTag ∧ results.hits.map (·.id) = [1] ∧
        ∀ item ∈ store.items, Filter.extensionAccepts query item.view = true ∧
          (Search.outcome store store.names quoted).isOk = true ∧
          (query.general ≠ [] →
            (∀ term ∈ query.general, tokens term ≠ []) ∧
              ∀ term ∈ query.negative, ¬HasPhrase item.columns term) := by
    decide
  have hkept := quoted_search_iff (fun _ => {}) (fun _ => 8) hordinary catalog catalog
    "cat -dog .png" hcurrent hcurrent hroute
  refine ⟨hroute, hhits, ?_⟩
  intro hit hhit
  obtain ⟨item, hitem, -, hiff⟩ := hkept hit hhit
  exact (hiff (hfound item hitem).1).2 (hfound item hitem).2

/-- A tag of signs only, an exclusion that is part of a longer tag, and an exclusion that
the index does not take. -/
theorem quoting_loses_items :
    let calls : List Call :=
      [⟨0, 0, .add { filepath := "a.png", contentHash := "0", tags := [⟨":)", .general, none,
          .imported⟩] }⟩,
        ⟨0, 0, .add { filepath := "b.png", contentHash := "1", tags := [⟨"bad:dog", .general,
          none, .imported⟩] }⟩,
        ⟨0, 0, .flush⟩]
    let store := ((opened {} (fun _ => {}) (fun _ => 8) : Archive Float).run calls).store
    let catalog : Catalog Float := .fresh {}
    (∀ call ∈ calls, call.request.isOrdinary = true) ∧ catalog.UpToDate store ∧
      ∀ text ∈ [":)", "bad:dog -bad", "bad:dog -\x00"],
        let query := Query.parse text
        let quoted : Query := { query with freetext := true }
        (catalog.execute store query).1.route = .exactTag ∧
          ∃ item ∈ store.items, item.view.hit ∈ (catalog.execute store query).1.hits ∧
            item.view.hit ∉ (catalog.execute store quoted).1.hits := by
  intro calls store catalog
  have hordinary : ∀ call ∈ calls, call.request.isOrdinary = true := by decide
  have hcurrent : catalog.UpToDate store :=
    upToDate_fresh (fun _ => {}) (fun _ => 8) hordinary {}
  refine ⟨hordinary, hcurrent, ?_⟩
  simp only [hcurrent.execute, Store.names_eq_insertionSort]
  decide

theorem index_search_complete
    (configs : ℕ → Config) (limits : ℕ → ℕ) {calls : List Call}
    (hordinary : ∀ call ∈ calls, call.request.isOrdinary = true)
    (catalog : Catalog α) {query : Query}
    (hwords : ∀ term ∈ query.general, isWord term = true)
    (hsize : query.general.length ≤ Store.looseTermLimit) :
    let store := ((opened {} configs limits : Archive α).run calls).store
    let exact := query.general.map fun term => (store.names.id? term).isSome
    let results := (catalog.execute store query).1
    let accepts (item : StoredItem) :=
      Filter.accepts query true (SideTables.full store query) item.view
    catalog.UpToDate store → results.route = .hybrid →
      (∀ term ∈ query.general, ¬store.Knows term) →
        (∀ expression ∈ Expression.ofQuery? query exact, expression.isAdmissible = true) →
          (results.hits.map (·.id)).Nodup ∧
            (∀ hit ∈ results.hits, ∃ item ∈ store.items,
              item.view.hit = hit ∧ accepts item = true) ∧
            (∀ item ∈ store.items, item.FoldsAlike →
              (item.view.hit ∈ results.hits ↔ accepts item = true)) ∧
            ((∀ item ∈ store.items, item.FoldsAlike) →
              results.hits.Perm
                ((store.items.filter accepts).map fun item => item.view.hit)) := by
  intro store exact results accepts hcurrent hroute hunknown hindex
  have hsound : store.Sound := (reachable_run configs limits hordinary).consistent.sound
  have hanswer : results = Search.answer store store.names query := hcurrent.execute query
  rw [hanswer, Search.route_answer] at hroute
  have hanswered : (Search.outcome store store.names query).isOk = true := by
    rw [Search.isOk_outcome_of_hybrid hsound.healthy hroute,
      hsound.isOk_hybrid_iff_of_isAdmissible hindex]
    exact (List.length_filter_le _ _).trans hsize
  rw [hanswer]
  refine ⟨Search.nodup_hits hsound.healthy hsound.itemIds store.names query, ?_, ?_,
    Search.hits_perm_scan hsound hroute hanswered hwords hunknown⟩
  · intro hit hhit
    obtain ⟨item, hitem, rfl, -⟩ := Search.exists_of_mem_answer hsound.healthy hhit
    rw [Search.view_hit_mem_hits_hybrid_iff hsound hroute hanswered hitem] at hhit
    exact ⟨item, hitem, rfl, hhit.1⟩
  · intro item hitem hfolds
    exact Search.view_hit_mem_hits_iff_accepts hsound hroute hanswered hwords hunknown hitem
      hfolds

/-- Both terms begin within a word, so the index has neither, and the exclusion is a phrase
of the item, though it is no tag of it. -/
theorem index_search_complete_within_words :
    let calls : List Call :=
      [⟨0, 0, .add { filepath := "Beach.png", contentHash := "0", tags := [⟨"hot:dog", .general,
          none, .imported⟩] }⟩,
        ⟨0, 0, .add { filepath := "beach2.png", contentHash := "1" }⟩,
        ⟨0, 0, .flush⟩]
    let store := ((opened {} (fun _ => {}) (fun _ => 8) : Archive Float).run calls).store
    let catalog : Catalog Float := .fresh {}
    let query : Query := { general := ["each", "ot"], negative := ["dog"] }
    let results := (catalog.execute store query).1
    Query.parse "EACH ot -dog" = query ∧
      (∀ term ∈ query.general, isWord term = true) ∧ results.route = .hybrid ∧
      (∀ item ∈ store.items, item.FoldsAlike) ∧
      (∃ item ∈ store.items, HasPhrase item.columns "dog" ∧
        ¬HasOpenPhrase item.columns "each" ∧ item.view.hit ∈ results.hits) ∧
      results.hits.Perm ((store.items.filter fun item =>
        Filter.accepts query true (SideTables.full store query) item.view).map
          fun item => item.view.hit) := by
  intro calls store catalog query results
  have hordinary : ∀ call ∈ calls, call.request.isOrdinary = true := by decide
  have hcurrent : catalog.UpToDate store :=
    upToDate_fresh (fun _ => {}) (fun _ => 8) hordinary {}
  have hwords : ∀ term ∈ query.general, isWord term = true := by decide
  have hsize : query.general.length ≤ Store.looseTermLimit := by decide
  obtain ⟨hroute, hunknown, hindex, hfolds, item, hitem, hdog, heach, haccepts⟩ :
      results.route = .hybrid ∧ (∀ term ∈ query.general, ¬store.Knows term) ∧
        (∀ expression ∈ Expression.ofQuery? query
            (query.general.map fun term => (store.names.id? term).isSome),
          expression.isAdmissible = true) ∧
        (∀ item ∈ store.items, item.FoldsAlike) ∧
        ∃ item ∈ store.items, HasPhrase item.columns "dog" ∧
          ¬HasOpenPhrase item.columns "each" ∧
          Filter.accepts query true (SideTables.full store query) item.view = true := by
    simp only [results, hcurrent.execute, Search.route_answer, Store.names_eq_insertionSort]
    decide
  have hall := index_search_complete (fun _ => {}) (fun _ => 8) hordinary catalog hwords hsize
    hcurrent hroute hunknown hindex
  exact ⟨by decide, hwords, hroute, hfolds,
    ⟨item, hitem, hdog, heach, (hall.2.2.1 item hitem (hfolds item hitem)).2 haccepts⟩,
    hall.2.2.2 hfolds⟩

/-- One term more than the store looks for.  The index takes the expression and the filter
the item, but there is no answer. -/
theorem index_search_refuses_long_query :
    let calls : List Call :=
      [⟨0, 0, .add { filepath := "a.png", contentHash := "0" }⟩, ⟨0, 0, .flush⟩]
    let store := ((opened {} (fun _ => {}) (fun _ => 8) : Archive Float).run calls).store
    let catalog : Catalog Float := .fresh {}
    let query := Query.parse (" ".intercalate (List.replicate 988 "a"))
    let exact := query.general.map fun term => (store.names.id? term).isSome
    let results := (catalog.execute store query).1
    (∀ call ∈ calls, call.request.isOrdinary = true) ∧ catalog.UpToDate store ∧
      (∀ term ∈ query.general, isWord term = true) ∧ results.route = .hybrid ∧
      (∀ term ∈ query.general, ¬store.Knows term) ∧
      (∀ expression ∈ Expression.ofQuery? query exact, expression.isAdmissible = true) ∧
      ∃ item ∈ store.items, item.FoldsAlike ∧
        Filter.accepts query true (SideTables.full store query) item.view = true ∧
        item.view.hit ∉ results.hits := by
  intro calls store catalog query exact results
  have hordinary : ∀ call ∈ calls, call.request.isOrdinary = true := by decide
  have hcurrent : catalog.UpToDate store :=
    upToDate_fresh (fun _ => {}) (fun _ => 8) hordinary {}
  have hquery : query = { general := List.replicate 988 "a" } :=
    Query.parse_intercalate_replicate (by decide) (by decide) ⟨"a", by decide⟩ 988
  refine ⟨hordinary, hcurrent, ?_⟩
  simp only [results, exact, hquery, hcurrent.execute, Store.names_eq_insertionSort]
  decide +kernel

end Archive

end Gallery
