import Gallery.Proofs.Archive.Transparency
import Gallery.Proofs.Search.Reference

/-!
# Searching an archive is scanning its relations

While all calls go to one catalog, its directory knows the tags of the store, and the
texts of an item are the names of its tags.  So a search that does not use the text
index finds the items that fit the query as the relations have them, paths and file
names folded as its route folds them.  Only a path's ending may be taken for another
one, where it is matched by a pattern and holds one of three characters.
-/

namespace Gallery

open Text

/-- A coherent catalog answers by the tags of the store, consulted or not. -/
theorem Catalog.Coherent.search
    {α : Type} [Scalar α] {config : Config} {store : Store} {catalog : Catalog α}
    (h : Catalog.Coherent config store catalog) (hhealthy : store.Healthy) (text : String) :
    (catalog.search store text).1 = Search.answer store store.names (Query.parse text) := by
  have hanswer := (h.execute hhealthy (Query.parse text)).1
  by_cases hconsults : Search.consultsDirectory (Query.parse text) = true
  · rw [if_pos hconsults] at hanswer
    exact hanswer
  · rw [if_neg hconsults] at hanswer
    rw [Search.answer_of_not_consults hconsults]
    exact hanswer

namespace Archive

variable {α : Type} [Scalar α]

theorem search_iff_fits
    (configs : ℕ → Config) (limits : ℕ → ℕ) {catalog : ℕ} {calls : List Call}
    (hordinary : ∀ call ∈ calls, call.request.isOrdinary = true)
    (hcatalog : ∀ call ∈ calls, call.catalog = catalog)
    (hpaths : ∀ item ∈ ((opened {} configs limits : Archive α).run calls).store.items,
      '\x00' ∉ item.filepath.toList)
    {text : String} (htext : '\x00' ∉ text.toList) :
    let archive : Archive α := (opened {} configs limits).run calls
    let store := archive.store
    let query := Query.parse text
    let results := ((archive.catalogs catalog).search store text).1
    let ends := Search.endsOf results.route
    let fold := Search.foldOf results.route
    results.route ≠ .hybrid → (Search.outcome store store.names query).isOk = true →
      (∀ hit ∈ results.hits, ∃ item ∈ store.items, item.view.hit = hit) ∧
        ∀ item ∈ store.items,
          (item.view.hit ∈ results.hits ↔ Search.Fits ends fold store query item) ∧
          (Search.Distinguishable query →
            (item.view.hit ∈ results.hits ↔
              Search.Fits (Search.EndsIn fold) fold store query item)) := by
  intro archive store query results ends fold hindex hanswered
  have hsettled : archive.Settled catalog (configs catalog) :=
    settled_run Store.healthy_empty configs limits hordinary hcatalog
  have hconsistent : store.Consistent := (reachable_run configs limits hordinary).consistent
  have hplain : query.Plain := Query.plain_parse htext
  have hanswer : results = Search.answer store store.names query :=
    hsettled.coherent.search hsettled.healthy text
  have hroute : results.route = Search.routeOf store.names query := by
    rw [hanswer, Search.route_answer]
  rw [hroute] at hindex
  have hfound : ∀ item ∈ store.items,
      (item.view.hit ∈ results.hits ↔ Search.Fits ends fold store query item) := by
    intro item hitem
    rw [hanswer, Search.view_hit_mem_hits_iff hconsistent hplain hpaths hindex hanswered hitem,
      ← hroute]
  refine ⟨?_, ?_⟩
  · intro hit hhit
    rw [hanswer] at hhit
    obtain ⟨item, hitem, hshown, -⟩ :=
      Search.exists_of_mem_answer hconsistent.sound.healthy hhit
    exact ⟨item, hitem, hshown⟩
  · intro item hitem
    refine ⟨hfound item hitem, ?_⟩
    intro hdistinct
    rw [hfound item hitem]
    exact Search.fits_iff_of_distinguishable hdistinct results.route

/-- Two items with the ending asked for, in capitals or not, of which one has the tag. -/
theorem search_iff_fits_of_two_items :
    let calls : List Call :=
      [⟨0, 0, .add { filepath := "A.PNG", contentHash := "0", tags := [⟨"cat", .general, none,
          .imported⟩] }⟩,
        ⟨0, 1, .add { filepath := "b.png", contentHash := "1" }⟩,
        ⟨0, 0, .flush⟩, ⟨0, 1, .flush⟩]
    let archive : Archive Float := (opened {} (fun _ => {}) (fun _ => 8)).run calls
    let store := archive.store
    let results := ((archive.catalogs 0).search store "cat -hat .png").1
    results.hits.map (·.id) = [1] ∧ results.route = .exactTag ∧
      ∀ item ∈ store.items, item.view.hit ∈ results.hits ↔
        Search.Fits (Search.EndsIn asciiLower) asciiLower store (Query.parse "cat -hat .png")
          item := by
  intro calls archive store results
  have hordinary : ∀ call ∈ calls, call.request.isOrdinary = true := by decide
  have hcatalog : ∀ call ∈ calls, call.catalog = 0 := by decide
  obtain ⟨hpaths, htext, hroute, hanswered, hdistinct, hhits⟩ :
      (∀ item ∈ store.items, '\x00' ∉ item.filepath.toList) ∧
        '\x00' ∉ ("cat -hat .png" : String).toList ∧ results.route = .exactTag ∧
        (Search.outcome store store.names (Query.parse "cat -hat .png")).isOk = true ∧
        Search.Distinguishable (Query.parse "cat -hat .png") ∧
        results.hits.map (·.id) = [1] := by
    decide +kernel
  refine ⟨hhits, hroute, ?_⟩
  intro item hitem
  have hindex : results.route ≠ .hybrid := by
    rw [hroute]
    decide
  have hfits := ((search_iff_fits (fun _ => {}) (fun _ => 8) hordinary hcatalog hpaths htext
    hindex hanswered).2 item hitem).2 hdistinct
  rwa [show ((archive.catalogs 0).search store "cat -hat .png").1.route = .exactTag from hroute]
    at hfits

/-- A path that ends otherwise is found for an ending that its pattern takes for it. -/
theorem search_finds_misread_ending :
    let calls : List Call :=
      [⟨0, 0, .add { filepath := "a.png", contentHash := "0" }⟩,
        ⟨0, 0, .add { filepath := "b.\ufffd", contentHash := "1" }⟩, ⟨0, 0, .flush⟩]
    let archive : Archive Float := (opened {} (fun _ => {}) (fun _ => 8)).run calls
    let store := archive.store
    let query := Query.parse ".\uffff"
    let results := ((archive.catalogs 0).search store ".\uffff").1
    (∀ call ∈ calls, call.request.isOrdinary = true ∧ call.catalog = 0) ∧
      (∀ item ∈ store.items, '\x00' ∉ item.filepath.toList) ∧
      '\x00' ∉ (".\uffff" : String).toList ∧
      results.route = .simpleFilter ∧ (Search.outcome store store.names query).isOk = true ∧
      ∃ item ∈ store.items, item.view.hit ∈ results.hits ∧
        ¬Search.Fits (Search.EndsIn asciiLower) asciiLower store query item ∧
        ¬Search.Fits (Search.EndsIn lower) lower store query item := by
  intro calls archive store query results
  have hfound : ∃ item ∈ store.items, item.view.hit ∈ results.hits ∧ query.extensions ≠ [] ∧
      (∀ ending ∈ query.extensions, ¬ending.toList <:+ (asciiLower item.filepath).toList) ∧
      ∀ ending ∈ query.extensions, ¬ending.toList <:+ (lower item.filepath).toList := by
    decide +kernel
  obtain ⟨item, hitem, hhit, hasked, hascii, hfull⟩ := hfound
  refine ⟨by decide, by decide, by decide, by decide, by decide,
    item, hitem, hhit, ?_, ?_⟩
  · intro hfits
    obtain hnone | ⟨ending, hending, hends⟩ := hfits.facets.extension
    · exact hasked hnone
    · exact hascii ending hending hends
  · intro hfits
    obtain hnone | ⟨ending, hending, hends⟩ := hfits.facets.extension
    · exact hasked hnone
    · exact hfull ending hending hends

end Archive

end Gallery
