import Gallery.Proofs.Archive.Soundness
import Gallery.Proofs.Search.Narrowing

/-!
# Excluding one more term

A search with one more term to exclude finds nothing that was not found without it,
whatever directory it is answered from and whichever route it takes.  The one exception
comes from the pattern by which the store matches the ending of a path: three characters
are one to it, and a query with a metadata filter had its endings compared in memory.
-/

namespace Gallery

open Text

namespace Archive

-- Small stores are sorted while a fact about one is decided.
attribute [local semireducible] List.mergeSort

variable {α : Type} [Scalar α]

theorem exclusion_narrows
    (configs : ℕ → Config) (limits : ℕ → ℕ) {calls : List Call}
    (hordinary : ∀ call ∈ calls, call.request.isOrdinary = true)
    (hpaths : ∀ item ∈ ((opened {} configs limits : Archive α).run calls).store.items,
      '\x00' ∉ item.filepath.toList)
    {text : String} (htext : '\x00' ∉ text.toList) (catalog : Catalog α) (term : String) :
    let store := ((opened {} configs limits : Archive α).run calls).store
    let query := Query.parse text
    let wide := (catalog.execute store query).1
    let narrow := (catalog.execute store (query.excluding term)).1
    (Search.outcome store (catalog.names store).1 query).isOk = true →
      ∀ hit ∈ narrow.hits, ∃ item ∈ store.items, item.view.hit = hit ∧
        (hit ∈ wide.hits ↔
          (wide.route = .fallback → Filter.extensionAccepts query item.view = true)) ∧
        (Search.Distinguishable query → hit ∈ wide.hits) := by
  intro store query wide narrow hanswered hit hhit
  have hsound : store.Sound := (reachable_run configs limits hordinary).consistent.sound
  have hplain : query.Plain := Query.plain_parse htext
  have hwide : wide = Search.answer store (catalog.names store).1 query :=
    catalog.execute_eq_answer store query
  have hnarrow : narrow = Search.answer store (catalog.names store).1 (query.excluding term) :=
    catalog.execute_eq_answer store (query.excluding term)
  rw [hnarrow] at hhit
  obtain ⟨item, hitem, rfl, -⟩ := Search.exists_of_mem_answer hsound.healthy hhit
  have hfound :
      item.view.hit ∈ wide.hits ↔
        (wide.route = .fallback → Filter.extensionAccepts query item.view = true) := by
    rw [hwide, Search.route_answer]
    exact Search.view_hit_mem_hits_iff_of_excluding hsound hplain.settled hanswered hitem hhit
  refine ⟨item, hitem, rfl, hfound, ?_⟩
  intro hdistinct
  rw [hfound, hwide, Search.route_answer]
  intro hroute
  have hindexed : Search.routeOf (catalog.names store).1 query ≠ .hybrid := by simp [hroute]
  have hmeets :=
    (Search.conditions_of_mem_hits_excluding hsound hindexed hitem hhit).2.1
  exact Search.extensionAccepts_of_meets hplain (hpaths item hitem) hdistinct hmeets

/-- A metadata filter with an ending, from the fallback to the attachments. -/
theorem exclusion_narrows_of_two_items :
    let calls : List Call :=
      [⟨0, 0, .add { filepath := "a.png", contentHash := "0", tags := [⟨"cat", .general, none,
          .imported⟩] }⟩,
        ⟨0, 0, .add { filepath := "b.png", contentHash := "1", tags := [⟨"dog", .general, none,
          .imported⟩] }⟩,
        ⟨0, 0, .flush⟩]
    let store := ((opened {} (fun _ => {}) (fun _ => 8) : Archive Float).run calls).store
    let stale : Catalog Float :=
      { (Catalog.fresh {} : Catalog Float) with
        caches := { (Caches.cold {} : Caches Float) with directory := ⟨some ⟨[(2, "dog")]⟩⟩ } }
    let query := Query.parse "metadata:missing .png"
    let wide := (stale.execute store query).1
    let narrow := (stale.execute store (query.excluding "dog")).1
    wide.route = .fallback ∧ narrow.route = .exactTag ∧ narrow.hits.map (·.id) = [1] ∧
      ∀ hit ∈ narrow.hits, hit ∈ wide.hits := by
  intro calls store stale query wide narrow
  have hordinary : ∀ call ∈ calls, call.request.isOrdinary = true := by decide
  obtain ⟨hpaths, htext, hdistinct, hanswered, hwide, hnarrow, hhits⟩ :
      (∀ item ∈ store.items, '\x00' ∉ item.filepath.toList) ∧
        '\x00' ∉ ("metadata:missing .png" : String).toList ∧ Search.Distinguishable query ∧
        (Search.outcome store (stale.names store).1 query).isOk = true ∧
        wide.route = .fallback ∧ narrow.route = .exactTag ∧ narrow.hits.map (·.id) = [1] := by
    decide
  refine ⟨hwide, hnarrow, hhits, ?_⟩
  intro hit hhit
  obtain ⟨item, -, -, -, hkept⟩ :=
    exclusion_narrows (fun _ => {}) (fun _ => 8) hordinary hpaths htext stale "dog" hanswered hit
      hhit
  exact hkept hdistinct

/-- The pattern for an ending matches another character at its place, the comparison in
memory does not: the exclusion brings in an item. -/
theorem exclusion_brings_in_other_ending :
    let calls : List Call :=
      [⟨0, 0, .add { filepath := "b.\ufffd", contentHash := "0" }⟩, ⟨0, 0, .flush⟩]
    let store := ((opened {} (fun _ => {}) (fun _ => 8) : Archive Float).run calls).store
    let catalog : Catalog Float := .fresh {}
    let query := Query.parse "metadata:missing .\uffff"
    (∀ call ∈ calls, call.request.isOrdinary = true) ∧
      (∀ item ∈ store.items, '\x00' ∉ item.filepath.toList) ∧
      '\x00' ∉ ("metadata:missing .\uffff" : String).toList ∧
      (Search.outcome store (catalog.names store).1 query).isOk = true ∧
      ∃ hit ∈ (catalog.execute store (query.excluding "x")).1.hits,
        hit ∉ (catalog.execute store query).1.hits := by
  decide

end Archive

end Gallery
