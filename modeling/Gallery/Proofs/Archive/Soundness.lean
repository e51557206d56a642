import Gallery.Proofs.Archive.Basic
import Gallery.Proofs.Search.Reference
import Gallery.Proofs.Store.Consistent

/-!
# What searches of an archive may find

Whatever a directory holds, a search of an archive finds stored items, each once, and
each passes every check of the complete filter but, where the store matched its path,
the check of its ending.  There the store takes three characters for one another; a
query whose endings hold none of them finds only what the filter accepts.
-/

namespace Gallery

open Text

/-- Every query is answered by the names in use, whether it consults them or not. -/
theorem Catalog.execute_eq_answer
    {α : Type} (catalog : Catalog α) (store : Store) (query : Query) :
    (catalog.execute store query).1 = Search.answer store (catalog.names store).1 query := by
  unfold execute Search.execute
  by_cases hconsults : Search.consultsDirectory query = true
  · rw [if_pos hconsults]
    rfl
  · rw [if_neg hconsults]
    exact (Search.answer_of_not_consults hconsults _).symm

theorem Catalog.exists_names_of_execute
    {α : Type} (catalog : Catalog α) (store : Store) (query : Query) :
    ∃ names, (catalog.execute store query).1 = Search.answer store names query :=
  ⟨_, catalog.execute_eq_answer store query⟩

theorem Catalog.exists_names_of_search
    {α : Type} (catalog : Catalog α) (store : Store) (text : String) :
    ∃ names, (catalog.search store text).1 = Search.answer store names (Query.parse text) :=
  catalog.exists_names_of_execute store (Query.parse text)

namespace Archive

variable {α : Type} [Scalar α]

theorem search_sound
    (configs : ℕ → Config) (limits : ℕ → ℕ) {calls : List Call}
    (hordinary : ∀ call ∈ calls, call.request.isOrdinary = true)
    (hpaths : ∀ item ∈ ((opened {} configs limits : Archive α).run calls).store.items,
      '\x00' ∉ item.filepath.toList)
    {text : String} (htext : '\x00' ∉ text.toList) (catalog : Catalog α) :
    let store := ((opened {} configs limits : Archive α).run calls).store
    let query := Query.parse text
    let hits := (catalog.search store text).1.hits
    (hits.map (·.id)).Nodup ∧
      ∀ hit ∈ hits, ∃ item ∈ store.items, item.view.hit = hit ∧
        (Filter.accepts query true (SideTables.full store query) item.view = true ↔
          Filter.extensionAccepts query item.view = true) ∧
        (Search.Distinguishable query →
          Filter.accepts query true (SideTables.full store query) item.view = true) := by
  intro store query hits
  have hsound : store.Sound := (reachable_run configs limits hordinary).consistent.sound
  have hplain : query.Plain := Query.plain_parse htext
  obtain ⟨names, hanswer⟩ := catalog.exists_names_of_search store text
  have hhits : hits = (Search.answer store names query).hits := by
    rw [← hanswer]
  refine ⟨?_, ?_⟩
  · rw [hhits]
    exact Search.nodup_hits hsound.healthy hsound.itemIds names query
  · intro hit hhit
    rw [hhits] at hhit
    obtain ⟨item, hitem, hshown, hselects⟩ :=
      Search.exists_of_mem_answer hsound.healthy hhit
    refine ⟨item, hitem, hshown, ?_, ?_⟩
    · rw [Search.accepts_of_selects hplain hselects]
    · intro hdistinct
      exact Search.accepts_of_selects_of_distinguishable hplain (hpaths item hitem) hdistinct
        hselects

/-- Over a store that kept two paths, a stale directory and a query that is answered from
the attachments. -/
theorem search_sound_of_two_paths :
    let calls : List Call :=
      [⟨0, 0, .add { filepath := "a.png", contentHash := "0", tags := [⟨"cat", .general, none,
          .imported⟩] }⟩,
        ⟨0, 1, .add { filepath := "b.webm", contentHash := "1", tags := [⟨"cat", .general, none,
          .imported⟩] }⟩,
        ⟨0, 0, .flush⟩, ⟨0, 1, .flush⟩]
    let store := ((opened {} (fun _ => {}) (fun _ => 8) : Archive Float).run calls).store
    let stale : Catalog Float :=
      { (Catalog.fresh {} : Catalog Float) with
        caches := { (Caches.cold {} : Caches Float) with directory := ⟨some ⟨[(1, "cat"), (9, "dog")]⟩⟩ } }
    let query := Query.parse "cat .png"
    let hits := (stale.search store "cat .png").1.hits
    hits.map (·.id) = [1] ∧
      ∀ hit ∈ hits, ∃ item ∈ store.items, item.view.hit = hit ∧
        Filter.accepts query true (SideTables.full store query) item.view = true := by
  intro calls store stale query hits
  have hordinary : ∀ call ∈ calls, call.request.isOrdinary = true := by decide
  have hpaths : ∀ item ∈ store.items, '\x00' ∉ item.filepath.toList := by decide
  have htext : '\x00' ∉ ("cat .png" : String).toList := by decide
  have hdistinct : Search.Distinguishable query := by decide
  refine ⟨by decide +kernel, ?_⟩
  intro hit hhit
  obtain ⟨item, hitem, hshown, -, haccepts⟩ :=
    (search_sound (fun _ => {}) (fun _ => 8) hordinary hpaths htext stale).2 hit hhit
  exact ⟨item, hitem, hshown, haccepts hdistinct⟩

/-- The pattern for an ending also matches another character at its place: the search
finds an item that the complete filter does not accept. -/
theorem search_finds_other_ending :
    let calls : List Call :=
      [⟨0, 0, .add { filepath := "b.\uffff", contentHash := "0" }⟩, ⟨0, 0, .flush⟩]
    let store := ((opened {} (fun _ => {}) (fun _ => 8) : Archive Float).run calls).store
    let query := Query.parse ".\ufffe"
    let hits := ((Catalog.fresh {} : Catalog Float).search store ".\ufffe").1.hits
    (∀ call ∈ calls, call.request.isOrdinary = true) ∧
      '\x00' ∉ (".\ufffe" : String).toList ∧
      (∀ item ∈ store.items, '\x00' ∉ item.filepath.toList) ∧
      ∃ item ∈ store.items, item.view.hit ∈ hits ∧
        Filter.accepts query true (SideTables.full store query) item.view = false := by
  decide +kernel

end Archive

end Gallery
