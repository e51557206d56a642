import Gallery.Proofs.Archive.TextSearch
import Gallery.Proofs.Search.SingleTerm

/-!
# Searching for a tag by its own name

A query is lower-cased and the names of tags are not.  So a search for the name of a tag
is one for its lower case, and which items with the tag it finds depends on the other
tags: a tag of the lower-cased name takes the search to itself.  A tag in lower case is
always found by its name.
-/

namespace Gallery

open Text TextIndex

namespace Archive

-- Small stores are sorted while a fact about one is decided.
attribute [local semireducible] List.mergeSort

variable {α : Type} [Scalar α]

theorem own_name_search_iff
    (configs : ℕ → Config) (limits : ℕ → ℕ) {calls : List Call}
    (hordinary : ∀ call ∈ calls, call.request.isOrdinary = true)
    (catalog : Catalog α) {tag : Tag} (hquote : '"' ∉ tag.name.toList)
    (hnul : '\x00' ∉ tag.name.toList) {term : String}
    (hgeneral : Token.classify (lowerOf tag.name.toList) = .general term) :
    let store := ((opened {} configs limits : Archive α).run calls).store
    let results := (catalog.execute store (Query.parse tag.name)).1
    catalog.UpToDate store → ∀ item ∈ store.items, store.Carries item.id tag →
      (item.view.hit ∈ results.hits ↔
        (∃ other, store.Carries item.id other ∧ other.name = lower tag.name) ∨
          ¬store.Knows (lower tag.name) ∧
            (HasOpenPhrase item.columns (lower tag.name) ∨
              HasFragment item.columns (lower tag.name))) ∧
      (lower tag.name = tag.name → item.view.hit ∈ results.hits) ∧
      (¬store.Knows (lower tag.name) →
        asciiLower tag.name = lower tag.name ∨
            tokens tag.name ≠ [] ∧ tokens (lower tag.name) = tokens tag.name →
          item.view.hit ∈ results.hits) := by
  intro store results hcurrent item hitem hcarries
  have hconsistent : store.Consistent := (reachable_run configs limits hordinary).consistent
  have hname : isWord tag.name = true := hconsistent.sound.tagWords tag hcarries.1
  have hanswer : results = Search.answer store store.names (Query.ofTerm (lower tag.name)) := by
    rw [← Query.parse_of_general hname hquote hgeneral]
    exact hcurrent.execute _
  have hplain : '\x00' ∉ (lower tag.name).toList := by
    rw [lower, String.toList_ofList]
    exact (plain_lowerOf hnul).nul
  have hfound : item.view.hit ∈ results.hits ↔ store.AnswersTo item (lower tag.name) := by
    rw [hanswer]
    exact Search.view_hit_mem_hits_ofTerm_iff hconsistent hitem ⟨tag, hcarries, rfl⟩ hplain
  refine ⟨hfound, ?_, ?_⟩
  · intro hsettled
    exact hfound.2 (Or.inl ⟨tag, hcarries, hsettled.symm⟩)
  · rintro hunknown (hfolded | ⟨hsome, htokens⟩)
    · exact hfound.2 (hconsistent.answersTo_of_asciiLower hitem hcarries hunknown hfolded)
    · exact hfound.2 (hconsistent.answersTo_of_tokens hitem hcarries hunknown htokens hsome)

/-- A tag in capitals, which no tag stands in the way of, and one that has another before
it. -/
theorem own_name_search_iff_of_two_items :
    let calls : List Call :=
      [⟨0, 0, .add { filepath := "a.png", contentHash := "0", tags := [⟨"Red", .general, none,
          .imported⟩, ⟨"ДОГ", .general, none, .imported⟩] }⟩,
        ⟨0, 0, .add { filepath := "b.png", contentHash := "1", tags := [⟨"red", .general, none,
          .imported⟩] }⟩,
        ⟨0, 0, .flush⟩]
    let store := ((opened {} (fun _ => {}) (fun _ => 8) : Archive Float).run calls).store
    let catalog : Catalog Float := .fresh {}
    let dog : Tag := ⟨2, "ДОГ", .general, none⟩
    let red : Tag := ⟨1, "Red", .general, none⟩
    ∃ item ∈ store.items, item.id = 1 ∧
      item.view.hit ∈ (catalog.execute store (Query.parse dog.name)).1.hits ∧
      item.view.hit ∉ (catalog.execute store (Query.parse red.name)).1.hits := by
  intro calls store catalog dog red
  have hordinary : ∀ call ∈ calls, call.request.isOrdinary = true := by decide
  have hcurrent : catalog.UpToDate store :=
    upToDate_fresh (fun _ => {}) (fun _ => 8) hordinary {}
  obtain ⟨hnames, ⟨item, hmem, hid, hcarriesDog, hcarriesRed⟩, hdog, hred⟩ :
      (∀ tag ∈ [dog, red], '"' ∉ tag.name.toList ∧ '\x00' ∉ tag.name.toList ∧
        Token.classify (lowerOf tag.name.toList) = .general (lower tag.name)) ∧
      (∃ item ∈ store.items, item.id = 1 ∧ store.Carries item.id dog ∧
        store.Carries item.id red) ∧
      (¬store.Knows (lower dog.name) ∧ tokens dog.name ≠ [] ∧
        tokens (lower dog.name) = tokens dog.name) ∧
      store.Knows (lower red.name) ∧
        ∀ other ∈ store.tags, store.Carries 1 other → other.name ≠ lower red.name := by
    decide
  have hall (tag : Tag) (htag : tag ∈ [dog, red]) :=
    own_name_search_iff (fun _ => {}) (fun _ => 8) hordinary catalog (hnames tag htag).1
      (hnames tag htag).2.1 (hnames tag htag).2.2 hcurrent
  have hofDog := hall dog (by decide) item hmem hcarriesDog
  have hofRed := hall red (by decide) item hmem hcarriesRed
  refine ⟨item, hmem, hid, ?_, ?_⟩
  · simp only [store]
    exact hofDog.2.2 hdog.1 (Or.inr hdog.2)
  · intro hfound
    simp only [store] at hfound
    obtain ⟨other, hother, hname⟩ | ⟨hunknown, -⟩ := hofRed.1.1 hfound
    · exact hred.2 other hother.1 (hid ▸ hother) hname
    · exact hunknown hred.1

/-- Another tag is named by the lower case, and a sign is looked for in lower case among
texts that have it in capitals. -/
theorem own_name_loses_item :
    let calls : List Call :=
      [⟨0, 0, .add { filepath := "a.png", contentHash := "0", tags := [⟨"Cat", .general, none,
          .imported⟩] }⟩,
        ⟨0, 0, .add { filepath := "b.png", contentHash := "1", tags := [⟨"cat", .general, none,
          .imported⟩] }⟩,
        ⟨0, 0, .add { filepath := "c.png", contentHash := "2", tags := [⟨"Ⓐ", .general, none,
          .imported⟩] }⟩,
        ⟨0, 0, .flush⟩]
    let store := ((opened {} (fun _ => {}) (fun _ => 8) : Archive Float).run calls).store
    let catalog : Catalog Float := .fresh {}
    (∀ call ∈ calls, call.request.isOrdinary = true) ∧ catalog.UpToDate store ∧
      ∀ name ∈ ["Cat", "Ⓐ"],
        '"' ∉ name.toList ∧ '\x00' ∉ name.toList ∧
        Token.classify (lowerOf name.toList) = .general (lower name) ∧
        ∃ item ∈ store.items, ∃ tag ∈ store.tags, store.Carries item.id tag ∧ tag.name = name ∧
          item.view.hit ∉ (catalog.execute store (Query.parse name)).1.hits := by
  intro calls store catalog
  have hordinary : ∀ call ∈ calls, call.request.isOrdinary = true := by decide
  have hcurrent : catalog.UpToDate store :=
    upToDate_fresh (fun _ => {}) (fun _ => 8) hordinary {}
  refine ⟨hordinary, hcurrent, ?_⟩
  simp only [hcurrent.execute, Store.names_eq_insertionSort]
  decide

end Archive

end Gallery
