import Gallery.Proofs.Archive.Basic
import Gallery.Proofs.Search.Structural
import Gallery.Proofs.Store.Consistent

/-!
# Structural filters of an archive

Which of the two structural filters looks at an item depends on the rest of a query: a
scan of the store has its conditions, other candidates are checked in memory.  Over every
reachable store what the conditions of a scan let through is accepted in memory.  The
converse needs that the two foldings of letters agree on the texts of the item.
-/

namespace Gallery

open Text

namespace Search

/-- An answered scan shows the items that meet its conditions. -/
theorem view_mem_scanFiltered_iff {store : Store} {query : Query} (h : store.Sound)
    {found : List Item} (hscan : store.scanFiltered query = .ok found) {item : StoredItem}
    (hitem : item ∈ store.items) : item.view ∈ found ↔ store.meets query item = true := by
  rw [Store.scanFiltered_ok h.healthy hscan, (Store.scanSort_perm _ _).mem_iff, List.mem_map]
  constructor
  · rintro ⟨other, hother, hview⟩
    obtain ⟨hmem, hmeets⟩ := List.mem_filter.1 hother
    rwa [← h.item_eq_of_id hmem hitem (congrArg Item.id hview)]
  · exact fun hmeets => ⟨item, List.mem_filter.2 ⟨hitem, hmeets⟩, rfl⟩

end Search

namespace Archive

variable {α : Type} [Scalar α]

/-- The conditions of a scan and the checks in memory, over the side tables that are read
for them, agree on every item of a reachable store. -/
theorem structural_filters_agree
    (configs : ℕ → Config) (limits : ℕ → ℕ) {calls : List Call}
    (hordinary : ∀ call ∈ calls, call.request.isOrdinary = true)
    {text : String} (htext : '\x00' ∉ text.toList) :
    let store := ((opened {} configs limits : Archive α).run calls).store
    let query := Query.parse text
    ∃ tables, SideTables.load store query true = .ok tables ∧
      ∀ item ∈ store.items, '\x00' ∉ item.filepath.toList →
        (Search.ReadsExactly query item → store.meets query item = true →
          Filter.structuralAccepts query tables item.view = true) ∧
        (lower item.filepath = asciiLower item.filepath →
          lower item.filename = asciiLower item.filename →
            Filter.structuralAccepts query tables item.view = true →
              store.meets query item = true) ∧
        ∀ found, store.scanFiltered query = .ok found →
          (item.view ∈ found ↔ store.meets query item = true) := by
  intro store query
  have hsound : store.Sound := (reachable_run configs limits hordinary).consistent.sound
  have hplain : query.Plain := Query.plain_parse htext
  refine ⟨SideTables.consulted store query true,
    SideTables.load_of_healthy hsound.healthy query true, ?_⟩
  intro item hitem hpath
  rw [Filter.structuralAccepts_consulted]
  refine ⟨?_, ?_, ?_⟩
  · exact Search.structuralAccepts_of_meets_of_readsExactly hplain.settled
  · exact Search.meets_of_structuralAccepts hplain hpath
  · exact fun found hscan => Search.view_mem_scanFiltered_iff hsound hscan hitem

/-- A pool that is asked for in capitals, a wildcard in an ending, a source, a parent and
a favorite, on an item with all of them and on one with none. -/
theorem structural_filters_agree_on_two_items :
    let calls : List Call :=
      [⟨0, 0, .add { filepath := "a.P_g", contentHash := "0", sources := ["Web"] }⟩,
        ⟨0, 0, .add { filepath := "b.png", contentHash := "1", parent := some "a.P_g" }⟩,
        ⟨0, 0, .flush⟩,
        ⟨0, 1, .addToPool "Best" "a.P_g"⟩,
        ⟨1, 1, .setFavorite "a.P_g" true⟩]
    let text := "POOL:best .p_G source:web has:children is:favorite filename:A"
    let store := ((opened {} (fun _ => {}) (fun _ => 8) : Archive Float).run calls).store
    let query := Query.parse text
    ∃ tables, SideTables.load store query true = .ok tables ∧
      ∃ a ∈ store.items, ∃ b ∈ store.items,
        a.filepath = "a.P_g" ∧ Filter.structuralAccepts query tables a.view = true ∧
          store.meets query a = true ∧
        b.filepath = "b.png" ∧ Filter.structuralAccepts query tables b.view = false ∧
          store.meets query b = false := by
  intro calls text store query
  have hordinary : ∀ call ∈ calls, call.request.isOrdinary = true := by decide
  have hplain : '\x00' ∉ text.toList := by decide
  obtain ⟨tables, htables, hall⟩ :=
    structural_filters_agree (α := Float) (fun _ => {}) (fun _ => 8) hordinary hplain
  have hquery : query =
      { pool := some (.named "best"), extensions := [".p_g"], sources := ["web"],
        relationship := some .hasChildren, favorite := true, filename := some "a" } := by
    decide
  obtain ⟨a, ha, b, hb, hpathA, hpathB, hmeetsA, hmeetsB, hfolded⟩ :
      ∃ a ∈ store.items, ∃ b ∈ store.items, a.filepath = "a.P_g" ∧ b.filepath = "b.png" ∧
        store.meets query a = true ∧ store.meets query b = false ∧
          lower b.filepath = asciiLower b.filepath ∧ lower b.filename = asciiLower b.filename := by
    rw [hquery]
    decide
  have hdistinct : Search.Distinguishable query := by
    rw [hquery]
    decide
  have hnul : '\x00' ∉ a.filepath.toList ∧ '\x00' ∉ b.filepath.toList := by
    rw [hpathA, hpathB]
    decide
  refine ⟨tables, htables, a, ha, b, hb, hpathA, ?_, hmeetsA, hpathB, ?_, hmeetsB⟩
  · apply (hall a ha hnul.1).1 _ hmeetsA
    exact Search.readsExactly_of_distinguishable (Query.plain_parse hplain) hnul.1 hdistinct
  · rw [← Bool.not_eq_true]
    intro haccepts
    have hmeets := (hall b hb hnul.2).2.1 hfolded.1 hfolded.2 haccepts
    rw [hmeetsB] at hmeets
    cases hmeets

end Archive

end Gallery
