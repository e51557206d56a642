import Gallery.Proofs.Archive.Rarity
import Gallery.Proofs.Catalog.Statistics
import Gallery.Proofs.Catalog.TagTable

/-!
# Statistics, directory and weights of one catalog

Statistics, names and weights are read from the store at different times and kept apart.
A catalog that all calls go to drops each of them when the store changes, so at any moment
they tell of the same store: the tags that the statistics count are those of the directory,
and the uses that they list are the frequencies that tags are weighed by.
-/

namespace Gallery

namespace Catalog

variable {α : Type} [Scalar α] {config : Config} {store : Store} {catalog : Catalog α}

/-- A coherent catalog weighs a tag by the number of items that show it. -/
theorem Coherent.exists_generation (h : Coherent config store catalog)
    (hconsistent : store.Consistent) :
    ∃ generation, (catalog.caches.weights.prime store).current = some generation ∧
      ∀ tag ∈ store.tags,
        (catalog.names store).1.id? tag.name = some tag.id ∧
          generation.snapshot.frequency tag.id = store.uses tag.name ∧
          (catalog.weightFor store tag.name).1 =
            generation.snapshot.weight (Caches.options config) tag.id := by
  have hsound := hconsistent.sound
  obtain ⟨hprimed, generation, hgeneration⟩ := h.caches.prime hsound.healthy
  have hsnapshot : generation.snapshot = store.weightSnapshot :=
    hprimed.snapshot generation hgeneration
  refine ⟨generation, hgeneration, fun tag htag => ⟨?_, ?_, ?_⟩⟩
  · rw [(h.names hsound.healthy).1]
    exact hsound.id?_eq_some_iff.2 ⟨tag, htag, rfl, rfl⟩
  · rw [hsnapshot, Store.frequency_weightSnapshot, hconsistent.frequency_eq_uses htag]
  · rw [(h.weightFor hsound.healthy tag.name).1, hsnapshot, hsound.weightOf_eq htag]

end Catalog

namespace Archive

-- The tags of an item are sorted while a fact about a small store is decided.
attribute [local semireducible] List.mergeSort

variable {α : Type} [Scalar α] {start : Store} {calls : List Call}

/-- While all calls go to one catalog, its statistics describe the store as it is, they count
the tags that its directory knows, and it weighs each tag by the uses that they count. -/
theorem statistics_agree (hstart : start.Reachable) (configs : ℕ → Config) (limits : ℕ → ℕ)
    (catalog : ℕ)
    (hcalls : ∀ call ∈ calls, call.request.isOrdinary = true ∧ call.catalog = catalog) :
    let archive : Archive α := (opened start configs limits).run calls
    let names := ((archive.catalogs catalog).names archive.store).1
    ∃ stats, ((archive.catalogs catalog).stats archive.store).1 = .ok stats ∧
      stats.Describes archive.store ∧
      stats.totalTags = names.count ∧
      ∃ generation,
        ((archive.catalogs catalog).caches.weights.prime archive.store).current =
            some generation ∧
          ∀ tag ∈ archive.store.tags,
            names.id? tag.name = some tag.id ∧
              generation.snapshot.frequency tag.id = archive.store.uses tag.name ∧
              ((archive.catalogs catalog).weightFor archive.store tag.name).1 =
                generation.snapshot.weight (Caches.options (configs catalog)) tag.id := by
  intro archive names
  have hordinary : ∀ call ∈ calls, call.request.isOrdinary = true :=
    fun call hcall => (hcalls call hcall).1
  have hconsistent : archive.store.Consistent :=
    ((live_opened hstart.consistent configs limits).run hordinary).consistent
  have hsettled : archive.Settled catalog (configs catalog) :=
    settled_run hstart.consistent.sound.healthy configs limits hordinary
      fun call hcall => (hcalls call hcall).2
  have hcount : names.count = archive.store.tags.length := by
    have hnames : names = archive.store.names := (hsettled.coherent.names hsettled.healthy).1
    rw [hnames]
    exact (Store.mirrors_names hconsistent.sound.keyedTags).count
  refine ⟨archive.store.statistics, ?_, hconsistent.sound.describes_statistics, ?_,
    hsettled.coherent.exists_generation hconsistent⟩
  · rw [hsettled.coherent.stats.1, hconsistent.compute_eq]
  · rw [hcount]
    exact hconsistent.sound.describes_statistics.totalTags

/-- Statistics are read before, between and after the writes of two writers. -/
theorem statistics_agree_of_two_writers :
    let calls : List Call :=
      [⟨0, 0, .stats⟩,
        ⟨0, 0, .add { filepath := "a.png", contentHash := "0", tags := [⟨"cat", .general, none,
          .imported⟩] }⟩,
        ⟨0, 0, .flush⟩, ⟨0, 0, .stats⟩, ⟨0, 0, .weight "cat"⟩,
        ⟨0, 1, .add { filepath := "b.png", contentHash := "1", tags := [⟨"cat", .general, none,
          .imported⟩] }⟩,
        ⟨0, 1, .add { filepath := "c.png", contentHash := "2", tags := [⟨"hat", .general, none,
          .imported⟩] }⟩,
        ⟨0, 1, .flush⟩, ⟨0, 1, .setTagCategory "hat" .artist none⟩]
    let archive : Archive Float := (opened {} (fun _ => {}) (fun _ => 8)).run calls
    archive.store.usedTags = [("cat", 2), ("hat", 1)] ∧
      ∃ stats, ((archive.catalogs 0).stats archive.store).1 = .ok stats ∧
        stats.Describes archive.store ∧
        stats.totalTags = ((archive.catalogs 0).names archive.store).1.count := by
  intro calls archive
  obtain ⟨stats, hstats, hdescribes, hcount, -⟩ :=
    statistics_agree (α := Float) .refl (fun _ => {}) (fun _ => 8) 0 (by decide : ∀ call ∈ calls, _)
  exact ⟨by decide, stats, hstats, hdescribes, hcount⟩

end Archive

end Gallery
