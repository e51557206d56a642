import Gallery.Proofs.Archive.Effects
import Gallery.Proofs.Archive.Soundness
import Gallery.Proofs.Search.Scan
import Gallery.Proofs.Store.Family

/-!
# Searching for parents

A search for items with children reads a flag.  Over all runs of an archive the flag says
that some stored record named the item as a parent, which is not the same as that some
item has it as its parent: a later record may have given the child another one.
-/

namespace Gallery

/-! ## The search -/

namespace Search

variable {store : Store}

def hasChildren : Query where
  relationship := some .hasChildren

theorem parse_hasChildren : Query.parse "has:children" = hasChildren := by
  decide

theorem meets_hasChildren (store : Store) (item : StoredItem) :
    store.meets hasChildren item = item.hasChildren := by
  change (true && true && true && true && item.hasChildren && true && true) = item.hasChildren
  simp

theorem mem_hits_hasChildren_iff {α : Type} [Scalar α] (catalog : Catalog α)
    (hhealthy : store.Healthy) {hit : Hit} :
    hit ∈ (catalog.search store "has:children").1.hits ↔
      ∃ item ∈ store.items, item.hasChildren = true ∧ item.view.hit = hit := by
  obtain ⟨names, hanswer⟩ := catalog.exists_names_of_search store "has:children"
  rw [hanswer, parse_hasChildren, mem_hits_iff_meets hhealthy (by decide) (by decide) rfl]
  simp only [meets_hasChildren]

end Search

/-! ## Runs -/

namespace Archive

theorem Effect.family {store next : Store} {request : Request}
    {batch? : Option (List ItemRecord)} {records : List ItemRecord}
    (heffect : Effect store request batch? next) (hconsistent : store.Consistent)
    (h : store.Family records) : next.Family (records ++ batch?.toList.flatten) := by
  cases heffect with
  | batch buffered valid done =>
      rw [Store.storeBatch_of_healthy hconsistent.sound.healthy] at done
      simpa using h.foldlM_storeRecord hconsistent valid done
  | nothing _ => simpa using h
  | @category tag known category subcategory =>
      have hmoved : (store.recategorized tag.name category
          (Store.keptSubcategory category subcategory)).Family records := h.of_items rfl
      simpa using hmoved.refreshed_foldl _
  | @removal path name item tag stored known attached =>
      have hdetached : (store.detached item.id tag.id).Family records := h.of_items rfl
      simpa using hdetached.refreshed _
  | @pool path pool item stored =>
      have hitems : (store.pooled pool item.id).items = store.items := by
        rw [Store.pooled_eq]
      simpa using h.of_items hitems
  | @favorite path favorite item stored =>
      have hitems : (store.marked item.id favorite).items = store.items := by
        rw [Store.marked_eq]
      simpa using h.of_items hitems
  | orphans =>
      have hpruned : store.pruned.Family records := h.of_items rfl
      simpa using hpruned

variable {α : Type} [Scalar α]

/-- After any calls an item is flagged, and found by a search for parents, if some stored
record named it as a parent, and it has a child if the last record with a parent of some
path named it. -/
theorem parents_are_found
    (configs : ℕ → Config) (limits : ℕ → ℕ) {calls : List Call}
    (hordinary : ∀ call ∈ calls, call.request.isOrdinary = true) :
    let start : Archive α := opened {} configs limits
    let records := start.stored calls
    let store := (start.run calls).store
    (∀ item ∈ store.items,
      (item.hasChildren = true ↔ ∃ record ∈ records, record.parent = some item.filepath) ∧
        ((∃ child ∈ store.items, child.parent = some item.id) ↔
          ∃ record ∈ records, Store.lastParent? records record.filepath = some item.filepath) ∧
        ((∃ child ∈ store.items, child.parent = some item.id) → item.hasChildren = true) ∧
        ((∀ record ∈ records, record.parent = some item.filepath →
            Store.lastParent? records record.filepath = some item.filepath) →
          (item.hasChildren = true ↔ ∃ child ∈ store.items, child.parent = some item.id))) ∧
      ∀ (catalog : Catalog α) (hit : Hit),
        hit ∈ (catalog.search store "has:children").1.hits ↔
          ∃ item ∈ store.items, item.hasChildren = true ∧ item.view.hit = hit := by
  intro start records store
  have hlive : start.Live := live_opened Store.consistent_empty configs limits
  have hsound : store.Sound := (hlive.run hordinary).consistent.sound
  have hfamily : store.Family records := by
    refine stored_induction (motive := fun _ records store => store.Family records)
      hlive hordinary Store.family_empty ?_
    intro before call stored batch? earlier next hearlier hbefore heffect
    exact heffect.family hearlier hbefore
  refine ⟨?_, fun catalog hit => Search.mem_hits_hasChildren_iff catalog hsound.healthy⟩
  intro item hitem
  have hflag := hfamily.flagged item hitem
  have hchild := hfamily.exists_child_iff hsound hitem
  have hparent : (∃ child ∈ store.items, child.parent = some item.id) →
      item.hasChildren = true := by
    intro hexists
    obtain ⟨record, hrecord, hlast⟩ := hchild.1 hexists
    obtain ⟨named, hnamed, -, hgiven⟩ := Store.exists_of_lastParent? hlast
    exact hflag.2 ⟨named, hnamed, hgiven⟩
  refine ⟨hflag, hchild, hparent, ?_⟩
  intro hlast
  refine ⟨?_, hparent⟩
  intro hflagged
  obtain ⟨record, hrecord, hgiven⟩ := hflag.1 hflagged
  exact hchild.2 ⟨record, hrecord, hlast record hrecord hgiven⟩

/-- A child that comes a second time without a parent keeps the one that it has. -/
theorem parents_are_found_of_one_child :
    let calls : List Call :=
      [⟨0, 0, .add { filepath := "a.png", contentHash := "0" }⟩,
        ⟨0, 0, .add { filepath := "b.png", contentHash := "1", parent := some "a.png" }⟩,
        ⟨0, 0, .flush⟩,
        ⟨1, 1, .add { filepath := "b.png", contentHash := "2" }⟩,
        ⟨1, 1, .flush⟩]
    let store := ((opened {} (fun _ => {}) (fun _ => 8) : Archive Float).run calls).store
    let catalog : Catalog Float := .fresh {}
    ∃ item ∈ store.items, item.id = 1 ∧
      (item.hasChildren = true ↔ ∃ child ∈ store.items, child.parent = some item.id) ∧
      item.view.hit ∈ (catalog.search store "has:children").1.hits := by
  intro calls store catalog
  have hordinary : ∀ call ∈ calls, call.request.isOrdinary = true := by decide
  obtain ⟨hitems, hfound⟩ :=
    parents_are_found (α := Float) (fun _ => {}) (fun _ => 8) hordinary
  obtain ⟨item, hitem, hid, hflag⟩ :
      ∃ item ∈ store.items, item.id = 1 ∧ item.hasChildren = true := by
    decide
  have hlast : ∀ item ∈ store.items,
      ∀ record ∈ (opened {} (fun _ => {}) (fun _ => 8) : Archive Float).stored calls,
        record.parent = some item.filepath →
          Store.lastParent? ((opened {} (fun _ => {}) (fun _ => 8) : Archive Float).stored calls)
            record.filepath = some item.filepath := by
    decide
  refine ⟨item, hitem, hid, (hitems item hitem).2.2.2 (hlast item hitem), ?_⟩
  exact (hfound catalog _).2 ⟨item, hitem, hflag, rfl⟩

/-- A child that comes a second time with another parent leaves the flag of its first
parent behind, and a search for parents goes on to find that item. -/
theorem former_parent_is_found :
    let calls : List Call :=
      [⟨0, 0, .add { filepath := "a.png", contentHash := "0" }⟩,
        ⟨0, 0, .add { filepath := "b.png", contentHash := "1" }⟩,
        ⟨0, 0, .add { filepath := "c.png", contentHash := "2", parent := some "a.png" }⟩,
        ⟨0, 0, .flush⟩,
        ⟨0, 0, .add { filepath := "c.png", contentHash := "2", parent := some "b.png" }⟩,
        ⟨0, 0, .flush⟩]
    let store := ((opened {} (fun _ => {}) (fun _ => 8) : Archive Float).run calls).store
    let catalog : Catalog Float := .fresh {}
    (∀ call ∈ calls, call.request.isOrdinary = true) ∧
      ∃ item ∈ store.items, item.filepath = "a.png" ∧ item.hasChildren = true ∧
        (∀ child ∈ store.items, child.parent ≠ some item.id) ∧
        item.view.hit ∈ (catalog.search store "has:children").1.hits := by
  intro calls store catalog
  have hordinary : ∀ call ∈ calls, call.request.isOrdinary = true := by decide
  have hhealthy : store.Healthy :=
    (reachable_run (fun _ => {}) (fun _ => 8) hordinary).consistent.sound.healthy
  refine ⟨hordinary, ?_⟩
  obtain ⟨item, hitem, hpath, hflag, hchildless⟩ :
      ∃ item ∈ store.items, item.filepath = "a.png" ∧ item.hasChildren = true ∧
        ∀ child ∈ store.items, child.parent ≠ some item.id := by
    decide
  refine ⟨item, hitem, hpath, hflag, hchildless, ?_⟩
  exact (Search.mem_hits_hasChildren_iff catalog hhealthy).2 ⟨item, hitem, hflag, rfl⟩

end Archive

end Gallery
