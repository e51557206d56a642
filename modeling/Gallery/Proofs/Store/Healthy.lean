import Gallery.Writer
import Mathlib.Tactic

/-!
# Writing to a healthy store

While no relation is missing and the text index has not drifted, a write can only
fail for want of an item at a path.  The statements of this file replace every
write by a plain function of the relations; whatever is proved about stores later
is proved about these functions.  All of them leave the store healthy.
-/

namespace Gallery

theorem ok_of_bind
    {ε α β : Type} {first : Except ε α} {next : α → Except ε β} {b : β}
    (hboth : (first >>= next) = .ok b) : ∃ a, first = .ok a ∧ next a = .ok b := by
  cases first with
  | error fault => cases hboth
  | ok a => exact ⟨a, rfl, hboth⟩

theorem ok_bind {ε α β : Type} (a : α) (next : α → Except ε β) :
    (Except.ok a >>= next) = next a := rfl

namespace Store

theorem Healthy.of_eq {store next : Store} (h : store.Healthy)
    (hmissing : next.missing = store.missing) (hdrift : next.drift = store.drift) :
    next.Healthy :=
  ⟨hmissing.trans h.1, hdrift.trans h.2⟩

/-! ## Items -/

def alter (store : Store) (id : ItemId) (change : StoredItem → StoredItem) : Store :=
  { store with
    items := store.items.map fun item => if item.id = id then change item else item }

theorem Healthy.alter {store : Store} (h : store.Healthy) (id : ItemId)
    (change : StoredItem → StoredItem) : (store.alter id change).Healthy :=
  h.of_eq rfl rfl

theorem driftAfter_of_healthy {store : Store} (h : store.Healthy)
    (item changed : StoredItem) : store.driftAfter item changed = store.drift := by
  simp [driftAfter, h.2]

theorem driftWith_of_healthy {store : Store} (h : store.Healthy) (item : StoredItem) :
    store.driftWith item = store.drift := by
  simp [driftWith, h.2]

theorem alter_eq_self_of_absent {store : Store} {id : ItemId}
    {change : StoredItem → StoredItem} (habsent : ∀ item ∈ store.items, item.id ≠ id) :
    store.alter id change = store := by
  have hitems :
      (store.items.map fun item => if item.id = id then change item else item) =
        store.items := by
    conv_rhs => rw [← List.map_id store.items]
    apply List.map_congr_left
    intro item hitem
    simp [habsent item hitem]
  unfold alter
  rw [hitems]

theorem updateItem_of_healthy {store : Store} (h : store.Healthy) (id : ItemId)
    (change : StoredItem → StoredItem) :
    store.updateItem id change = .ok (store.alter id change) := by
  unfold updateItem
  rw [require_of_healthy h]
  cases hitem : store.itemWithId? id with
  | none =>
      have habsent : ∀ item ∈ store.items, item.id ≠ id := by
        intro item hmem
        simpa using List.find?_eq_none.1 hitem item hmem
      rw [alter_eq_self_of_absent habsent]
      rfl
  | some item =>
      simp only [h.2, ne_eq, not_true_eq_false, decide_false, Bool.false_and,
        driftAfter_of_healthy h]
      rw [alter, ← h.2]
      rfl

theorem itemIdAt_of_healthy {store : Store} (h : store.Healthy) (path : String) :
    store.itemIdAt path =
      match store.itemAt? path with
      | some item => .ok item.id
      | none => .error (.noItem path) := by
  unfold itemIdAt
  rw [require_of_healthy h]
  rfl

/-- The store with the item of a record in it, and the number of this item. -/
def placed (store : Store) (record : ItemRecord) : ItemId × Store :=
  match store.itemAt? record.filepath with
  | some item => (item.id, store.alter item.id (refreshedItem record))
  | none =>
    (nextId (store.items.map (·.id)),
      { store with
        items := store.items ++ [newItem (nextId (store.items.map (·.id))) record] })

theorem placeItem_of_healthy {store : Store} (h : store.Healthy) (record : ItemRecord) :
    store.placeItem record = .ok (store.placed record) := by
  unfold placeItem placed
  cases store.itemAt? record.filepath with
  | some item =>
      simp only [updateItem_of_healthy h]
      rfl
  | none =>
      simp only [driftWith_of_healthy h]
      rfl

theorem Healthy.placed {store : Store} (h : store.Healthy) (record : ItemRecord) :
    (store.placed record).2.Healthy := by
  unfold Store.placed
  split
  · exact h.alter _ _
  · exact h.of_eq rfl rfl

def linked (store : Store) (child parent : ItemId) : Store :=
  (store.alter child fun item => { item with parent := some parent }).alter parent
    fun item => { item with hasChildren := true }

theorem Healthy.linked {store : Store} (h : store.Healthy) (child parent : ItemId) :
    (store.linked child parent).Healthy :=
  (h.alter _ _).alter _ _

/-- The store in which an item is the child of the item at a path, if one is given. -/
def joinedTo (store : Store) (child : ItemId) (parent? : Option String) :
    Except StoreError Store :=
  match parent? with
  | none => .ok store
  | some path =>
    match store.itemAt? path with
    | some parent => .ok (store.linked child parent.id)
    | none => .error (.noItem path)

theorem Healthy.joinedTo {store next : Store} (h : store.Healthy) {child : ItemId}
    {parent? : Option String} (hnext : store.joinedTo child parent? = .ok next) :
    next.Healthy := by
  unfold Store.joinedTo at hnext
  split at hnext
  · cases hnext
    exact h
  · split at hnext
    · cases hnext
      exact h.linked _ _
    · cases hnext

theorem linkParent_of_healthy {store : Store} (h : store.Healthy) (child : ItemId)
    (path : String) : store.linkParent child path = store.joinedTo child (some path) := by
  unfold linkParent joinedTo
  rw [itemIdAt_of_healthy h]
  dsimp only
  cases store.itemAt? path with
  | none => rfl
  | some parent =>
      change store.updateItem child _ >>= (fun next => next.updateItem parent.id _) = _
      rw [updateItem_of_healthy h]
      exact updateItem_of_healthy (h.alter _ _) _ _

def refreshed (store : Store) (id : ItemId) : Store :=
  store.alter id fun item => { item with tags := store.attachedTexts id }

theorem Healthy.refreshed {store : Store} (h : store.Healthy) (id : ItemId) :
    (store.refreshed id).Healthy :=
  h.alter _ _

theorem refreshTexts_of_healthy {store : Store} (h : store.Healthy) (id : ItemId) :
    store.refreshTexts id = .ok (store.refreshed id) := by
  unfold refreshTexts
  rw [require_of_healthy h]
  exact updateItem_of_healthy h _ _

theorem refreshAll_of_healthy {store : Store} (h : store.Healthy) (ids : List ItemId) :
    store.refreshAll ids = .ok (ids.foldl refreshed store) := by
  induction ids generalizing store with
  | nil => rfl
  | cons id ids ih =>
      have hhead : store.refreshTexts id = .ok (store.refreshed id) :=
        refreshTexts_of_healthy h id
      simp only [refreshAll, List.foldlM_cons, hhead, List.foldl_cons]
      exact ih (h.refreshed id)

/-! ## Tags and attachments -/

theorem Healthy.placeTag {store : Store} (h : store.Healthy) (name : String)
    (category : Category) (subcategory : Option Subcategory) :
    (store.placeTag name category subcategory).2.Healthy := by
  unfold Store.placeTag
  split
  · exact h
  · exact h.of_eq rfl rfl

theorem Healthy.attach {store : Store} (h : store.Healthy) (item : ItemId) (tag : TagId)
    (provenance : Provenance) : (store.attach item tag provenance).Healthy := by
  unfold Store.attach
  split
  · exact h
  · exact h.of_eq rfl rfl

theorem Healthy.assignTag {store : Store} (h : store.Healthy) (item : ItemId)
    (tag : TagAssignment) : (Store.assignTag item store tag).Healthy :=
  (h.placeTag _ _ _).attach _ _ _

theorem assignTag_frame (store : Store) (item : ItemId) (tag : TagAssignment) :
    ∃ tags attachments,
      assignTag item store tag = { store with tags := tags, attachments := attachments } := by
  obtain ⟨tags, hplaced⟩ : ∃ tags, (store.placeTag tag.name tag.effectiveCategory
      tag.effectiveSubcategory).2 = { store with tags := tags } := by
    unfold placeTag
    split
    · exact ⟨store.tags, rfl⟩
    · exact ⟨_, rfl⟩
  unfold assignTag
  dsimp only
  rw [hplaced, attach]
  split
  · exact ⟨tags, store.attachments, rfl⟩
  · exact ⟨tags, _, rfl⟩

theorem Healthy.addSource {store : Store} (h : store.Healthy) (item : ItemId)
    (source : String) : (Store.addSource item store source).Healthy := by
  unfold Store.addSource
  simp only
  split
  · exact h
  · exact h.of_eq rfl rfl

def annotated (store : Store) (id : ItemId) (record : ItemRecord) : Store :=
  record.sources.foldl (addSource id) (record.tags.foldl (assignTag id) store)

theorem Healthy.annotated {store : Store} (h : store.Healthy) (id : ItemId)
    (record : ItemRecord) : (store.annotated id record).Healthy := by
  unfold Store.annotated
  apply List.foldlRecOn
  · exact List.foldlRecOn _ _ h fun _ hstore tag _ => hstore.assignTag id tag
  · exact fun _ hstore source _ => hstore.addSource id source

/-! ## Batches -/

/-- A record is stored by placing its item, joining it to its parent, adding its
tags and sources and writing its texts; only the parent can be wanting. -/
theorem storeRecord_of_healthy {store : Store} (h : store.Healthy) (record : ItemRecord) :
    store.storeRecord record =
      ((store.placed record).2.joinedTo (store.placed record).1 record.parent).map
        fun next =>
          (next.annotated (store.placed record).1 record).refreshed (store.placed record).1 := by
  have hplaced := h.placed record
  unfold storeRecord
  rw [placeItem_of_healthy h]
  cases record.parent with
  | none =>
      exact refreshTexts_of_healthy (hplaced.annotated (store.placed record).1 record) _
  | some path =>
      change ((store.placed record).2.linkParent (store.placed record).1 path >>= fun next =>
        (next.annotated (store.placed record).1 record).refreshTexts (store.placed record).1) = _
      rw [linkParent_of_healthy hplaced]
      cases hjoined : (store.placed record).2.joinedTo (store.placed record).1 (some path) with
      | error fault => rfl
      | ok joined =>
          have hhealthy := hplaced.joinedTo hjoined
          exact refreshTexts_of_healthy (hhealthy.annotated (store.placed record).1 record) _

theorem storeRecord_ok {store next : Store} (h : store.Healthy) {record : ItemRecord}
    (hnext : store.storeRecord record = .ok next) :
    ∃ joined,
      (store.placed record).2.joinedTo (store.placed record).1 record.parent = .ok joined ∧
      next =
        (joined.annotated (store.placed record).1 record).refreshed
          (store.placed record).1 := by
  rw [storeRecord_of_healthy h] at hnext
  cases hjoined : (store.placed record).2.joinedTo (store.placed record).1 record.parent with
  | error fault =>
      rw [hjoined] at hnext
      cases hnext
  | ok joined =>
      rw [hjoined] at hnext
      cases hnext
      exact ⟨joined, rfl, rfl⟩

theorem Healthy.storeRecord {store next : Store} (h : store.Healthy) {record : ItemRecord}
    (hnext : store.storeRecord record = .ok next) : next.Healthy := by
  obtain ⟨joined, hjoined, rfl⟩ := storeRecord_ok h hnext
  exact (((h.placed record).joinedTo hjoined).annotated _ record).refreshed _

theorem storeBatch_of_healthy {store : Store} (h : store.Healthy)
    (batch : List ItemRecord) :
    store.storeBatch batch = batch.foldlM storeRecord store := by
  unfold storeBatch
  rw [require_of_healthy h]
  rfl

/-- What every stored record keeps is kept by a stored batch. -/
theorem storeBatch_induction {motive : Store → Prop} {store next : Store}
    {batch : List ItemRecord} (h : store.Healthy) (hstore : motive store)
    (hstep : ∀ before after record, before.Healthy → motive before → record ∈ batch →
      before.storeRecord record = .ok after → motive after)
    (hnext : store.storeBatch batch = .ok next) : next.Healthy ∧ motive next := by
  rw [storeBatch_of_healthy h] at hnext
  induction batch generalizing store with
  | nil =>
      cases hnext
      exact ⟨h, hstore⟩
  | cons record batch ih =>
      rw [List.foldlM_cons] at hnext
      cases hfirst : store.storeRecord record with
      | error fault =>
          rw [hfirst] at hnext
          cases hnext
      | ok middle =>
          rw [hfirst] at hnext
          have hmiddle : motive middle :=
            hstep store middle record h hstore List.mem_cons_self hfirst
          exact ih (h.storeRecord hfirst) hmiddle
            (fun before after later hbefore hmotive hlater =>
              hstep before after later hbefore hmotive (List.mem_cons_of_mem record hlater))
            hnext

end Store

end Gallery
