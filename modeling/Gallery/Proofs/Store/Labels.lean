import Gallery.Proofs.Store.Family

/-!
# Source labels

A stored record leaves the labels of its sources behind, each under the number of the
path that it was stored at.  Nothing takes a label away again, and only records bring
labels.  So the labels of an item are those of the records of its path
(`Labelled.mem_sources_iff`).
-/

namespace Gallery

namespace Store

variable {store next : Store} {records : List ItemRecord} {record : ItemRecord} {id : ItemId}

def GivesLabel (record : ItemRecord) (label : String) : Prop :=
  ∃ source ∈ record.sources, storedLabel source = label

instance (record : ItemRecord) (label : String) : Decidable (GivesLabel record label) :=
  inferInstanceAs (Decidable (∃ source ∈ record.sources, storedLabel source = label))

/-! ## Labels after a record -/

theorem mem_sources_addSource_iff (store : Store) (id : ItemId) (source : String)
    (row : SourceLabel) :
    row ∈ (addSource id store source).sources ↔
      row ∈ store.sources ∨ row = ⟨id, storedLabel source⟩ := by
  constructor
  · intro hrow
    unfold addSource at hrow
    dsimp only at hrow
    split at hrow
    · exact .inl hrow
    · exact (List.mem_append.1 hrow).imp_right List.mem_singleton.1
  · rintro (hold | rfl)
    · exact (adds_addSource id store source).sources.subset hold
    · exact mem_sources_addSource store id source

theorem assignTag_sources (id : ItemId) (store : Store) (tag : TagAssignment) :
    (assignTag id store tag).sources = store.sources := by
  obtain ⟨tags, attachments, hassigned⟩ := store.assignTag_frame id tag
  rw [hassigned]

theorem mem_sources_foldl_iff (store : Store) (id : ItemId) (sources : List String)
    (row : SourceLabel) :
    row ∈ (sources.foldl (addSource id) store).sources ↔
      row ∈ store.sources ∨ row.item = id ∧ ∃ source ∈ sources, storedLabel source = row.label := by
  induction sources generalizing store with
  | nil => simp
  | cons source sources ih =>
      have hrow : row = ⟨id, storedLabel source⟩ ↔
          row.item = id ∧ storedLabel source = row.label := by
        rw [SourceLabel.mk.injEq, @eq_comm _ _ row.label]
      rw [List.foldl_cons, ih, mem_sources_addSource_iff, hrow, or_assoc, ← and_or_left,
        List.exists_mem_cons_iff]

theorem mem_sources_annotated_iff (store : Store) (id : ItemId) (record : ItemRecord)
    (row : SourceLabel) :
    row ∈ (store.annotated id record).sources ↔
      row ∈ store.sources ∨ row.item = id ∧ GivesLabel record row.label := by
  have htags : (record.tags.foldl (assignTag id) store).sources = store.sources :=
    List.foldlRecOn (motive := fun next : Store => next.sources = store.sources) record.tags _ rfl
      fun middle hmiddle tag _ => (assignTag_sources id middle tag).trans hmiddle
  rw [← htags]
  exact mem_sources_foldl_iff _ id record.sources row

theorem mem_sources_recorded_iff (store : Store) (id : ItemId) (record : ItemRecord)
    (row : SourceLabel) :
    row ∈ (store.recorded id record).sources ↔
      row ∈ store.sources ∨ row.item = id ∧ GivesLabel record row.label := by
  have hjoined : ((store.alter id (refreshedItem record)).childOf id
      (store.parentId? record)).sources = store.sources := by
    cases store.parentId? record <;> rfl
  rw [← hjoined]
  exact mem_sources_annotated_iff _ id record row

theorem welcomed_sources (store : Store) (record : ItemRecord) :
    (store.welcomed record).sources = store.sources := by
  unfold welcomed
  split <;> rfl

/-! ## Labels after records -/

/-- The labels of a store are those that some records have brought. -/
structure Labelled (store : Store) (records : List ItemRecord) : Prop where
  placed : ∀ record ∈ records, (store.idAt? record.filepath).isSome
  labels : ∀ row, row ∈ store.sources ↔
    ∃ record ∈ records, store.idAt? record.filepath = some row.item ∧ GivesLabel record row.label

theorem labelled_empty : Labelled {} [] := by
  constructor <;> simp

theorem Labelled.of_eq (h : store.Labelled records) (hids : next.idAt? = store.idAt?)
    (hsources : next.sources = store.sources) : next.Labelled records where
  placed := by simpa only [hids] using h.placed
  labels := by simpa only [hids, hsources] using h.labels

theorem Labelled.welcomed (h : store.Labelled records) (record : ItemRecord) :
    (store.welcomed record).Labelled records where
  placed := by
    intro other hother
    rw [idAt?_welcomed_of_isSome (h.placed other hother)]
    exact h.placed other hother
  labels := by
    intro row
    rw [welcomed_sources, h.labels]
    refine exists_congr fun other => and_congr_right fun hother => ?_
    rw [idAt?_welcomed_of_isSome (h.placed other hother)]

theorem Labelled.recorded (h : store.Labelled records)
    (hid : store.idAt? record.filepath = some id) :
    (store.recorded id record).Labelled (records ++ [record]) where
  placed := by
    rw [idAt?_recorded]
    refine List.forall_mem_append.2 ⟨h.placed, ?_⟩
    simp [hid]
  labels := by
    intro row
    rw [idAt?_recorded, mem_sources_recorded_iff, h.labels]
    simp only [List.mem_append, List.mem_singleton, or_and_right, exists_or, exists_eq_left, hid,
      Option.some.injEq, @eq_comm _ id]

theorem Labelled.foldlM_storeRecord {batch : List ItemRecord} (h : store.Labelled records)
    (hhealthy : store.Healthy) (hnext : batch.foldlM storeRecord store = .ok next) :
    next.Labelled (records ++ batch) := by
  induction batch generalizing store records with
  | nil =>
      cases hnext
      rwa [List.append_nil]
  | cons record batch ih =>
      rw [List.foldlM_cons] at hnext
      obtain ⟨middle, hmiddle, hrest⟩ := ok_of_bind hnext
      have hthen : middle.Healthy := hhealthy.storeRecord hmiddle
      obtain ⟨id, hid, -, rfl⟩ := storeRecord_eq_recorded hhealthy hmiddle
      have hmore := (h.welcomed record).recorded hid
      rw [← List.singleton_append, ← List.append_assoc]
      exact ih hmore hthen hrest

theorem Labelled.mem_sources_iff (h : store.Labelled records) (hsound : store.Sound)
    {item : StoredItem} (hitem : item ∈ store.items) {label : String} :
    ⟨item.id, label⟩ ∈ store.sources ↔
      ∃ record ∈ records, record.filepath = item.filepath ∧ GivesLabel record label := by
  rw [h.labels]
  refine exists_congr fun record => and_congr_right fun _ => ?_
  rw [hsound.idAt?_eq_some_iff hitem]

theorem Labelled.exists_item (h : store.Labelled records) (hrecord : record ∈ records) :
    ∃ item ∈ store.items, item.filepath = record.filepath := by
  obtain ⟨id, hid⟩ := Option.isSome_iff_exists.1 (h.placed record hrecord)
  obtain ⟨item, hitem, -⟩ := Option.map_eq_some_iff.1 hid
  exact ⟨item, mem_of_itemAt? hitem⟩

end Store

end Gallery
