import Gallery.Proofs.Store.Healthy

/-!
# Batches

A writer stores what it holds as soon as it holds as many records as it may, so its
limit decides where a list of records is cut into batches.  It decides nothing else:
a batch is stored record by record, and what a batch asks of the store beyond that,
that certain relations are there, no record takes away.  Storing one batch after
another is therefore storing their concatenation (`storeHeld_append`), and an import
under any limit comes to the single batch of all records (`succeeds_importAll_iff`).

Nothing is assumed of the store.  Relations may be missing and the text index may have
drifted.
-/

namespace Gallery

namespace Store

variable {store next : Store}

/-! ## What a record leaves missing -/

theorem updateItem_missing {id : ItemId} {change : StoredItem → StoredItem}
    (hnext : store.updateItem id change = .ok next) : next.missing = store.missing := by
  unfold updateItem at hnext
  obtain ⟨-, -, hnext⟩ := ok_of_bind hnext
  split at hnext
  · cases hnext
    rfl
  · split at hnext
    · cases hnext
    · cases hnext
      rfl

theorem placeItem_missing {record : ItemRecord} {id : ItemId}
    (hnext : store.placeItem record = .ok (id, next)) : next.missing = store.missing := by
  unfold placeItem at hnext
  split at hnext
  · obtain ⟨updated, hupdated, hpair⟩ := ok_of_bind hnext
    cases hpair
    exact updateItem_missing hupdated
  · cases hnext
    rfl

theorem linkParent_missing {child : ItemId} {path : String}
    (hnext : store.linkParent child path = .ok next) : next.missing = store.missing := by
  unfold linkParent at hnext
  obtain ⟨parent, -, hnext⟩ := ok_of_bind hnext
  obtain ⟨joined, hjoined, hnext⟩ := ok_of_bind hnext
  exact (updateItem_missing hnext).trans (updateItem_missing hjoined)

theorem assignTag_missing (id : ItemId) (store : Store) (tag : TagAssignment) :
    (assignTag id store tag).missing = store.missing := by
  obtain ⟨tags, attachments, hassigned⟩ := store.assignTag_frame id tag
  rw [hassigned]

theorem addSource_missing (id : ItemId) (store : Store) (source : String) :
    (addSource id store source).missing = store.missing := by
  unfold addSource
  dsimp only
  split <;> rfl

theorem annotated_missing (store : Store) (id : ItemId) (record : ItemRecord) :
    (store.annotated id record).missing = store.missing := by
  unfold annotated
  apply List.foldlRecOn (motive := fun next : Store => next.missing = store.missing)
  · apply List.foldlRecOn (motive := fun next : Store => next.missing = store.missing)
    · rfl
    · exact fun middle hmiddle tag _ => (assignTag_missing id middle tag).trans hmiddle
  · exact fun middle hmiddle source _ => (addSource_missing id middle source).trans hmiddle

theorem refreshTexts_missing {id : ItemId} (hnext : store.refreshTexts id = .ok next) :
    next.missing = store.missing := by
  unfold refreshTexts at hnext
  obtain ⟨-, -, hnext⟩ := ok_of_bind hnext
  exact updateItem_missing hnext

/-- A stored record leaves missing what was missing. -/
theorem storeRecord_missing {record : ItemRecord} (hnext : store.storeRecord record = .ok next) :
    next.missing = store.missing := by
  unfold storeRecord at hnext
  obtain ⟨⟨id, placed⟩, hplaced, hnext⟩ := ok_of_bind hnext
  have hkept : placed.missing = store.missing := placeItem_missing hplaced
  cases hparent : record.parent with
  | none =>
      simp only [hparent, pure_bind] at hnext
      exact (refreshTexts_missing hnext).trans ((annotated_missing placed id record).trans hkept)
  | some path =>
      simp only [hparent] at hnext
      obtain ⟨joined, hjoined, hnext⟩ := ok_of_bind hnext
      calc
        next.missing = (joined.annotated id record).missing := refreshTexts_missing hnext
        _ = joined.missing := annotated_missing joined id record
        _ = placed.missing := linkParent_missing hjoined
        _ = store.missing := hkept

theorem foldlM_storeRecord_missing {batch : List ItemRecord}
    (hnext : batch.foldlM storeRecord store = .ok next) : next.missing = store.missing := by
  induction batch generalizing store with
  | nil =>
      cases hnext
      rfl
  | cons record batch ih =>
      rw [List.foldlM_cons] at hnext
      obtain ⟨middle, hmiddle, hrest⟩ := ok_of_bind hnext
      exact (ih hrest).trans (storeRecord_missing hmiddle)

/-! ## One batch after another -/

/-- What a writer does with the records that it holds: without any, the store is not
asked. -/
def storeHeld (store : Store) (batch : List ItemRecord) : Except StoreError Store :=
  if batch.isEmpty then .ok store else store.storeBatch batch

theorem require_congr (hmissing : next.missing = store.missing) (relations : List Relation) :
    next.require relations = store.require relations := by
  unfold require
  rw [hmissing]

/-- Storing two batches is storing the one that they make up. -/
theorem storeHeld_append (store : Store) (batch later : List ItemRecord) :
    store.storeHeld (batch ++ later) =
      (store.storeHeld batch >>= fun next => next.storeHeld later) := by
  cases batch with
  | nil => rfl
  | cons record batch =>
      cases later with
      | nil =>
          rw [List.append_nil]
          exact (bind_pure _).symm
      | cons second later =>
          change store.storeBatch (record :: batch ++ second :: later) =
            (store.storeBatch (record :: batch) >>= fun next => next.storeBatch (second :: later))
          unfold storeBatch
          rw [List.foldlM_append]
          cases hneeded : store.require [.items, .textIndex, .tags, .attachments, .sources] with
          | error fault => rfl
          | ok _ =>
              simp only [ok_bind]
              cases hfirst : (record :: batch).foldlM storeRecord store with
              | error fault => rfl
              | ok middle =>
                  have hmissing := foldlM_storeRecord_missing hfirst
                  simp only [ok_bind, require_congr hmissing, hneeded]

end Store

namespace Writer

variable {store next : Store} {writer : Writer} {records : List ItemRecord}

/-! ## Imports -/

/-- What came of an import: the result of each call, and the store at the end. -/
structure Import where
  results : List (Except CatalogError Unit)
  store : Store

namespace Import

def Succeeds (run : Import) : Prop :=
  ∀ result ∈ run.results, result = .ok ()

instance (run : Import) : Decidable run.Succeeds :=
  inferInstanceAs (Decidable (∀ result ∈ run.results, result = .ok ()))

theorem succeeds_cons {result : Except CatalogError Unit} (run : Import) :
    Succeeds { run with results := result :: run.results } ↔ result = .ok () ∧ run.Succeeds :=
  List.forall_mem_cons

end Import

/-- Adds records in order, then flushes. -/
def importAll (writer : Writer) (store : Store) : List ItemRecord → Import
  | [] => ⟨[(writer.flush store).result], (writer.flush store).store⟩
  | record :: later =>
    let call := writer.add store record
    let rest := call.writer.importAll call.store later
    { rest with results := call.result :: rest.results }

theorem flush_eq (writer : Writer) (store : Store) :
    writer.flush store =
      match store.storeHeld writer.buffer with
      | .ok stored => ⟨.ok (), { writer with buffer := [] }, stored, !writer.buffer.isEmpty⟩
      | .error fault => ⟨.error (.store fault), writer, store, false⟩ := by
  obtain ⟨buffer, limit⟩ := writer
  unfold flush Store.storeHeld
  cases buffer with
  | nil => rfl
  | cons record buffer => rfl

theorem succeeds_flush_iff :
    (writer.importAll store []).Succeeds ∧ (writer.importAll store []).store = next ↔
      store.storeHeld writer.buffer = .ok next := by
  simp only [importAll, Import.Succeeds, List.forall_mem_singleton, flush_eq]
  cases store.storeHeld writer.buffer with
  | error fault => simp
  | ok stored => simp

/-- An import goes well if the store takes what the writer holds and all records as one
batch, and leads to the same store.  The writer holds fewer records than it may, which
every call restores. -/
theorem succeeds_importAll_iff (hroom : writer.buffer.length < writer.limit)
    (hvalid : ∀ record ∈ records, record.fault? = none) :
    (writer.importAll store records).Succeeds ∧ (writer.importAll store records).store = next ↔
      store.storeHeld (writer.buffer ++ records) = .ok next := by
  induction records generalizing writer store with
  | nil => rw [succeeds_flush_iff, List.append_nil]
  | cons record later ih =>
      obtain ⟨hrecord, hlater⟩ := List.forall_mem_cons.1 hvalid
      let filled : Writer := { writer with buffer := writer.buffer ++ [record] }
      have hwhole : writer.buffer ++ record :: later = filled.buffer ++ later := by
        simp [filled]
      rw [hwhole]
      by_cases hfull : filled.limit ≤ filled.buffer.length
      · have hadd : writer.add store record = filled.flush store := by
          simp only [add, hrecord]
          exact if_pos hfull
        rw [importAll, hadd, flush_eq, Store.storeHeld_append store filled.buffer later,
          Import.succeeds_cons]
        cases hstored : store.storeHeld filled.buffer with
        | error fault =>
            constructor
            · rintro ⟨⟨hok, -⟩, -⟩
              cases hok
            · intro hok
              cases hok
        | ok stored =>
            have hempty : ({ filled with buffer := [] } : Writer).buffer.length < filled.limit :=
              Nat.zero_lt_of_lt hroom
            simpa [ok_bind] using ih hempty hlater
      · have hadd : writer.add store record = ⟨.ok (), filled, store, false⟩ := by
          simp only [add, hrecord]
          exact if_neg hfull
        rw [importAll, hadd, Import.succeeds_cons]
        simpa using ih (Nat.lt_of_not_le hfull) hlater

/-- How many records a writer may hold makes no difference to an import: whether every
call goes well, and the store that the import leaves, do not depend on it. -/
theorem importAll_limit_irrelevant (store : Store) (first second : Nat)
    (hvalid : ∀ record ∈ records, record.fault? = none) :
    (((withLimit first).importAll store records).Succeeds ↔
        ((withLimit second).importAll store records).Succeeds) ∧
      (((withLimit first).importAll store records).Succeeds →
        ((withLimit first).importAll store records).store =
          ((withLimit second).importAll store records).store) := by
  have hsingle (limit : Nat) (next : Store) :
      ((withLimit limit).importAll store records).Succeeds ∧
          ((withLimit limit).importAll store records).store = next ↔
        store.storeHeld records = .ok next :=
    succeeds_importAll_iff (Nat.lt_of_lt_of_le Nat.zero_lt_one (Nat.le_max_right limit 1)) hvalid
  have hcarried {limit other : Nat}
      (hdone : ((withLimit limit).importAll store records).Succeeds) :
      ((withLimit other).importAll store records).Succeeds ∧
        ((withLimit other).importAll store records).store =
          ((withLimit limit).importAll store records).store :=
    (hsingle other _).2 ((hsingle limit _).1 ⟨hdone, rfl⟩)
  exact ⟨⟨fun hdone => (hcarried hdone).1, fun hdone => (hcarried hdone).1⟩,
    fun hdone => (hcarried hdone).2.symm⟩

/-- A parent, its child and the child again: cut after every record, and stored as the
one batch that fills the writer. -/
theorem importAll_limit_irrelevant_of_three_records :
    let parent : ItemRecord :=
      { filepath := "p.png", contentHash := "0", tags := [{ name := "cat", category := .artist }] }
    let child : ItemRecord :=
      { filepath := "a.png", contentHash := "1", tags := [{ name := "cat" }, { name := "red" }]
        sources := ["Web"], ingestedAt := some 5, parent := some "p.png" }
    let later : ItemRecord :=
      { filepath := "a.png", contentHash := "2", tags := [{ name := "old" }], score := some 7 }
    let records := [parent, child, later]
    let single := (withLimit 1).importAll {} records
    let whole := (withLimit 3).importAll {} records
    (∀ record ∈ records, record.fault? = none) ∧ single.results.length = 4 ∧
      single.store.items.map (fun item => (item.contentHash, item.score, item.hasChildren)) =
        [("0", none, true), ("2", some 7, false)] ∧
      (single.Succeeds ↔ whole.Succeeds) ∧ single.Succeeds ∧ single.store = whole.store := by
  intro parent child later records single whole
  have hvalid : ∀ record ∈ records, record.fault? = none := by decide
  have hdone : single.Succeeds := by decide
  obtain ⟨hsame, hstore⟩ := importAll_limit_irrelevant {} 1 3 hvalid
  exact ⟨hvalid, by decide, by decide, hsame, hdone, hstore hdone⟩

end Writer

end Gallery
