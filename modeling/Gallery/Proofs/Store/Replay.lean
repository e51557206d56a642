import Gallery.Proofs.Store.Recording

/-!
# Storing records again

Records that were stored can be stored again, all of them or the first few, and
nothing comes of it.  A store that took a record in goes on to hold it
(`Holds`), whatever records come later: its path has a number, its tags and sources
are there, its texts are up to date.  Storing a held record again only rewrites the
columns of its item that a record gives (`again`).  Of those the last value wins, or
the last that is given, so a second run over the same records rewrites every item
to what it already is (`foldlM_storeRecord_again`).
-/

namespace Gallery

namespace Store

variable {store next : Store} {id : ItemId} {record : ItemRecord}

/-! ## Held records -/

/-- A store holds a record as that of the item with a number. -/
structure Holds (store : Store) (id : ItemId) (record : ItemRecord) : Prop where
  path : store.idAt? record.filepath = some id
  parent : ∀ path ∈ record.parent, ∃ parent, store.idAt? path = some parent ∧
    ∀ item ∈ store.items, item.id = parent → item.hasChildren = true
  bears : store.Bears id record
  texts : ∀ item ∈ store.items, item.id = id → item.tags = store.attachedTexts id

theorem exists_of_mem_recorded {later : ItemRecord} {other : ItemId} {item : StoredItem}
    (hitem : item ∈ (store.recorded other later).items) :
    ∃ old ∈ store.items,
      item = rowAfter later other (store.parentId? later)
        ((store.recorded other later).attachedTexts other) old := by
  rw [items_recorded] at hitem
  obtain ⟨old, hold, rfl⟩ := List.mem_map.1 hitem
  exact ⟨old, hold, rfl⟩

theorem holds_recorded (hid : store.idAt? record.filepath = some id)
    (hparents : ∀ path ∈ record.parent, (store.idAt? path).isSome) :
    (store.recorded id record).Holds id record where
  path := by rw [idAt?_recorded, hid]
  parent := by
    intro path hpath
    obtain ⟨parent, hparent⟩ := Option.isSome_iff_exists.1 (hparents path hpath)
    refine ⟨parent, by rw [idAt?_recorded, hparent], ?_⟩
    intro item hitem heq
    obtain ⟨old, -, rfl⟩ := exists_of_mem_recorded hitem
    rw [rowAfter_id] at heq
    have hasked : store.parentId? record = some old.id := by
      rw [parentId?, Option.mem_def.1 hpath, Option.bind_some, hparent, heq]
    simp [rowAfter, hasked]
  bears := store.bears_recorded id record
  texts := by
    intro item hitem heq
    obtain ⟨old, -, rfl⟩ := exists_of_mem_recorded hitem
    rw [rowAfter_id] at heq
    exact if_pos heq

/-- A held record is held while other records, or the same again, are stored. -/
theorem Holds.recorded (h : store.Holds id record) (hrefs : store.Referential)
    (other : ItemId) (later : ItemRecord) : (store.recorded other later).Holds id record where
  path := by rw [idAt?_recorded, h.path]
  parent := by
    intro path hpath
    obtain ⟨parent, hparent, hchildren⟩ := h.parent path hpath
    refine ⟨parent, by rw [idAt?_recorded, hparent], ?_⟩
    intro item hitem heq
    obtain ⟨old, hold, rfl⟩ := exists_of_mem_recorded hitem
    rw [rowAfter_id] at heq
    simp [rowAfter, hchildren old hold heq]
  bears := h.bears.adds (store.adds_recorded other later)
  texts := by
    intro item hitem heq
    obtain ⟨old, hold, rfl⟩ := exists_of_mem_recorded hitem
    rw [rowAfter_id] at heq
    simp only [rowAfter, heq]
    split
    · next hother => rw [hother]
    · next hother =>
        have htags := (store.adds_recorded other later).tagsOf_of_ne hrefs hother
        rw [h.texts old hold heq, attachedTexts_congr htags]

theorem welcomed_cases (store : Store) (record : ItemRecord) :
    store.welcomed record = store ∨
      store.welcomed record =
        { store with
          items := store.items ++ [newItem (nextId (store.items.map (·.id))) record] } := by
  unfold welcomed
  split
  · exact .inl rfl
  · exact .inr rfl

theorem ne_of_idAt? {path : String} (hid : store.idAt? path = some id) :
    nextId (store.items.map (·.id)) ≠ id := by
  rintro rfl
  obtain ⟨item, hitem, heq⟩ := exists_item_of_idAt? hid
  exact nextId_notMem (store.items.map (·.id)) (List.mem_map.2 ⟨item, hitem, heq⟩)

theorem idAt?_welcomed {path : String} (hid : store.idAt? path = some id)
    (later : ItemRecord) : (store.welcomed later).idAt? path = some id := by
  rcases store.welcomed_cases later with hsame | hnew
  · rw [hsame, hid]
  · obtain ⟨item, hitem, rfl⟩ := Option.map_eq_some_iff.1 hid
    unfold itemAt? at hitem
    simp [hnew, idAt?, itemAt?, List.find?_append, hitem]

/-- An item of a store with a new item is old, or has the number of no path. -/
theorem mem_items_welcomed {later : ItemRecord} {item : StoredItem} {path : String}
    (hitem : item ∈ (store.welcomed later).items) (hid : store.idAt? path = some item.id) :
    item ∈ store.items := by
  rcases store.welcomed_cases later with hsame | hnew
  · rwa [hsame] at hitem
  · rw [hnew] at hitem
    rcases List.mem_append.1 hitem with hold | hlast
    · exact hold
    · rcases List.mem_singleton.1 hlast with rfl
      exact absurd rfl (ne_of_idAt? hid)

theorem Holds.welcomed (h : store.Holds id record) (later : ItemRecord) :
    (store.welcomed later).Holds id record where
  path := idAt?_welcomed h.path later
  parent := by
    intro path hpath
    obtain ⟨parent, hparent, hchildren⟩ := h.parent path hpath
    refine ⟨parent, idAt?_welcomed hparent later, ?_⟩
    rintro item hitem rfl
    exact hchildren item (mem_items_welcomed hitem hparent) rfl
  bears := by
    rcases store.welcomed_cases later with hsame | hnew
    · rw [hsame]
      exact h.bears
    · rw [hnew]
      exact ⟨h.bears.tags, h.bears.sources⟩
  texts := by
    rintro item hitem rfl
    have hshown := h.texts item (mem_items_welcomed hitem h.path) rfl
    rcases store.welcomed_cases later with hsame | hnew
    · rw [hsame, hshown]
    · rw [hnew, hshown]
      rfl

/-- What storing a record does to a store that has its item, new or old. -/
theorem storeRecord_eq_recorded (h : store.Healthy) (hnext : store.storeRecord record = .ok next) :
    ∃ id, (store.welcomed record).idAt? record.filepath = some id ∧
      (∀ path ∈ record.parent, ((store.welcomed record).idAt? path).isSome) ∧
      next = (store.welcomed record).recorded id record := by
  obtain ⟨id, hid⟩ := store.exists_idAt?_welcomed record
  rw [← storeRecord_welcomed h, storeRecord_eq_ok_iff (h.welcomed record) hid] at hnext
  exact ⟨id, hid, hnext⟩

/-! ## Storing a held record -/

/-- An item after a record that the store holds came again. -/
def again (store : Store) (item : StoredItem) (record : ItemRecord) : StoredItem :=
  if store.idAt? record.filepath = some item.id then
    rewritten record (store.parentId? record) item
  else item

def mapItems (store : Store) (change : StoredItem → StoredItem) : Store :=
  { store with items := store.items.map change }

theorem Holds.recorded_eq (h : store.Holds id record) :
    store.recorded id record = store.mapItems (store.again · record) := by
  have hlinked : ((store.alter id (refreshedItem record)).childOf id
      (store.parentId? record)).Bears id record := by
    have haltered : Adds store (store.alter id (refreshedItem record)) id :=
      .of_eq (by rfl) (by rfl) (by rfl) id
    exact h.bears.adds (haltered.trans (adds_childOf _ id (store.parentId? record) id))
  have hrest : store.recorded id record =
      { store with items := (store.recorded id record).items } := by
    unfold Store.recorded
    rw [hlinked.annotated_eq]
    cases store.parentId? record with
    | none => rfl
    | some parent => rfl
  have htexts : (store.recorded id record).attachedTexts id = store.attachedTexts id := by
    rw [hrest]
    rfl
  have hitems : (store.recorded id record).items = store.items.map (store.again · record) := by
    rw [items_recorded, htexts]
    apply List.map_congr_left
    intro item hitem
    have hchildren : store.parentId? record = some item.id → item.hasChildren = true := by
      intro hasked
      obtain ⟨path, hpath, hfound⟩ := Option.bind_eq_some_iff.1 hasked
      obtain ⟨parent, hparent, hall⟩ := h.parent path hpath
      rw [hfound] at hparent
      cases hparent
      exact hall item hitem rfl
    have hkept : (item.hasChildren || decide (store.parentId? record = some item.id)) =
        item.hasChildren := by
      by_cases hasked : store.parentId? record = some item.id
      · simp [hchildren hasked]
      · simp [hasked]
    unfold rowAfter again
    rw [hkept, h.path]
    by_cases hown : item.id = id
    · simp [hown, ← h.texts item hitem hown, rewritten, refreshedItem]
    · simp [hown, @eq_comm _ id]
  rw [hrest, hitems]
  rfl

theorem Holds.storeRecord_eq (h : store.Holds id record) (hhealthy : store.Healthy) :
    store.storeRecord record = .ok (store.mapItems (store.again · record)) := by
  have hparents : ∀ path ∈ record.parent, (store.idAt? path).isSome := by
    intro path hpath
    obtain ⟨parent, hparent, -⟩ := h.parent path hpath
    rw [hparent]
    rfl
  exact (storeRecord_eq_ok_iff hhealthy h.path).2 ⟨hparents, h.recorded_eq.symm⟩

def rerun (store : Store) (batch : List ItemRecord) (item : StoredItem) : StoredItem :=
  batch.foldl store.again item

/-- What comes again reads the paths of the store and nothing else of it. -/
theorem again_congr (hids : next.idAt? = store.idAt?) : next.again = store.again := by
  funext item record
  unfold again parentId?
  rw [hids]

theorem foldlM_storeRecord_of_held {batch : List ItemRecord} (hhealthy : store.Healthy)
    (hrefs : store.Referential) (hheld : ∀ record ∈ batch, ∃ id, store.Holds id record) :
    batch.foldlM storeRecord store = .ok (store.mapItems (store.rerun batch)) := by
  induction batch generalizing store with
  | nil =>
      have hitems : store.items.map (store.rerun []) = store.items := List.map_id _
      rw [mapItems, hitems]
      rfl
  | cons record batch ih =>
      obtain ⟨id, hid⟩ := hheld record List.mem_cons_self
      have hrecorded := hid.recorded_eq
      have hids : (store.recorded id record).again = store.again :=
        again_congr (idAt?_recorded store id record)
      have hrerun : (store.recorded id record).rerun batch = store.rerun batch := by
        funext item
        rw [rerun, hids, rerun]
      have hstored := hid.storeRecord_eq hhealthy
      rw [← hrecorded] at hstored
      have hrest := ih (hhealthy.storeRecord hstored) (hrefs.recorded id record)
        fun later hlater => by
          obtain ⟨other, hother⟩ := hheld later (List.mem_cons_of_mem record hlater)
          exact ⟨other, hother.recorded hrefs id record⟩
      rw [List.foldlM_cons, hstored]
      refine hrest.trans ?_
      rw [hrerun, hrecorded]
      simp only [mapItems, List.map_map]
      rfl

/-! ## Rewriting to what is there -/

theorem rewritten_absorbs (record later : ItemRecord) (parent? asked? : Option ItemId)
    (item : StoredItem) :
    rewritten later asked? (rewritten record parent? (rewritten later asked? item)) =
      rewritten later asked? (rewritten record parent? item) := by
  cases hingested : later.ingestedAt <;> cases asked? <;>
    simp [rewritten, refreshedItem, hingested]

theorem rewritten_rewritten (record : ItemRecord) (parent? : Option ItemId)
    (item : StoredItem) :
    rewritten record parent? (rewritten record parent? item) = rewritten record parent? item := by
  cases hingested : record.ingestedAt <;> cases parent? <;>
    simp [rewritten, refreshedItem, hingested]

theorem rewritten_id (record : ItemRecord) (parent? : Option ItemId) (item : StoredItem) :
    (rewritten record parent? item).id = item.id :=
  rfl

theorem again_again (store : Store) (item : StoredItem) (record : ItemRecord) :
    store.again (store.again item record) record = store.again item record := by
  by_cases hown : store.idAt? record.filepath = some item.id
  · simp [again, hown, rewritten_id, rewritten_rewritten]
  · simp [again, hown]

/-- What comes last leaves no trace of having been there before. -/
theorem again_absorbs (store : Store) (item : StoredItem) (record later : ItemRecord) :
    store.again (store.again (store.again item later) record) later =
      store.again (store.again item record) later := by
  by_cases hlater : store.idAt? later.filepath = some item.id
  · by_cases hown : store.idAt? record.filepath = some item.id
    · simp [again, hown, hlater, rewritten_id, rewritten_absorbs]
    · simp [again, hown, hlater, rewritten_id, rewritten_rewritten]
  · by_cases hown : store.idAt? record.filepath = some item.id
    · simp [again, hown, hlater, rewritten_id]
    · simp [again, hown, hlater]

theorem again_rerun_again (store : Store) (batch : List ItemRecord) (item : StoredItem)
    (later : ItemRecord) :
    store.again (store.rerun batch (store.again item later)) later =
      store.again (store.rerun batch item) later := by
  induction batch generalizing item with
  | nil => exact store.again_again item later
  | cons record batch ih =>
      calc
        store.again (store.rerun batch (store.again (store.again item later) record)) later =
            store.again (store.rerun batch
              (store.again (store.again (store.again item later) record) later)) later :=
          (ih _).symm
        _ = store.again (store.rerun batch
              (store.again (store.again item record) later)) later := by
          rw [again_absorbs]
        _ = store.again (store.rerun batch (store.again item record)) later := ih _

/-- The columns that no record gives play no part. -/
theorem rerun_shown (store : Store) (batch : List ItemRecord) (item : StoredItem)
    (tags : CategoryTags) (hasChildren : Bool) :
    store.rerun batch { item with tags := tags, hasChildren := hasChildren } =
      { store.rerun batch item with tags := tags, hasChildren := hasChildren } := by
  induction batch generalizing item with
  | nil => rfl
  | cons record batch ih =>
      have hfirst :
          store.again { item with tags := tags, hasChildren := hasChildren } record =
            { store.again item record with tags := tags, hasChildren := hasChildren } := by
        unfold again
        dsimp only
        split <;> rfl
      change store.rerun batch (store.again _ record) = _
      rw [hfirst]
      exact ih _

/-! ## What a batch leaves behind -/

/-- A store has absorbed records if it holds them and no item would change if they
came again. -/
structure Absorbed (store : Store) (batch : List ItemRecord) : Prop where
  held : ∀ record ∈ batch, ∃ id, store.Holds id record
  unchanged : ∀ item ∈ store.items, store.rerun batch item = item

theorem Holds.again_welcomed (h : store.Holds id record) (later : ItemRecord)
    (item : StoredItem) : (store.welcomed later).again item record = store.again item record := by
  have hparent : (store.welcomed later).parentId? record = store.parentId? record := by
    unfold parentId?
    cases hasked : record.parent with
    | none => rfl
    | some path =>
        obtain ⟨parent, hparent, -⟩ := h.parent path hasked
        simp [hparent, idAt?_welcomed hparent later]
  rw [again, again, hparent, h.path, idAt?_welcomed h.path later]

/-- No record that is held is that of a new item. -/
theorem Absorbed.welcomed {batch : List ItemRecord} (h : store.Absorbed batch)
    (later : ItemRecord) : (store.welcomed later).Absorbed batch where
  held := by
    intro record hrecord
    obtain ⟨id, hid⟩ := h.held record hrecord
    exact ⟨id, hid.welcomed later⟩
  unchanged := by
    intro item hitem
    have hrerun : (store.welcomed later).rerun batch item = store.rerun batch item := by
      refine List.foldl_ext _ _ _ fun x record hrecord => ?_
      obtain ⟨id, hid⟩ := h.held record hrecord
      exact hid.again_welcomed later x
    rw [hrerun]
    rcases store.welcomed_cases later with hsame | hnew
    · rw [hsame] at hitem
      exact h.unchanged item hitem
    · rw [hnew] at hitem
      rcases List.mem_append.1 hitem with hold | hlast
      · exact h.unchanged item hold
      · rcases List.mem_singleton.1 hlast with rfl
        refine List.foldlRecOn (motive := fun x : StoredItem => x = newItem _ later) batch _ rfl
          ?_
        rintro _ rfl record hrecord
        obtain ⟨id, hid⟩ := h.held record hrecord
        refine if_neg ?_
        rw [hid.path, Option.some.injEq]
        exact (ne_of_idAt? hid.path).symm

theorem rowAfter_eq_again (hid : store.idAt? record.filepath = some id)
    (texts : CategoryTags) (item : StoredItem) :
    rowAfter record id (store.parentId? record) texts item =
      { store.again item record with
        tags := if item.id = id then texts else item.tags
        hasChildren := item.hasChildren || store.parentId? record = some item.id } := by
  unfold rowAfter again
  rw [hid]
  simp only [Option.some.injEq, @eq_comm _ id]

theorem Absorbed.recorded {batch : List ItemRecord} (h : store.Absorbed batch)
    (hrefs : store.Referential) (hid : store.idAt? record.filepath = some id)
    (hparents : ∀ path ∈ record.parent, (store.idAt? path).isSome) :
    (store.recorded id record).Absorbed (batch ++ [record]) where
  held := by
    intro later hlater
    rcases List.mem_append.1 hlater with hold | hnew
    · obtain ⟨other, hother⟩ := h.held later hold
      exact ⟨other, hother.recorded hrefs id record⟩
    · rcases List.mem_singleton.1 hnew with rfl
      exact ⟨id, holds_recorded hid hparents⟩
  unchanged := by
    intro item hitem
    obtain ⟨old, hold, rfl⟩ := exists_of_mem_recorded hitem
    have hids : (store.recorded id record).again = store.again :=
      again_congr (idAt?_recorded store id record)
    have hlast : store.rerun (batch ++ [record]) (store.again old record) =
        store.again old record :=
      calc
        store.rerun (batch ++ [record]) (store.again old record) =
            store.again (store.rerun batch (store.again old record)) record :=
          List.foldl_append
        _ = store.again (store.rerun batch old) record := again_rerun_again _ _ _ _
        _ = store.again old record := by rw [h.unchanged old hold]
    rw [rowAfter_eq_again hid, rerun, hids]
    refine (rerun_shown store (batch ++ [record]) _ _ _).trans ?_
    rw [hlast]

theorem absorbed_nil (store : Store) : store.Absorbed [] where
  held := by simp
  unchanged := fun _ _ => rfl

theorem Absorbed.foldlM_storeRecord {done batch : List ItemRecord} (h : store.Absorbed done)
    (hhealthy : store.Healthy) (hrefs : store.Referential)
    (hnext : batch.foldlM storeRecord store = .ok next) :
    next.Absorbed (done ++ batch) ∧ next.Healthy ∧ next.Referential := by
  induction batch generalizing store done with
  | nil =>
      cases hnext
      exact ⟨by rwa [List.append_nil], hhealthy, hrefs⟩
  | cons record batch ih =>
      rw [List.foldlM_cons] at hnext
      obtain ⟨middle, hmiddle, hrest⟩ := ok_of_bind hnext
      obtain ⟨id, hid, hparents, rfl⟩ := storeRecord_eq_recorded hhealthy hmiddle
      have hwelcomed := hrefs.welcomed record
      have hmore := (h.welcomed record).recorded hwelcomed hid hparents
      rw [← List.singleton_append, ← List.append_assoc]
      exact ih hmore (hhealthy.storeRecord hmiddle) (hwelcomed.recorded id record) hrest

theorem foldlM_storeRecord_again {batch : List ItemRecord} (hhealthy : store.Healthy)
    (hrefs : store.Referential) (hnext : batch.foldlM storeRecord store = .ok next) :
    batch.foldlM storeRecord next = .ok next := by
  obtain ⟨habsorbed, hhealthyNext, hrefsNext⟩ :=
    (absorbed_nil store).foldlM_storeRecord hhealthy hrefs hnext
  rw [List.nil_append] at habsorbed
  have hitems : next.items.map (next.rerun batch) = next.items := by
    conv_rhs => rw [← List.map_id next.items]
    exact List.map_congr_left habsorbed.unchanged
  rw [foldlM_storeRecord_of_held hhealthyNext hrefsNext habsorbed.held, mapItems, hitems]

end Store

namespace Writer

variable {store : Store}

theorem flush_of_healthy (hhealthy : store.Healthy) (writer : Writer) {next : Store} :
    (writer.flush store).result = .ok () ∧ (writer.flush store).store = next ↔
      writer.buffer.foldlM Store.storeRecord store = .ok next := by
  unfold flush
  cases hbuffer : writer.buffer with
  | nil => exact ⟨fun h => congrArg Except.ok h.2, fun h => ⟨rfl, Except.ok.inj h⟩⟩
  | cons record batch =>
      rw [Store.storeBatch_of_healthy hhealthy]
      cases List.foldlM Store.storeRecord store (record :: batch) with
      | error fault => simp
      | ok stored => simp

/-- Records may be imported again, all of them or the first few: whoever then flushes
the whole batch leaves the store that a single import leaves. -/
theorem flush_after_prefix (hhealthy : store.Healthy) (hrefs : store.Referential)
    {first batch : Writer} (hbegins : first.buffer <+: batch.buffer)
    (hdone : (batch.flush store).result = .ok ()) :
    (first.flush store).result = .ok () ∧
      (batch.flush (first.flush store).store).result = .ok () ∧
      (batch.flush (first.flush store).store).store = (batch.flush store).store := by
  obtain ⟨rest, hrest⟩ := hbegins
  have hwhole := (flush_of_healthy hhealthy batch).1 ⟨hdone, rfl⟩
  rw [← hrest, List.foldlM_append] at hwhole
  obtain ⟨begun, hbegun, hend⟩ := ok_of_bind hwhole
  obtain ⟨hfirst, hstore⟩ := (flush_of_healthy hhealthy first).2 hbegun
  have hagain : batch.buffer.foldlM Store.storeRecord begun = .ok (batch.flush store).store := by
    rw [← hrest, List.foldlM_append, Store.foldlM_storeRecord_again hhealthy hrefs hbegun]
    exact hend
  have hkept : begun.Healthy :=
    ((Store.absorbed_nil store).foldlM_storeRecord hhealthy hrefs hbegun).2.1
  rw [hstore]
  exact ⟨hfirst, (flush_of_healthy hkept batch).2 hagain⟩

/-- A path that comes twice, with a parent that was stored before, beside a new item
that takes over a tag. -/
theorem flush_after_prefix_of_three_records :
    let parent : StoredItem := Store.newItem 1 { filepath := "p.png", contentHash := "0" }
    let store : Store :=
      { tags := [⟨1, "cat", .artist, none⟩], items := [parent], attachments := [⟨1, 1, .user⟩] }
    let child : ItemRecord :=
      { filepath := "a.png", contentHash := "1", tags := [{ name := "cat" }, { name := "red" }]
        sources := ["Web"], ingestedAt := some 5, parent := some "p.png" }
    let other : ItemRecord :=
      { filepath := "b.png", contentHash := "2", tags := [{ name := "red" }] }
    let later : ItemRecord :=
      { filepath := "a.png", contentHash := "3", tags := [{ name := "old" }], score := some 7 }
    let first : Writer := { buffer := [child, other] }
    let batch : Writer := { buffer := [child, other, later] }
    store.Healthy ∧ store.Referential ∧ first.buffer <+: batch.buffer ∧
      (batch.flush store).result = .ok () ∧
      (batch.flush store).store.items.map (·.score) = [none, some 7, none] ∧
      (batch.flush store).store.items.map (·.parent) = [none, some 1, none] ∧
      (first.flush store).result = .ok () ∧
      (batch.flush (first.flush store).store).result = .ok () ∧
      (batch.flush (first.flush store).store).store = (batch.flush store).store := by
  intro parent store child other later first batch
  have hhealthy : store.Healthy := ⟨rfl, rfl⟩
  have hrefs : store.Referential := by
    intro a ha
    rcases List.mem_singleton.1 ha with rfl
    exact ⟨_, List.mem_singleton_self _, rfl⟩
  have hbegins : first.buffer <+: batch.buffer := ⟨[later], rfl⟩
  have hdone : (batch.flush store).result = .ok () := by decide
  exact ⟨hhealthy, hrefs, hbegins, hdone, by decide, by decide,
    flush_after_prefix hhealthy hrefs hbegins hdone⟩

end Writer

end Gallery
