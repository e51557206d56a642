import Gallery.Proofs.Store.Texts

/-!
# What storing a record does

Storing a record whose path is not there yet is storing it again in the store that
has its new item already (`storeRecord_welcomed`).  So there is one case, that of a
record whose item is there, and it is written out here as one function of the
relations: items are changed one by one, tags, attachments and sources are added
behind those that are there.
-/

namespace Gallery

namespace Store

variable {store next : Store} {id : ItemId} {record : ItemRecord}

/-! ## The numbers of paths -/

def idAt? (store : Store) (path : String) : Option ItemId :=
  (store.itemAt? path).map (·.id)

theorem exists_item_of_idAt? {path : String} (hid : store.idAt? path = some id) :
    ∃ item ∈ store.items, item.id = id := by
  obtain ⟨item, hitem, rfl⟩ := Option.map_eq_some_iff.1 hid
  exact ⟨item, (mem_of_itemAt? hitem).1, rfl⟩

/-- Changing items in place leaves every path its number. -/
theorem idAt?_map_items {change : StoredItem → StoredItem}
    (hid : ∀ item, (change item).id = item.id)
    (hpath : ∀ item, (change item).filepath = item.filepath)
    (hitems : next.items = store.items.map change) :
    next.idAt? = store.idAt? := by
  funext path
  have hkey :
      ((fun item : StoredItem => decide (item.filepath = path)) ∘ change) =
        fun item => decide (item.filepath = path) := by
    funext item
    simp [hpath]
  unfold idAt? itemAt?
  rw [hitems, List.find?_map, hkey, Option.map_map]
  congr 1
  funext item
  exact hid item

theorem idAt?_alter (id : ItemId) {change : StoredItem → StoredItem}
    (hid : ∀ item, (change item).id = item.id)
    (hpath : ∀ item, (change item).filepath = item.filepath) :
    (store.alter id change).idAt? = store.idAt? := by
  have hitems : (store.alter id change).items =
      store.items.map fun item => if item.id = id then change item else item := rfl
  refine idAt?_map_items ?_ ?_ hitems
  · intro item
    split
    · exact hid item
    · rfl
  · intro item
    split
    · exact hpath item
    · rfl

/-! ## The place of a new item -/

/-- The store with the item of a record in it, new if its path was not there. -/
def welcomed (store : Store) (record : ItemRecord) : Store :=
  match store.itemAt? record.filepath with
  | some _ => store
  | none =>
    { store with
      items := store.items ++ [newItem (nextId (store.items.map (·.id))) record] }

theorem refreshedItem_newItem (id : ItemId) (record : ItemRecord) :
    refreshedItem record (newItem id record) = newItem id record := by
  cases hingested : record.ingestedAt <;> simp [refreshedItem, newItem, hingested]

theorem exists_idAt?_welcomed (store : Store) (record : ItemRecord) :
    ∃ id, (store.welcomed record).idAt? record.filepath = some id := by
  unfold welcomed
  cases hitem : store.itemAt? record.filepath with
  | some item => exact ⟨item.id, by simp [idAt?, hitem]⟩
  | none =>
      refine ⟨nextId (store.items.map (·.id)), ?_⟩
      unfold itemAt? at hitem
      simp [idAt?, itemAt?, List.find?_append, hitem, newItem]

theorem Healthy.welcomed (h : store.Healthy) (record : ItemRecord) :
    (store.welcomed record).Healthy := by
  unfold Store.welcomed
  split
  · exact h
  · exact h.of_eq rfl rfl

/-- Refreshing a new item with its own record changes neither it nor any other. -/
theorem placed_welcomed (store : Store) (record : ItemRecord) :
    (store.welcomed record).placed record = store.placed record := by
  unfold welcomed placed
  cases hitem : store.itemAt? record.filepath with
  | some item => simp [hitem]
  | none =>
      have hnone : store.items.find? (·.filepath = record.filepath) = none := hitem
      have hfresh := nextId_notMem (store.items.map (·.id))
      dsimp only
      generalize nextId (store.items.map (·.id)) = number at hfresh ⊢
      have hnew :
          itemAt? { store with items := store.items ++ [newItem number record] }
              record.filepath =
            some (newItem number record) := by
        simp [itemAt?, List.find?_append, hnone, newItem]
      have hold :
          (store.items.map fun item =>
            if item.id = number then refreshedItem record item else item) = store.items := by
        conv_rhs => rw [← List.map_id store.items]
        apply List.map_congr_left
        intro item hmem
        have hne : item.id ≠ number := by
          rintro rfl
          exact hfresh (List.mem_map_of_mem hmem)
        simp [hne]
      have hitems :
          ((store.items ++ [newItem number record]).map fun item =>
            if item.id = number then refreshedItem record item else item) =
            store.items ++ [newItem number record] := by
        rw [List.map_append, hold]
        simp only [List.map_cons, List.map_nil, refreshedItem_newItem, ite_self]
      rw [hnew]
      exact Prod.ext rfl (congrArg (fun items => { store with items := items }) hitems)

theorem storeRecord_welcomed (h : store.Healthy) (record : ItemRecord) :
    (store.welcomed record).storeRecord record = store.storeRecord record := by
  rw [storeRecord_of_healthy (h.welcomed record), storeRecord_of_healthy h, placed_welcomed]

/-! ## A record whose item is there -/

def parentId? (store : Store) (record : ItemRecord) : Option ItemId :=
  record.parent.bind store.idAt?

def childOf (store : Store) (child : ItemId) : Option ItemId → Store
  | none => store
  | some parent => store.linked child parent

theorem joinedTo_eq_ok_iff {child : ItemId} {parent? : Option String} :
    store.joinedTo child parent? = .ok next ↔
      (∀ path ∈ parent?, (store.idAt? path).isSome) ∧
        next = store.childOf child (parent?.bind store.idAt?) := by
  cases parent? with
  | none =>
      simp only [joinedTo, childOf, Except.ok.injEq, Option.bind_none, @eq_comm _ next]
      simp
  | some path =>
      cases hparent : store.itemAt? path with
      | none => simp [joinedTo, idAt?, hparent]
      | some parent =>
          simp only [joinedTo, hparent, Except.ok.injEq, @eq_comm _ next]
          simp [idAt?, hparent, childOf]

/-- The store after a record whose item has a number. -/
def recorded (store : Store) (id : ItemId) (record : ItemRecord) : Store :=
  (((store.alter id (refreshedItem record)).childOf id (store.parentId? record)).annotated id
    record).refreshed id

theorem storeRecord_eq_ok_iff (h : store.Healthy)
    (hid : store.idAt? record.filepath = some id) :
    store.storeRecord record = .ok next ↔
      (∀ path ∈ record.parent, (store.idAt? path).isSome) ∧
        next = store.recorded id record := by
  obtain ⟨item, hitem, rfl⟩ := Option.map_eq_some_iff.1 hid
  have hplaced :
      store.placed record = (item.id, store.alter item.id (refreshedItem record)) := by
    simp [placed, hitem]
  have hids : (store.alter item.id (refreshedItem record)).idAt? = store.idAt? :=
    idAt?_alter item.id (fun _ => rfl) (fun _ => rfl)
  have hjoined (joined : Store) :
      (store.alter item.id (refreshedItem record)).joinedTo item.id record.parent = .ok joined ↔
        (∀ path ∈ record.parent, (store.idAt? path).isSome) ∧
          joined = (store.alter item.id (refreshedItem record)).childOf item.id
            (store.parentId? record) := by
    rw [joinedTo_eq_ok_iff, hids]
    rfl
  constructor
  · intro hnext
    obtain ⟨joined, hjoin, rfl⟩ := storeRecord_ok h hnext
    rw [hplaced, hjoined] at hjoin
    obtain ⟨hparents, rfl⟩ := hjoin
    exact ⟨hparents, by rw [hplaced]; rfl⟩
  · rintro ⟨hparents, rfl⟩
    rw [storeRecord_of_healthy h, hplaced, (hjoined _).2 ⟨hparents, rfl⟩]
    rfl

/-! ## What is added -/

/-- A later store has the tags, attachments and sources of an earlier one in front of
its own, and the attachments that it has besides are those of one item. -/
structure Adds (store next : Store) (id : ItemId) : Prop where
  tags : store.tags <+: next.tags
  attachments : ∃ added, next.attachments = store.attachments ++ added ∧ ∀ a ∈ added, a.item = id
  sources : store.sources <+: next.sources

def Referential (store : Store) : Prop :=
  ∀ a ∈ store.attachments, ∃ tag ∈ store.tags, tag.id = a.tag

namespace Adds

theorem of_eq (htags : next.tags = store.tags) (hattachments : next.attachments = store.attachments)
    (hsources : next.sources = store.sources) (id : ItemId) : Adds store next id where
  tags := htags ▸ List.prefix_rfl
  attachments := ⟨[], by simp [hattachments], by simp⟩
  sources := hsources ▸ List.prefix_rfl

theorem trans {later : Store} (h : Adds store next id) (hlater : Adds next later id) :
    Adds store later id where
  tags := h.tags.trans hlater.tags
  attachments := by
    obtain ⟨added, hnext, hadded⟩ := h.attachments
    obtain ⟨more, hmore, hitem⟩ := hlater.attachments
    refine ⟨added ++ more, by rw [hmore, hnext, List.append_assoc], ?_⟩
    intro a ha
    rcases List.mem_append.1 ha with ha | ha
    · exact hadded a ha
    · exact hitem a ha
  sources := h.sources.trans hlater.sources

theorem tagNamed? (h : Adds store next id) {name : String} {tag : Tag}
    (htag : store.tagNamed? name = some tag) : next.tagNamed? name = some tag :=
  h.tags.find?_eq_some htag

theorem isAttached (h : Adds store next id) {item : ItemId} {tag : TagId}
    (hattached : store.isAttached item tag = true) : next.isAttached item tag = true := by
  obtain ⟨added, hnext, -⟩ := h.attachments
  obtain ⟨a, ha, heq⟩ := isAttached_eq_true_iff.1 hattached
  exact isAttached_eq_true_iff.2 ⟨a, hnext ▸ List.mem_append_left _ ha, heq⟩

theorem tagsOf_of_ne (h : Adds store next id) (hrefs : store.Referential) {item : ItemId}
    (hne : item ≠ id) : next.tagsOf item = store.tagsOf item := by
  obtain ⟨added, hnext, hadded⟩ := h.attachments
  refine tagsOf_congr ?_ ?_
  · have hnone : added.filter (fun a => decide (a.item = item)) = [] := by
      refine List.filter_eq_nil_iff.2 fun a ha heq => hne ?_
      rw [← hadded a ha]
      simpa [eq_comm] using heq
    simp [attachmentsOf, hnext, hnone]
  · intro a ha _
    have hsome : (store.tags.find? (·.id = a.tag)).isSome := by
      obtain ⟨tag, htag, heq⟩ := hrefs a ha
      exact List.find?_isSome.2 ⟨tag, htag, by simpa using heq⟩
    obtain ⟨tag, htag⟩ := Option.isSome_iff_exists.1 hsome
    exact (h.tags.find?_eq_some htag).trans htag.symm

/-- Steps that add to what one item has do so together. -/
theorem foldl {β : Type} {step : Store → β → Store}
    (hstep : ∀ store x, Adds store (step store x) id) (store : Store) (xs : List β) :
    Adds store (xs.foldl step store) id := by
  induction xs generalizing store with
  | nil => exact of_eq rfl rfl rfl id
  | cons x xs ih => exact (hstep store x).trans (ih (step store x))

end Adds

theorem adds_assignTag (id : ItemId) (store : Store) (tag : TagAssignment) :
    Adds store (assignTag id store tag) id := by
  have hplaced : Adds store
      (store.placeTag tag.name tag.effectiveCategory tag.effectiveSubcategory).2 id := by
    unfold placeTag
    split
    · exact .of_eq rfl rfl rfl id
    · exact ⟨List.prefix_append _ _, ⟨[], by simp, by simp⟩, List.prefix_rfl⟩
  refine hplaced.trans ?_
  unfold assignTag attach
  dsimp only
  split
  · exact .of_eq rfl rfl rfl id
  · exact ⟨List.prefix_rfl, ⟨_, rfl, by simp⟩, List.prefix_rfl⟩

theorem adds_addSource (id : ItemId) (store : Store) (source : String) :
    Adds store (addSource id store source) id := by
  unfold addSource
  dsimp only
  split
  · exact .of_eq rfl rfl rfl id
  · exact ⟨List.prefix_rfl, ⟨[], by simp, by simp⟩, List.prefix_append _ _⟩

theorem adds_annotated (store : Store) (id : ItemId) (record : ItemRecord) :
    Adds store (store.annotated id record) id :=
  (Adds.foldl (adds_assignTag id) store record.tags).trans
    (Adds.foldl (adds_addSource id) _ record.sources)

theorem Referential.assignTag (h : store.Referential) (id : ItemId) (tag : TagAssignment) :
    (Store.assignTag id store tag).Referential := by
  have hplaced : (store.placeTag tag.name tag.effectiveCategory
      tag.effectiveSubcategory).2.Referential := by
    unfold placeTag
    split
    · exact h
    · intro a ha
      obtain ⟨row, hrow, hid⟩ := h a ha
      exact ⟨row, List.mem_append_left _ hrow, hid⟩
  unfold Store.assignTag attach
  dsimp only
  split
  · exact hplaced
  · intro a ha
    rcases List.mem_append.1 ha with hold | hnew
    · exact hplaced a hold
    · obtain ⟨row, hrow, -, hid⟩ :=
        store.exists_placedTag tag.name tag.effectiveCategory tag.effectiveSubcategory
      rcases List.mem_singleton.1 hnew with rfl
      exact ⟨row, hrow, hid⟩

theorem Referential.annotated (h : store.Referential) (id : ItemId) (record : ItemRecord) :
    (store.annotated id record).Referential := by
  unfold Store.annotated
  apply List.foldlRecOn
  · exact List.foldlRecOn _ _ h fun _ hstore tag _ => hstore.assignTag id tag
  · intro before hbefore source _
    unfold addSource
    dsimp only
    split
    · exact hbefore
    · exact hbefore

structure Bears (store : Store) (id : ItemId) (record : ItemRecord) : Prop where
  tags : ∀ tag ∈ record.tags, ∃ row,
    store.tagNamed? tag.name = some row ∧ store.isAttached id row.id = true
  sources : ∀ source ∈ record.sources, ⟨id, storedLabel source⟩ ∈ store.sources

theorem Bears.adds (h : store.Bears id record) {other : ItemId} (hadds : Adds store next other) :
    next.Bears id record where
  tags := by
    intro tag htag
    obtain ⟨row, hrow, hattached⟩ := h.tags tag htag
    exact ⟨row, hadds.tagNamed? hrow, hadds.isAttached hattached⟩
  sources := fun source hsource => hadds.sources.subset (h.sources source hsource)

theorem tagNamed?_assignTag (store : Store) (id : ItemId) (tag : TagAssignment) :
    ∃ row, (assignTag id store tag).tagNamed? tag.name = some row ∧
      (assignTag id store tag).isAttached id row.id = true := by
  obtain ⟨row, hrow, hid⟩ : ∃ row,
      (store.placeTag tag.name tag.effectiveCategory tag.effectiveSubcategory).2.tagNamed?
        tag.name = some row ∧
      row.id =
        (store.placeTag tag.name tag.effectiveCategory tag.effectiveSubcategory).1 := by
    unfold placeTag
    cases hrow : store.tagNamed? tag.name with
    | some row => exact ⟨row, hrow, rfl⟩
    | none =>
        unfold tagNamed? at hrow
        refine ⟨⟨nextId (store.tags.map (·.id)), tag.name, tag.effectiveCategory,
          tag.effectiveSubcategory⟩, ?_, rfl⟩
        simp [tagNamed?, List.find?_append, hrow]
  refine ⟨row, ?_, ?_⟩
  · unfold assignTag attach
    dsimp only
    split
    · exact hrow
    · exact hrow
  · unfold assignTag attach
    dsimp only
    split
    · rw [hid]
      assumption
    · exact isAttached_eq_true_iff.2
        ⟨_, List.mem_append_right _ (List.mem_singleton_self _), rfl, hid.symm⟩

theorem mem_sources_addSource (store : Store) (id : ItemId) (source : String) :
    (⟨id, storedLabel source⟩ : SourceLabel) ∈ (addSource id store source).sources := by
  unfold addSource
  dsimp only
  split
  · rename_i hcontains
    simpa using hcontains
  · simp

/-- What one tag or source has brought about stays while those behind it come. -/
theorem bears_annotated (store : Store) (id : ItemId) (record : ItemRecord) :
    (store.annotated id record).Bears id record where
  tags := by
    have hsources := Adds.foldl (adds_addSource id) (record.tags.foldl (assignTag id) store)
      record.sources
    suffices htags : ∀ tag ∈ record.tags, ∃ row,
        (record.tags.foldl (assignTag id) store).tagNamed? tag.name = some row ∧
          (record.tags.foldl (assignTag id) store).isAttached id row.id = true by
      intro tag htag
      obtain ⟨row, hrow, hattached⟩ := htags tag htag
      exact ⟨row, hsources.tagNamed? hrow, hsources.isAttached hattached⟩
    clear hsources
    generalize record.tags = tags
    induction tags generalizing store with
    | nil => simp
    | cons first tags ih =>
        intro tag htag
        rcases List.mem_cons.1 htag with rfl | htag
        · obtain ⟨row, hrow, hattached⟩ := store.tagNamed?_assignTag id tag
          have hlater := Adds.foldl (adds_assignTag id) (assignTag id store tag) tags
          exact ⟨row, hlater.tagNamed? hrow, hlater.isAttached hattached⟩
        · exact ih (assignTag id store first) tag htag
  sources := by
    unfold annotated
    generalize record.tags.foldl (assignTag id) store = tagged
    generalize record.sources = sources
    induction sources generalizing tagged with
    | nil => simp
    | cons first sources ih =>
        intro source hsource
        rcases List.mem_cons.1 hsource with rfl | hsource
        · have hlater := Adds.foldl (adds_addSource id) (addSource id tagged source) sources
          exact hlater.sources.subset (mem_sources_addSource tagged id source)
        · exact ih (addSource id tagged first) source hsource

/-- Tags and sources that an item has are not added again. -/
theorem Bears.annotated_eq (h : store.Bears id record) : store.annotated id record = store := by
  have htags : record.tags.foldl (assignTag id) store = store := by
    refine List.foldlRecOn (motive := fun s : Store => s = store) record.tags _ rfl ?_
    rintro _ rfl tag htag
    obtain ⟨row, hrow, hattached⟩ := h.tags tag htag
    simp [assignTag, placeTag, hrow, attach, hattached]
  unfold annotated
  rw [htags]
  refine List.foldlRecOn (motive := fun s : Store => s = store) record.sources _ rfl ?_
  rintro _ rfl source hsource
  simp [addSource, h.sources source hsource]

/-! ## Items after a record -/

/-- An item after its record came with the number of a parent. -/
def rewritten (record : ItemRecord) (parent? : Option ItemId) (item : StoredItem) : StoredItem :=
  { refreshedItem record item with parent := parent? <|> item.parent }

/-- An item, whichever it is, after the record of the item with a number came. -/
def rowAfter (record : ItemRecord) (id : ItemId) (parent? : Option ItemId)
    (texts : CategoryTags) (item : StoredItem) : StoredItem :=
  { if item.id = id then rewritten record parent? item else item with
    tags := if item.id = id then texts else item.tags
    hasChildren := item.hasChildren || parent? = some item.id }

theorem rowAfter_id (parent? : Option ItemId) (texts : CategoryTags) (item : StoredItem) :
    (rowAfter record id parent? texts item).id = item.id := by
  by_cases hown : item.id = id <;> simp [rowAfter, rewritten, refreshedItem, hown]

theorem rowAfter_filepath (parent? : Option ItemId) (texts : CategoryTags)
    (item : StoredItem) :
    (rowAfter record id parent? texts item).filepath = item.filepath := by
  by_cases hown : item.id = id <;> simp [rowAfter, rewritten, refreshedItem, hown]

theorem addSource_items (store : Store) (id : ItemId) (source : String) :
    (addSource id store source).items = store.items := by
  unfold addSource
  dsimp only
  split <;> rfl

theorem annotated_items (store : Store) (id : ItemId) (record : ItemRecord) :
    (store.annotated id record).items = store.items := by
  unfold annotated
  refine List.foldlRecOn (motive := fun s : Store => s.items = store.items) record.sources _ ?_
    fun before hbefore source _ => (addSource_items before id source).trans hbefore
  exact List.foldlRecOn (motive := fun s : Store => s.items = store.items) record.tags _ rfl
    fun before hbefore tag _ => (assignTag_items before id tag).trans hbefore

theorem items_recorded (store : Store) (id : ItemId) (record : ItemRecord) :
    (store.recorded id record).items =
      store.items.map (rowAfter record id (store.parentId? record)
        ((store.recorded id record).attachedTexts id)) := by
  unfold recorded
  generalize store.parentId? record = parent?
  have hitems := annotated_items
    ((store.alter id (refreshedItem record)).childOf id parent?) id record
  generalize annotated _ id record = last at hitems ⊢
  change (last.items.map fun item =>
      if item.id = id then { item with tags := last.attachedTexts id } else item) =
    store.items.map (rowAfter record id parent? (last.attachedTexts id))
  rw [hitems]
  cases parent? with
  | none =>
      simp only [childOf, alter, List.map_map]
      apply List.map_congr_left
      intro item _
      by_cases hown : item.id = id <;> simp [rowAfter, rewritten, refreshedItem, hown]
  | some parent =>
      simp only [childOf, linked, alter, List.map_map]
      apply List.map_congr_left
      intro item _
      by_cases hown : item.id = id
      · subst hown
        by_cases hparent : item.id = parent <;>
          simp [rowAfter, rewritten, refreshedItem, hparent, @eq_comm _ parent]
      · by_cases hparent : item.id = parent
        · subst hparent
          simp [rowAfter, hown]
        · simp [rowAfter, hown, hparent, @eq_comm _ parent]

theorem idAt?_recorded (store : Store) (id : ItemId) (record : ItemRecord) :
    (store.recorded id record).idAt? = store.idAt? :=
  idAt?_map_items (rowAfter_id _ _) (rowAfter_filepath _ _) (store.items_recorded id record)

theorem adds_childOf (store : Store) (child : ItemId) (parent? : Option ItemId) (id : ItemId) :
    Adds store (store.childOf child parent?) id := by
  cases parent? with
  | none => exact .of_eq rfl rfl rfl id
  | some parent => exact .of_eq (by rfl) (by rfl) (by rfl) id

theorem adds_refreshed (store : Store) (id : ItemId) : Adds store (store.refreshed id) id :=
  .of_eq (by rfl) (by rfl) (by rfl) id

theorem adds_recorded (store : Store) (id : ItemId) (record : ItemRecord) :
    Adds store (store.recorded id record) id := by
  have hchild := adds_childOf (store.alter id (refreshedItem record)) id
    (store.parentId? record) id
  have haltered : Adds store (store.alter id (refreshedItem record)) id :=
    .of_eq (by rfl) (by rfl) (by rfl) id
  exact ((haltered.trans hchild).trans (adds_annotated _ id record)).trans (adds_refreshed _ id)

theorem bears_recorded (store : Store) (id : ItemId) (record : ItemRecord) :
    (store.recorded id record).Bears id record :=
  (bears_annotated _ id record).adds (adds_refreshed _ id)

theorem Referential.childOf (h : store.Referential) (child : ItemId) (parent? : Option ItemId) :
    (store.childOf child parent?).Referential := by
  cases parent? with
  | none => exact h
  | some parent => exact h

theorem Referential.recorded (h : store.Referential) (id : ItemId) (record : ItemRecord) :
    (store.recorded id record).Referential := by
  have haltered : (store.alter id (refreshedItem record)).Referential := h
  exact (haltered.childOf id (store.parentId? record)).annotated id record

theorem Referential.welcomed (h : store.Referential) (record : ItemRecord) :
    (store.welcomed record).Referential := by
  unfold Store.welcomed
  split
  · exact h
  · exact h

end Store

end Gallery
