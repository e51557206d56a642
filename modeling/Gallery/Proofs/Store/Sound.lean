import Gallery.Proofs.Store.Change
import Gallery.Proofs.Text.Words

/-!
# Sound relations

The keys of a store are keys, its references refer to rows that are there, and
every tag has a name that is one word.  These facts concern the relations alone
and hold after every single step of a write, also halfway through a batch, where
the texts of an item lag behind its attachments.
-/

namespace Gallery

open Text

theorem find?_eq_some_iff_of_nodup {α κ : Type} [DecidableEq κ] {key : α → κ} {rows : List α}
    (hkeys : (rows.map key).Nodup) {k : κ} {row : α} :
    rows.find? (key · = k) = some row ↔ row ∈ rows ∧ key row = k := by
  constructor
  · intro hfind
    exact ⟨List.mem_of_find?_eq_some hfind, by simpa using List.find?_some hfind⟩
  · rintro ⟨hmem, rfl⟩
    cases hfind : rows.find? (key · = key row) with
    | none =>
        have hnone := List.find?_eq_none.1 hfind row hmem
        simp at hnone
    | some other =>
        have hother : key other = key row := by simpa using List.find?_some hfind
        rw [List.inj_on_of_nodup_map hkeys (List.mem_of_find?_eq_some hfind) hmem hother]

theorem le_foldl_max (first : ℤ) (rest : List ℤ) :
    first ≤ rest.foldl max first ∧ ∀ n ∈ rest, n ≤ rest.foldl max first := by
  induction rest generalizing first with
  | nil => simp
  | cons next rest ih =>
      obtain ⟨hfirst, hrest⟩ := ih (max first next)
      refine ⟨le_trans (le_max_left first next) hfirst, ?_⟩
      intro n hn
      rcases List.mem_cons.1 hn with rfl | hn
      · exact le_trans (le_max_right first n) hfirst
      · exact hrest n hn

theorem nextId_notMem (ids : List ℤ) : nextId ids ∉ ids := by
  cases ids with
  | nil => simp
  | cons first rest =>
      obtain ⟨hfirst, hrest⟩ := le_foldl_max first rest
      intro hmem
      rcases List.mem_cons.1 hmem with heq | hmem
      · simp only [nextId] at heq
        omega
      · have hle := hrest _ hmem
        simp only [nextId] at hle
        omega

namespace Store

/-- What holds of the relations of a store whatever its items show. -/
structure Sound (store : Store) : Prop where
  healthy : store.Healthy
  itemIds : (store.items.map (·.id)).Nodup
  paths : (store.items.map (·.filepath)).Nodup
  tagIds : (store.tags.map (·.id)).Nodup
  tagNames : (store.tags.map (·.name)).Nodup
  tagWords : ∀ tag ∈ store.tags, isWord tag.name = true
  subcategories : ∀ tag ∈ store.tags,
    tag.subcategory.isSome = true → tag.category.allowsSubcategory = true
  attachedOnce : (store.attachments.map fun a => (a.item, a.tag)).Nodup
  attachedItems : ∀ a ∈ store.attachments, ∃ item ∈ store.items, item.id = a.item
  attachedTags : ∀ a ∈ store.attachments, ∃ tag ∈ store.tags, tag.id = a.tag

theorem sound_empty : Sound {} := by
  refine ⟨healthy_empty, ?_, ?_, ?_, ?_, ?_, ?_, ?_, ?_, ?_⟩ <;> simp

/-- Placing a tag answers the number of the tag of this name. -/
theorem exists_placedTag (store : Store) (name : String) (category : Category)
    (subcategory : Option Subcategory) :
    ∃ tag ∈ (store.placeTag name category subcategory).2.tags,
      tag.name = name ∧ tag.id = (store.placeTag name category subcategory).1 := by
  unfold Store.placeTag
  cases htag : store.tagNamed? name with
  | some tag =>
      obtain ⟨hmem, hname⟩ := mem_of_tagNamed? htag
      exact ⟨tag, hmem, hname, rfl⟩
  | none => exact ⟨_, List.mem_append_right _ (List.mem_singleton_self _), rfl, rfl⟩

theorem isAttached_eq_true_iff {store : Store} {item : ItemId} {tag : TagId} :
    store.isAttached item tag = true ↔
      ∃ a ∈ store.attachments, a.item = item ∧ a.tag = tag := by
  simp [isAttached]

theorem placeTag_items (store : Store) (name : String) (category : Category)
    (subcategory : Option Subcategory) :
    (store.placeTag name category subcategory).2.items = store.items := by
  unfold placeTag
  split <;> rfl

theorem attach_items (store : Store) (item : ItemId) (tag : TagId) (provenance : Provenance) :
    (store.attach item tag provenance).items = store.items := by
  unfold attach
  split <;> rfl

theorem assignTag_items (store : Store) (item : ItemId) (tag : TagAssignment) :
    (assignTag item store tag).items = store.items :=
  (attach_items _ _ _ _).trans (placeTag_items _ _ _ _)

variable {store : Store}

/-! ## Keys that a step keeps -/

theorem map_items_alter
    {κ : Type} {key : StoredItem → κ} {change : StoredItem → StoredItem}
    (hkey : ∀ item, key (change item) = key item) (id : ItemId) :
    (store.alter id change).items.map key = store.items.map key := by
  simp only [Store.alter, List.map_map]
  apply List.map_congr_left
  intro item _
  simp only [Function.comp_apply]
  split
  · exact hkey item
  · rfl

theorem map_tags_recategorized
    {κ : Type} {key : Tag → κ} {category : Category} {subcategory : Option Subcategory}
    (hkey : ∀ tag, key { tag with category := category, subcategory := subcategory } = key tag)
    (name : String) :
    (store.recategorized name category subcategory).tags.map key = store.tags.map key := by
  simp only [Store.recategorized, List.map_map]
  apply List.map_congr_left
  intro tag _
  simp only [Function.comp_apply]
  split
  · exact hkey tag
  · rfl

namespace Sound

theorem itemWithId?_eq_some_iff (h : store.Sound) {id : ItemId} {item : StoredItem} :
    store.itemWithId? id = some item ↔ item ∈ store.items ∧ item.id = id :=
  find?_eq_some_iff_of_nodup h.itemIds

theorem itemAt?_eq_some_iff (h : store.Sound) {path : String} {item : StoredItem} :
    store.itemAt? path = some item ↔ item ∈ store.items ∧ item.filepath = path :=
  find?_eq_some_iff_of_nodup h.paths

theorem tagWithId?_eq_some_iff (h : store.Sound) {id : TagId} {tag : Tag} :
    store.tagWithId? id = some tag ↔ tag ∈ store.tags ∧ tag.id = id :=
  find?_eq_some_iff_of_nodup h.tagIds

theorem tagNamed?_eq_some_iff (h : store.Sound) {name : String} {tag : Tag} :
    store.tagNamed? name = some tag ↔ tag ∈ store.tags ∧ tag.name = name :=
  find?_eq_some_iff_of_nodup h.tagNames

theorem item_eq_of_id (h : store.Sound) {item other : StoredItem}
    (hitem : item ∈ store.items) (hother : other ∈ store.items) (hid : item.id = other.id) :
    item = other :=
  List.inj_on_of_nodup_map h.itemIds hitem hother hid

theorem tag_eq_of_name (h : store.Sound) {tag other : Tag}
    (htag : tag ∈ store.tags) (hother : other ∈ store.tags) (hname : tag.name = other.name) :
    tag = other :=
  List.inj_on_of_nodup_map h.tagNames htag hother hname

/-- The tags of an item are those that are attached to it. -/
theorem mem_tagsOf_iff (h : store.Sound) {item : ItemId} {tag : Tag} :
    tag ∈ store.tagsOf item ↔
      tag ∈ store.tags ∧ ∃ a ∈ store.attachments, a.item = item ∧ a.tag = tag.id := by
  simp only [tagsOf, attachmentsOf, List.mem_filterMap, List.mem_filter, decide_eq_true_eq,
    h.tagWithId?_eq_some_iff]
  constructor
  · rintro ⟨a, ⟨ha, hitem⟩, htag, hid⟩
    exact ⟨htag, a, ha, hitem, hid.symm⟩
  · rintro ⟨htag, a, ha, hitem, hid⟩
    exact ⟨a, ⟨ha, hitem⟩, htag, hid.symm⟩

/-- No tag is attached to an item twice. -/
theorem nodup_attachedTags (h : store.Sound) (item : ItemId) :
    ((store.attachmentsOf item).map (·.tag)).Nodup := by
  have hpairs : ((store.attachmentsOf item).map fun a => (a.item, a.tag)).Nodup :=
    h.attachedOnce.sublist (List.filter_sublist.map _)
  have hsplit :
      ((store.attachmentsOf item).map fun a => (a.item, a.tag)) =
        ((store.attachmentsOf item).map (·.tag)).map fun tag => (item, tag) := by
    rw [List.map_map]
    apply List.map_congr_left
    intro a ha
    have hitem : a.item = item := by
      simpa [attachmentsOf] using (List.mem_filter.1 ha).2
    simp [hitem]
  rw [hsplit] at hpairs
  exact hpairs.of_map

theorem nodup_tagsOf (h : store.Sound) (item : ItemId) : (store.tagsOf item).Nodup := by
  have hsplit :
      store.tagsOf item =
        ((store.attachmentsOf item).map (·.tag)).filterMap store.tagWithId? := by
    rw [tagsOf, List.filterMap_map]
    rfl
  rw [hsplit]
  refine (h.nodup_attachedTags item).filterMap ?_
  intro a b tag ha hb
  have htag : tag.id = a := (h.tagWithId?_eq_some_iff.1 ha).2
  exact htag.symm.trans (h.tagWithId?_eq_some_iff.1 hb).2

/-! ## Steps that keep the relations sound -/

theorem alter (h : store.Sound) (id : ItemId) {change : StoredItem → StoredItem}
    (hid : ∀ item, (change item).id = item.id)
    (hpath : ∀ item, (change item).filepath = item.filepath) :
    (store.alter id change).Sound where
  healthy := h.healthy.alter id change
  itemIds := by
    rw [map_items_alter hid]
    exact h.itemIds
  paths := by
    rw [map_items_alter hpath]
    exact h.paths
  tagIds := h.tagIds
  tagNames := h.tagNames
  tagWords := h.tagWords
  subcategories := h.subcategories
  attachedOnce := h.attachedOnce
  attachedItems := by
    intro a ha
    obtain ⟨item, hitem, heq⟩ := h.attachedItems a ha
    refine ⟨if item.id = id then change item else item, ?_, ?_⟩
    · exact List.mem_map_of_mem hitem
    · split
      · exact (hid item).trans heq
      · exact heq
  attachedTags := h.attachedTags

theorem placed (h : store.Sound) (record : ItemRecord) : (store.placed record).2.Sound := by
  unfold Store.placed
  cases hitem : store.itemAt? record.filepath with
  | some item => exact h.alter _ (fun _ => rfl) (fun _ => rfl)
  | none =>
      have hpath : record.filepath ∉ store.items.map (·.filepath) := by
        intro hmem
        obtain ⟨other, hother, heq⟩ := List.mem_map.1 hmem
        have hnone := List.find?_eq_none.1 hitem other hother
        simp [heq] at hnone
      have hid := nextId_notMem (store.items.map (·.id))
      exact {
        healthy := h.healthy.of_eq rfl rfl
        itemIds := by
          rw [List.map_append]
          exact List.Nodup.append h.itemIds (List.nodup_singleton _)
            (List.disjoint_singleton.2 hid)
        paths := by
          rw [List.map_append]
          exact List.Nodup.append h.paths (List.nodup_singleton _)
            (List.disjoint_singleton.2 hpath)
        tagIds := h.tagIds
        tagNames := h.tagNames
        tagWords := h.tagWords
        subcategories := h.subcategories
        attachedOnce := h.attachedOnce
        attachedItems := by
          intro a ha
          obtain ⟨item, hmem, heq⟩ := h.attachedItems a ha
          exact ⟨item, List.mem_append_left _ hmem, heq⟩
        attachedTags := h.attachedTags }

theorem linked (h : store.Sound) (child parent : ItemId) :
    (store.linked child parent).Sound := by
  unfold Store.linked
  apply Sound.alter
  · exact h.alter child (fun _ => rfl) (fun _ => rfl)
  · exact fun _ => rfl
  · exact fun _ => rfl

theorem joinedTo {next : Store} (h : store.Sound) {child : ItemId} {parent? : Option String}
    (hnext : store.joinedTo child parent? = .ok next) : next.Sound := by
  unfold Store.joinedTo at hnext
  split at hnext
  · cases hnext
    exact h
  · split at hnext
    · cases hnext
      exact h.linked _ _
    · cases hnext

theorem refreshed (h : store.Sound) (id : ItemId) : (store.refreshed id).Sound :=
  h.alter id (fun _ => rfl) (fun _ => rfl)

theorem placeTag (h : store.Sound) {name : String} (hname : isWord name = true)
    (category : Category) {subcategory : Option Subcategory}
    (hsub : subcategory.isSome = true → category.allowsSubcategory = true) :
    (store.placeTag name category subcategory).2.Sound := by
  unfold Store.placeTag
  cases htag : store.tagNamed? name with
  | some tag => exact h
  | none =>
      have hfresh : name ∉ store.tags.map (·.name) := by
        intro hmem
        obtain ⟨other, hother, heq⟩ := List.mem_map.1 hmem
        have hnone := List.find?_eq_none.1 htag other hother
        simp [heq] at hnone
      have hid := nextId_notMem (store.tags.map (·.id))
      exact {
        healthy := h.healthy.of_eq rfl rfl
        itemIds := h.itemIds
        paths := h.paths
        tagIds := by
          rw [List.map_append]
          exact List.Nodup.append h.tagIds (List.nodup_singleton _)
            (List.disjoint_singleton.2 hid)
        tagNames := by
          rw [List.map_append]
          exact List.Nodup.append h.tagNames (List.nodup_singleton _)
            (List.disjoint_singleton.2 hfresh)
        tagWords := by
          intro tag hmem
          rcases List.mem_append.1 hmem with hold | hnew
          · exact h.tagWords tag hold
          · rcases List.mem_singleton.1 hnew with rfl
            exact hname
        subcategories := by
          intro tag hmem
          rcases List.mem_append.1 hmem with hold | hnew
          · exact h.subcategories tag hold
          · rcases List.mem_singleton.1 hnew with rfl
            exact hsub
        attachedOnce := h.attachedOnce
        attachedItems := h.attachedItems
        attachedTags := by
          intro a ha
          obtain ⟨tag, hmem, heq⟩ := h.attachedTags a ha
          exact ⟨tag, List.mem_append_left _ hmem, heq⟩ }

theorem attach (h : store.Sound) {item : ItemId} {tag : TagId}
    (hitem : ∃ row ∈ store.items, row.id = item) (htag : ∃ row ∈ store.tags, row.id = tag)
    (provenance : Provenance) : (store.attach item tag provenance).Sound := by
  unfold Store.attach
  split
  · exact h
  · rename_i hnew
    have hpair : (item, tag) ∉ store.attachments.map fun a => (a.item, a.tag) := by
      intro hmem
      obtain ⟨a, ha, heq⟩ := List.mem_map.1 hmem
      simp only [Prod.mk.injEq] at heq
      exact hnew (isAttached_eq_true_iff.2 ⟨a, ha, heq⟩)
    exact {
      healthy := h.healthy.of_eq rfl rfl
      itemIds := h.itemIds
      paths := h.paths
      tagIds := h.tagIds
      tagNames := h.tagNames
      tagWords := h.tagWords
      subcategories := h.subcategories
      attachedOnce := by
        rw [List.map_append]
        exact List.Nodup.append h.attachedOnce (List.nodup_singleton _)
          (List.disjoint_singleton.2 hpair)
      attachedItems := by
        intro a ha
        rcases List.mem_append.1 ha with hold | hnew
        · exact h.attachedItems a hold
        · rcases List.mem_singleton.1 hnew with rfl
          exact hitem
      attachedTags := by
        intro a ha
        rcases List.mem_append.1 ha with hold | hnew
        · exact h.attachedTags a hold
        · rcases List.mem_singleton.1 hnew with rfl
          exact htag }

theorem assignTag (h : store.Sound) {item : ItemId}
    (hitem : ∃ row ∈ store.items, row.id = item) {tag : TagAssignment}
    (htag : isWord tag.name = true) : (Store.assignTag item store tag).Sound := by
  have hsub : tag.effectiveSubcategory.isSome = true →
      tag.effectiveCategory.allowsSubcategory = true := by
    unfold TagAssignment.effectiveSubcategory
    split
    · exact fun _ => ‹_›
    · simp
  have hplaced := h.placeTag htag tag.effectiveCategory hsub
  refine hplaced.attach ?_ ?_ tag.provenance
  · rw [placeTag_items]
    exact hitem
  · obtain ⟨row, hrow, -, hid⟩ :=
      store.exists_placedTag tag.name tag.effectiveCategory tag.effectiveSubcategory
    exact ⟨row, hrow, hid⟩

theorem addSource (h : store.Sound) (item : ItemId) (source : String) :
    (Store.addSource item store source).Sound := by
  unfold Store.addSource
  dsimp only
  split
  · exact h
  · exact { h with healthy := h.healthy.of_eq rfl rfl }

theorem recategorized (h : store.Sound) (name : String) (category : Category)
    (subcategory : Option Subcategory) :
    (store.recategorized name category (keptSubcategory category subcategory)).Sound := by
  have hids :
      (store.recategorized name category
        (keptSubcategory category subcategory)).tags.map (·.id) = store.tags.map (·.id) :=
    map_tags_recategorized (fun _ => rfl) name
  have hnames :
      (store.recategorized name category
        (keptSubcategory category subcategory)).tags.map (·.name) =
          store.tags.map (·.name) :=
    map_tags_recategorized (fun _ => rfl) name
  exact {
    healthy := h.healthy.recategorized _ _ _
    itemIds := h.itemIds
    paths := h.paths
    tagIds := by
      rw [hids]
      exact h.tagIds
    tagNames := by
      rw [hnames]
      exact h.tagNames
    tagWords := by
      intro tag htag
      have hname : tag.name ∈ store.tags.map (·.name) := by
        rw [← hnames]
        exact List.mem_map_of_mem htag
      obtain ⟨old, hold, heq⟩ := List.mem_map.1 hname
      rw [← heq]
      exact h.tagWords old hold
    subcategories := by
      intro tag htag
      obtain ⟨old, hold, rfl⟩ := List.mem_map.1 htag
      split
      · simp only [keptSubcategory]
        split <;> simp_all
      · exact h.subcategories old hold
    attachedOnce := h.attachedOnce
    attachedItems := h.attachedItems
    attachedTags := by
      intro a ha
      obtain ⟨tag, htag, heq⟩ := h.attachedTags a ha
      have hid : a.tag ∈ store.tags.map (·.id) := heq ▸ List.mem_map_of_mem htag
      rw [← hids] at hid
      obtain ⟨moved, hmoved, hmovedId⟩ := List.mem_map.1 hid
      exact ⟨moved, hmoved, hmovedId⟩ }

theorem detached (h : store.Sound) (item : ItemId) (tag : TagId) :
    (store.detached item tag).Sound where
  healthy := h.healthy.detached item tag
  itemIds := h.itemIds
  paths := h.paths
  tagIds := h.tagIds
  tagNames := h.tagNames
  tagWords := h.tagWords
  subcategories := h.subcategories
  attachedOnce := h.attachedOnce.sublist (List.filter_sublist.map _)
  attachedItems := fun a ha => h.attachedItems a (List.mem_of_mem_filter ha)
  attachedTags := fun a ha => h.attachedTags a (List.mem_of_mem_filter ha)

theorem pooled (h : store.Sound) (pool : String) (item : ItemId) :
    (store.pooled pool item).Sound := by
  have hhealthy := h.healthy.pooled pool item
  unfold Store.pooled at hhealthy ⊢
  split
  · exact h
  · rename_i hnew
    rw [if_neg hnew] at hhealthy
    exact { h with healthy := hhealthy }

theorem marked (h : store.Sound) (item : ItemId) (favorite : Bool) :
    (store.marked item favorite).Sound := by
  unfold Store.marked
  split
  · split
    · exact h
    · exact { h with healthy := h.healthy.of_eq rfl rfl }
  · exact { h with healthy := h.healthy.of_eq rfl rfl }

/-- The tag of an attachment is no orphan. -/
theorem pruned (h : store.Sound) : store.pruned.Sound where
  healthy := h.healthy.of_eq rfl rfl
  itemIds := h.itemIds
  paths := h.paths
  tagIds := h.tagIds.sublist (List.filter_sublist.map _)
  tagNames := h.tagNames.sublist (List.filter_sublist.map _)
  tagWords := fun tag htag => h.tagWords tag (List.mem_of_mem_filter htag)
  subcategories := fun tag htag => h.subcategories tag (List.mem_of_mem_filter htag)
  attachedOnce := h.attachedOnce
  attachedItems := h.attachedItems
  attachedTags := by
    intro a ha
    obtain ⟨tag, htag, heq⟩ := h.attachedTags a ha
    refine ⟨tag, List.mem_filter.2 ⟨htag, ?_⟩, heq⟩
    simp only [isOrphan, Bool.not_not, List.any_eq_true, decide_eq_true_eq]
    exact ⟨a, ha, heq.symm⟩

end Sound

end Store

end Gallery
