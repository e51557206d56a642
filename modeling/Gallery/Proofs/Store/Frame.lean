import Gallery.Proofs.Store.Family

/-!
# What a batch leaves as it was

A record rewrites the item of its path, flags the item that it names as its parent,
and adds tags, attachments and sources.  All else stays as it was.  For the relations
beside the items that is `Keeps`, for an item that was there before it is `Stays`,
which says of each column which records of a batch may change it.  Both hold of one
record, and from there of a batch.
-/

namespace Gallery

namespace Store

variable {store next : Store} {id : ItemId} {record : ItemRecord} {item : StoredItem}

/-! ## The relations beside the items -/

def AttachedOnce (store : Store) : Prop :=
  (store.attachments.map fun a => (a.item, a.tag)).Nodup

theorem AttachedOnce.eq_of_same (h : store.AttachedOnce) {a b : Attachment}
    (ha : a ∈ store.attachments) (hb : b ∈ store.attachments) (hitem : a.item = b.item)
    (htag : a.tag = b.tag) : a = b :=
  List.inj_on_of_nodup_map h ha hb (Prod.ext hitem htag)

/-- A later store has the rows of an earlier one in front of its own, and the same
memberships and favorites. -/
structure Keeps (store next : Store) : Prop where
  tags : store.tags <+: next.tags
  attachments : store.attachments <+: next.attachments
  attachedOnce : store.AttachedOnce → next.AttachedOnce
  sources : store.sources <+: next.sources
  memberships : next.memberships = store.memberships
  favorites : next.favorites = store.favorites

namespace Keeps

theorem refl (store : Store) : Keeps store store :=
  ⟨List.prefix_rfl, List.prefix_rfl, fun h => h, List.prefix_rfl, rfl, rfl⟩

theorem trans {later : Store} (h : Keeps store next) (hlater : Keeps next later) :
    Keeps store later where
  tags := h.tags.trans hlater.tags
  attachments := h.attachments.trans hlater.attachments
  attachedOnce := fun honce => hlater.attachedOnce (h.attachedOnce honce)
  sources := h.sources.trans hlater.sources
  memberships := hlater.memberships.trans h.memberships
  favorites := hlater.favorites.trans h.favorites

/-- Steps that keep the rows of a store do so together. -/
theorem foldl {β : Type} {step : Store → β → Store}
    (hstep : ∀ store x, Keeps store (step store x)) (store : Store) (xs : List β) :
    Keeps store (xs.foldl step store) :=
  List.foldlRecOn xs step (refl store) fun before hbefore x _ => hbefore.trans (hstep before x)

end Keeps

theorem keeps_placeTag (store : Store) (name : String) (category : Category)
    (subcategory : Option Subcategory) :
    Keeps store (store.placeTag name category subcategory).2 := by
  unfold placeTag
  split
  · exact .refl store
  · exact { Keeps.refl store with tags := List.prefix_append _ _ }

theorem keeps_attach (store : Store) (id : ItemId) (tag : TagId) (provenance : Provenance) :
    Keeps store (store.attach id tag provenance) := by
  unfold attach
  split
  · exact .refl store
  · rename_i hnew
    refine { Keeps.refl store with attachments := List.prefix_append _ _, attachedOnce := ?_ }
    intro honce
    have hfresh : (id, tag) ∉ store.attachments.map fun a => (a.item, a.tag) := by
      intro hmem
      obtain ⟨a, ha, heq⟩ := List.mem_map.1 hmem
      exact hnew (isAttached_eq_true_iff.2 ⟨a, ha, Prod.ext_iff.1 heq⟩)
    unfold AttachedOnce
    rw [List.map_append]
    exact List.Nodup.append honce (List.nodup_singleton _) (List.disjoint_singleton.2 hfresh)

theorem keeps_assignTag (id : ItemId) (store : Store) (tag : TagAssignment) :
    Keeps store (assignTag id store tag) :=
  (store.keeps_placeTag tag.name tag.effectiveCategory tag.effectiveSubcategory).trans
    (keeps_attach _ id _ tag.provenance)

theorem keeps_addSource (id : ItemId) (store : Store) (source : String) :
    Keeps store (addSource id store source) := by
  unfold addSource
  dsimp only
  split
  · exact .refl store
  · exact { Keeps.refl store with sources := List.prefix_append _ _ }

theorem keeps_annotated (store : Store) (id : ItemId) (record : ItemRecord) :
    Keeps store (store.annotated id record) :=
  (Keeps.foldl (keeps_assignTag id) store record.tags).trans
    (Keeps.foldl (keeps_addSource id) _ record.sources)

/-- Changing items alone keeps the rows beside them. -/
theorem keeps_of_items {items : List StoredItem} (hnext : next = { store with items := items }) :
    Keeps store next := by
  subst hnext
  exact ⟨List.prefix_rfl, List.prefix_rfl, fun h => h, List.prefix_rfl, rfl, rfl⟩

theorem keeps_recorded (store : Store) (id : ItemId) (record : ItemRecord) :
    Keeps store (store.recorded id record) := by
  have hlinked : Keeps store
      ((store.alter id (refreshedItem record)).childOf id (store.parentId? record)) := by
    cases store.parentId? record with
    | none => exact keeps_of_items rfl
    | some parent => exact keeps_of_items rfl
  exact (hlinked.trans (keeps_annotated _ id record)).trans (keeps_of_items rfl)

theorem keeps_welcomed (store : Store) (record : ItemRecord) :
    Keeps store (store.welcomed record) := by
  rcases store.welcomed_cases record with hsame | hnew
  · rw [hsame]
    exact .refl store
  · exact keeps_of_items hnew

/-! ## A stored item -/

/-- An item is what its path leads to, and its number is that of no other path. -/
structure Located (store : Store) (item : StoredItem) : Prop where
  found : store.itemAt? item.filepath = some item
  alone : ∀ path, store.idAt? path = some item.id → path = item.filepath

theorem Sound.located (h : store.Sound) (hitem : item ∈ store.items) : store.Located item where
  found := h.itemAt?_eq_some_iff.2 ⟨hitem, rfl⟩
  alone := fun _ hid => (h.idAt?_eq_some_iff hitem).1 hid

namespace Located

theorem idAt?_eq_some_iff (h : store.Located item) {path : String} :
    store.idAt? path = some item.id ↔ path = item.filepath := by
  constructor
  · exact h.alone path
  · rintro rfl
    simp [idAt?, h.found]

/-- A path that was not there leads to the new item, whose number is new. -/
theorem welcomed (h : store.Located item) (record : ItemRecord) :
    (store.welcomed record).Located item := by
  have hown := h.idAt?_eq_some_iff.2 rfl
  rcases store.welcomed_cases record with hsame | hnew
  · rwa [hsame]
  · refine ⟨?_, ?_⟩
    · have hfound := h.found
      unfold itemAt? at hfound ⊢
      simp [hnew, List.find?_append, hfound]
    · intro path hid
      cases hold : store.idAt? path with
      | some number =>
          rw [idAt?_welcomed hold record, Option.some.injEq] at hid
          exact h.alone path (hold.trans (congrArg some hid))
      | none =>
          unfold idAt? itemAt? at hold hid
          rw [Option.map_eq_none_iff] at hold
          rw [hnew, List.find?_append, hold, Option.none_or, List.find?_singleton] at hid
          split at hid
          · exact absurd (Option.some.inj hid) (ne_of_idAt? hown)
          · cases hid

theorem recorded (h : store.Located item) (id : ItemId) (record : ItemRecord) :
    (store.recorded id record).Located
      (rowAfter record id (store.parentId? record)
        ((store.recorded id record).attachedTexts id) item) where
  found := by
    have hpath (old : StoredItem) :
        (rowAfter record id (store.parentId? record)
          ((store.recorded id record).attachedTexts id) old).filepath = old.filepath :=
      rowAfter_filepath _ _ old
    have hfound := h.found
    unfold itemAt? at hfound ⊢
    rw [items_recorded, List.find?_map]
    simp only [Function.comp_def, hpath, hfound, Option.map_some]
  alone := by
    intro path hid
    rw [idAt?_recorded, rowAfter_id] at hid
    rw [rowAfter_filepath]
    exact h.alone path hid

end Located

/-- What a batch makes of an item that was stored before: which records may change
which of its columns. -/
structure Stays (batch : List ItemRecord) (item later : StoredItem) : Prop where
  id : later.id = item.id
  filepath : later.filepath = item.filepath
  ingestedAt : (∀ record ∈ batch, record.filepath = item.filepath → record.ingestedAt = none) →
    later.ingestedAt = item.ingestedAt
  parent : (∀ record ∈ batch, record.filepath = item.filepath → record.parent = none) →
    later.parent = item.parent
  unnamed : (∀ record ∈ batch, record.filepath ≠ item.filepath) →
    later = { item with
      hasChildren := item.hasChildren || batch.any (·.parent = some item.filepath) }

namespace Stays

theorem nil (item : StoredItem) : Stays [] item item where
  id := rfl
  filepath := rfl
  ingestedAt := fun _ => rfl
  parent := fun _ => rfl
  unnamed := by simp

theorem append {batch more : List ItemRecord} {middle later : StoredItem}
    (h : Stays batch item middle) (hmore : Stays more middle later) :
    Stays (batch ++ more) item later where
  id := hmore.id.trans h.id
  filepath := hmore.filepath.trans h.filepath
  ingestedAt := by
    intro hnone
    obtain ⟨hfirst, hrest⟩ := List.forall_mem_append.1 hnone
    rw [hmore.ingestedAt (by rwa [h.filepath]), h.ingestedAt hfirst]
  parent := by
    intro hnone
    obtain ⟨hfirst, hrest⟩ := List.forall_mem_append.1 hnone
    rw [hmore.parent (by rwa [h.filepath]), h.parent hfirst]
  unnamed := by
    intro hother
    obtain ⟨hfirst, hrest⟩ := List.forall_mem_append.1 hother
    have hlater := hmore.unnamed (by rwa [h.filepath])
    rw [h.filepath, h.unnamed hfirst] at hlater
    rw [hlater, List.any_append, Bool.or_assoc]

end Stays

theorem Located.stays_rowAfter (h : store.Located item)
    (hid : store.idAt? record.filepath = some id) (texts : CategoryTags) :
    Stays [record] item (rowAfter record id (store.parentId? record) texts item) := by
  have hown : item.id = id ↔ record.filepath = item.filepath := by
    rw [← h.idAt?_eq_some_iff, hid, Option.some.injEq, eq_comm]
  have hnames : store.parentId? record = some item.id ↔ record.parent = some item.filepath := by
    unfold parentId?
    cases record.parent with
    | none => simp
    | some path => simp [h.idAt?_eq_some_iff]
  refine ⟨rowAfter_id _ _ _, rowAfter_filepath _ _ _, ?_, ?_, ?_⟩
  · intro hnone
    rw [List.forall_mem_singleton, ← hown] at hnone
    by_cases hsame : item.id = id
    · simp [rowAfter, rewritten, refreshedItem, hsame, hnone hsame]
    · simp [rowAfter, hsame]
  · intro hnone
    rw [List.forall_mem_singleton, ← hown] at hnone
    rw [rowAfter_parent]
    split
    · rename_i hsame
      simp [parentId?, hnone hsame]
    · rfl
  · intro hother
    rw [List.forall_mem_singleton, ne_eq, ← hown] at hother
    simp [rowAfter, hother, hnames]

/-! ## Records and batches -/

theorem Located.storeRecord (h : store.Located item) (hhealthy : store.Healthy)
    (hnext : store.storeRecord record = .ok next) :
    ∃ later, next.Located later ∧ Stays [record] item later := by
  obtain ⟨id, hid, -, rfl⟩ := storeRecord_eq_recorded hhealthy hnext
  have hwelcomed := h.welcomed record
  exact ⟨_, hwelcomed.recorded id record, hwelcomed.stays_rowAfter hid _⟩

theorem keeps_storeRecord (hhealthy : store.Healthy)
    (hnext : store.storeRecord record = .ok next) : Keeps store next := by
  obtain ⟨id, -, -, rfl⟩ := storeRecord_eq_recorded hhealthy hnext
  exact (store.keeps_welcomed record).trans (keeps_recorded _ id record)

theorem Located.foldlM_storeRecord {batch : List ItemRecord} (h : store.Located item)
    (hhealthy : store.Healthy) (hnext : batch.foldlM Store.storeRecord store = .ok next) :
    ∃ later, next.Located later ∧ Stays batch item later := by
  induction batch generalizing store item with
  | nil =>
      cases hnext
      exact ⟨item, h, .nil item⟩
  | cons record batch ih =>
      rw [List.foldlM_cons] at hnext
      obtain ⟨middle, hmiddle, hrest⟩ := ok_of_bind hnext
      obtain ⟨between, hbetween, hfirst⟩ := h.storeRecord hhealthy hmiddle
      obtain ⟨later, hlater, hstays⟩ := ih hbetween (hhealthy.storeRecord hmiddle) hrest
      exact ⟨later, hlater, hfirst.append hstays⟩

theorem keeps_foldlM_storeRecord {batch : List ItemRecord} (hhealthy : store.Healthy)
    (hnext : batch.foldlM storeRecord store = .ok next) : Keeps store next := by
  induction batch generalizing store with
  | nil =>
      cases hnext
      exact .refl _
  | cons record batch ih =>
      rw [List.foldlM_cons] at hnext
      obtain ⟨middle, hmiddle, hrest⟩ := ok_of_bind hnext
      exact (keeps_storeRecord hhealthy hmiddle).trans (ih (hhealthy.storeRecord hmiddle) hrest)

end Store

namespace Writer

variable {store : Store}

/-- A flush touches only what its records name.  Tags are found as they were, whatever
category a record gives for one; an attachment stays with its provenance and gets no
second one; sources, memberships and favorites are not lost; and a stored item is
found at its path, changed no further than `Store.Stays` allows. -/
theorem flush_touches_only_named (hreachable : store.Reachable) (writer : Writer)
    (hdone : (writer.flush store).result = .ok ()) :
    let next := (writer.flush store).store
    (∀ tag ∈ store.tags, next.tagNamed? tag.name = some tag ∧ tag ∈ next.tags) ∧
      (∀ a ∈ store.attachments, a ∈ next.attachments ∧
        ∀ b ∈ next.attachments, b.item = a.item → b.tag = a.tag →
          b.provenance = a.provenance) ∧
      store.sources ⊆ next.sources ∧
      next.memberships = store.memberships ∧ next.favorites = store.favorites ∧
      ∀ item ∈ store.items, ∃ later, next.itemAt? item.filepath = some later ∧
        Store.Stays writer.buffer item later := by
  intro next
  have hsound := hreachable.consistent.sound
  have hstored : writer.buffer.foldlM Store.storeRecord store = .ok next :=
    (flush_of_healthy hsound.healthy writer).1 ⟨hdone, rfl⟩
  have hkeeps := Store.keeps_foldlM_storeRecord hsound.healthy hstored
  refine ⟨?_, ?_, hkeeps.sources.subset, hkeeps.memberships, hkeeps.favorites, ?_⟩
  · intro tag htag
    have hnamed : store.tagNamed? tag.name = some tag :=
      hsound.tagNamed?_eq_some_iff.2 ⟨htag, rfl⟩
    exact ⟨hkeeps.tags.find?_eq_some hnamed, hkeeps.tags.subset htag⟩
  · intro a ha
    have honce : next.AttachedOnce := hkeeps.attachedOnce hsound.attachedOnce
    have hkept := hkeeps.attachments.subset ha
    refine ⟨hkept, fun b hb hitem htag => ?_⟩
    rw [honce.eq_of_same hb hkept hitem htag]
  · intro item hitem
    obtain ⟨later, hlocated, hstays⟩ :=
      (hsound.located hitem).foldlM_storeRecord hsound.healthy hstored
    refine ⟨later, ?_, hstays⟩
    rw [← hstays.filepath]
    exact hlocated.found

/-- Of three stored items one comes again without the time and the parent that it has,
with a tag in another category than the stored one and by another provenance; a new
item shares that tag and names the second as its parent; the third has no part in
it. -/
theorem flush_touches_only_named_among_three_items :
    let stored : Writer := { buffer := [
      { filepath := "p.png", contentHash := "0", tags := [{ name := "cat", category := .artist }] },
      { filepath := "a.png", contentHash := "1", tags := [{ name := "cat" }], sources := ["Web"],
        ingestedAt := some 5, parent := some "p.png" },
      { filepath := "b.png", contentHash := "2", tags := [{ name := "red" }] }] }
    let before := (stored.flush {}).store
    let store : Store := { before with memberships := [⟨"pool", 2⟩] }
    let batch : Writer := { buffer := [
      { filepath := "a.png", contentHash := "3", score := some 9,
        tags := [{ name := "cat", category := .species, provenance := .user }] },
      { filepath := "c.png", contentHash := "4", tags := [{ name := "cat", category := .metadata }],
        parent := some "b.png" }] }
    let next := (batch.flush store).store
    store.Reachable ∧ (batch.flush store).result = .ok () ∧
      store.items.map (·.hasChildren) = [true, false, false] ∧
      next.items.map (·.hasChildren) = [true, false, true, false] ∧
      next.items.map (·.score) = [none, some 9, none, none] ∧
      ((∀ tag ∈ store.tags, next.tagNamed? tag.name = some tag ∧ tag ∈ next.tags) ∧
        (∀ a ∈ store.attachments, a ∈ next.attachments ∧
          ∀ b ∈ next.attachments, b.item = a.item → b.tag = a.tag →
            b.provenance = a.provenance) ∧
        store.sources ⊆ next.sources ∧
        next.memberships = store.memberships ∧ next.favorites = store.favorites ∧
        ∀ item ∈ store.items, ∃ later, next.itemAt? item.filepath = some later ∧
          Store.Stays batch.buffer item later) := by
  intro stored before store batch next
  have hvalid : ∀ record ∈ stored.buffer, record.fault? = none := by decide
  have hbefore : Store.Change {} before := .batch hvalid rfl
  have hpool : Store.Change before store := .pool (rfl : before.addToPool "pool" "a.png" = _)
  have hreachable : store.Reachable := (Relation.ReflTransGen.single hbefore).tail hpool
  have hdone : (batch.flush store).result = .ok () := by decide
  exact ⟨hreachable, hdone, by decide, by decide, by decide,
    flush_touches_only_named hreachable batch hdone⟩

end Writer

end Gallery
