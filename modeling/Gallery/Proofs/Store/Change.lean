import Gallery.Proofs.Store.Healthy

/-!
# Changes of a store

The single changes of a healthy store as functions of its relations, and
`Store.Change`, the relation between a store and what a writer can make of it in
one successful operation.  A store is reachable if a sequence of such changes
leads to it from the empty store.
-/

namespace Gallery

namespace Store

def recategorized (store : Store) (name : String) (category : Category)
    (subcategory : Option Subcategory) : Store :=
  { store with
    tags := store.tags.map fun tag =>
      if tag.name = name then { tag with category := category, subcategory := subcategory }
      else tag }

theorem Healthy.recategorized {store : Store} (h : store.Healthy) (name : String)
    (category : Category) (subcategory : Option Subcategory) :
    (store.recategorized name category subcategory).Healthy :=
  h.of_eq rfl rfl

def keptSubcategory (category : Category) (subcategory : Option Subcategory) :
    Option Subcategory :=
  if category.allowsSubcategory then subcategory else none

theorem setTagCategory_of_healthy {store : Store} (h : store.Healthy) (name : String)
    (category : Category) (subcategory : Option Subcategory) :
    store.setTagCategory name category subcategory =
      match store.tagNamed? name with
      | none => .ok (false, store)
      | some tag =>
        .ok (true, (store.carriers tag.id).foldl refreshed
          (store.recategorized name category (keptSubcategory category subcategory))) := by
  unfold setTagCategory
  rw [require_of_healthy h]
  cases store.tagNamed? name with
  | none => rfl
  | some tag =>
      have hmoved := h.recategorized name category (keptSubcategory category subcategory)
      change (store.require [.attachments] >>= fun _ =>
        (store.recategorized name category (keptSubcategory category subcategory)).refreshAll
          (store.carriers tag.id) >>= fun next => pure (true, next)) = _
      rw [require_of_healthy h, refreshAll_of_healthy hmoved]
      rfl

def detached (store : Store) (item : ItemId) (tag : TagId) : Store :=
  { store with
    attachments := store.attachments.filter fun attachment =>
      ¬(attachment.item = item ∧ attachment.tag = tag) }

theorem Healthy.detached {store : Store} (h : store.Healthy) (item : ItemId) (tag : TagId) :
    (store.detached item tag).Healthy :=
  h.of_eq rfl rfl

theorem removeTag_of_healthy {store : Store} (h : store.Healthy) (path tag : String) :
    store.removeTag path tag =
      match store.itemAt? path with
      | none => .error (.noItem path)
      | some item =>
        match store.tagNamed? tag with
        | none => .ok (false, store)
        | some tag =>
          if store.isAttached item.id tag.id then
            .ok (true, (store.detached item.id tag.id).refreshed item.id)
          else .ok (false, store) := by
  unfold removeTag
  rw [itemIdAt_of_healthy h]
  cases store.itemAt? path with
  | none => rfl
  | some item =>
      change (store.require [.attachments, .tags] >>= fun _ => _) = _
      rw [require_of_healthy h]
      cases store.tagNamed? tag with
      | none => rfl
      | some tag =>
          have hdetached := h.detached item.id tag.id
          by_cases hattached : store.isAttached item.id tag.id = true
          · simp only [hattached, if_true]
            change ((store.detached item.id tag.id).refreshTexts item.id >>= fun next =>
              pure (true, next)) = _
            rw [refreshTexts_of_healthy hdetached]
            rfl
          · simp only [hattached]
            rfl

def pooled (store : Store) (pool : String) (item : ItemId) : Store :=
  if store.memberships.contains ⟨pool, item⟩ then store
  else { store with memberships := store.memberships ++ [⟨pool, item⟩] }

theorem Healthy.pooled {store : Store} (h : store.Healthy) (pool : String) (item : ItemId) :
    (store.pooled pool item).Healthy := by
  unfold Store.pooled
  split
  · exact h
  · exact h.of_eq rfl rfl

theorem addToPool_of_healthy {store : Store} (h : store.Healthy) (pool path : String) :
    store.addToPool pool path =
      match store.itemAt? path with
      | none => .error (.noItem path)
      | some item => .ok (store.pooled pool item.id) := by
  unfold addToPool pooled
  rw [itemIdAt_of_healthy h]
  cases store.itemAt? path with
  | none => rfl
  | some item =>
      change (store.require [.pools, .memberships] >>= fun _ => _) = _
      rw [require_of_healthy h]
      change (if store.memberships.contains ⟨pool, item.id⟩ then pure store else pure _) =
        Except.ok (if store.memberships.contains ⟨pool, item.id⟩ then store else _)
      split <;> rfl

def marked (store : Store) (item : ItemId) (favorite : Bool) : Store :=
  if favorite then
    if store.favorites.contains item then store
    else { store with favorites := store.favorites ++ [item] }
  else { store with favorites := store.favorites.filter (· ≠ item) }

theorem Healthy.marked {store : Store} (h : store.Healthy) (item : ItemId)
    (favorite : Bool) : (store.marked item favorite).Healthy := by
  unfold Store.marked
  split
  · split
    · exact h
    · exact h.of_eq rfl rfl
  · exact h.of_eq rfl rfl

theorem setFavorite_of_healthy {store : Store} (h : store.Healthy) (path : String)
    (favorite : Bool) :
    store.setFavorite path favorite =
      match store.itemAt? path with
      | none => .error (.noItem path)
      | some item => .ok (store.marked item.id favorite) := by
  unfold setFavorite marked
  rw [itemIdAt_of_healthy h]
  cases store.itemAt? path with
  | none => rfl
  | some item =>
      change (store.require [.favorites] >>= fun _ => _) = _
      rw [require_of_healthy h]
      cases favorite with
      | false => rfl
      | true =>
          change (if store.favorites.contains item.id then pure store else pure _) =
            Except.ok (if store.favorites.contains item.id then store else _)
          split <;> rfl

def pruned (store : Store) : Store :=
  { store with tags := store.tags.filter (! store.isOrphan ·) }

theorem deleteOrphanTags_of_healthy {store : Store} (h : store.Healthy) :
    store.deleteOrphanTags = .ok ((store.tags.filter store.isOrphan).length, store.pruned) := by
  unfold deleteOrphanTags
  rw [require_of_healthy h]
  rfl

/-! ## What a writer can make of a store -/

/-- One successful operation of a writer that may have changed the store. -/
inductive Change : Store → Store → Prop
  | batch {store next : Store} {batch : List ItemRecord}
      (valid : ∀ record ∈ batch, record.fault? = none)
      (done : store.storeBatch batch = .ok next) : Change store next
  | category {store next : Store} {name : String} {category : Category}
      {subcategory : Option Subcategory}
      (done : store.setTagCategory name category subcategory = .ok (true, next)) :
      Change store next
  | removal {store next : Store} {path tag : String}
      (done : store.removeTag path tag = .ok (true, next)) : Change store next
  | pool {store next : Store} {pool path : String}
      (done : store.addToPool pool path = .ok next) : Change store next
  | favorite {store next : Store} {path : String} {favorite : Bool}
      (done : store.setFavorite path favorite = .ok next) : Change store next
  | orphans {store next : Store} {count : ℕ}
      (done : store.deleteOrphanTags = .ok (count, next)) : Change store next

theorem mem_of_itemAt? {store : Store} {path : String} {item : StoredItem}
    (hitem : store.itemAt? path = some item) : item ∈ store.items ∧ item.filepath = path :=
  ⟨List.mem_of_find?_eq_some hitem, by simpa using List.find?_some hitem⟩

theorem mem_of_tagNamed? {store : Store} {name : String} {tag : Tag}
    (htag : store.tagNamed? name = some tag) : tag ∈ store.tags ∧ tag.name = name :=
  ⟨List.mem_of_find?_eq_some htag, by simpa using List.find?_some htag⟩

section Forms

variable {store next : Store}

theorem setTagCategory_ok
    (h : store.Healthy) {name : String} {category : Category} {subcategory : Option Subcategory}
    (hdone : store.setTagCategory name category subcategory = .ok (true, next)) :
    ∃ tag ∈ store.tags, tag.name = name ∧
      next = (store.carriers tag.id).foldl refreshed
        (store.recategorized tag.name category (keptSubcategory category subcategory)) := by
  rw [setTagCategory_of_healthy h] at hdone
  cases htag : store.tagNamed? name with
  | none =>
      rw [htag] at hdone
      cases hdone
  | some tag =>
      rw [htag] at hdone
      cases hdone
      obtain ⟨hmem, rfl⟩ := mem_of_tagNamed? htag
      exact ⟨tag, hmem, rfl, rfl⟩

theorem removeTag_ok
    (h : store.Healthy) {path name : String}
    (hdone : store.removeTag path name = .ok (true, next)) :
    ∃ item ∈ store.items, ∃ tag ∈ store.tags,
      store.isAttached item.id tag.id = true ∧
        next = (store.detached item.id tag.id).refreshed item.id := by
  rw [removeTag_of_healthy h] at hdone
  cases hitem : store.itemAt? path with
  | none =>
      rw [hitem] at hdone
      cases hdone
  | some item =>
      cases htag : store.tagNamed? name with
      | none =>
          rw [hitem, htag] at hdone
          cases hdone
      | some tag =>
          rw [hitem, htag] at hdone
          dsimp only at hdone
          split at hdone
          · rename_i hattached
            cases hdone
            exact ⟨item, (mem_of_itemAt? hitem).1, tag, (mem_of_tagNamed? htag).1, hattached, rfl⟩
          · cases hdone

theorem addToPool_ok
    (h : store.Healthy) {pool path : String} (hdone : store.addToPool pool path = .ok next) :
    ∃ item ∈ store.items, next = store.pooled pool item.id := by
  rw [addToPool_of_healthy h] at hdone
  cases hitem : store.itemAt? path with
  | none =>
      rw [hitem] at hdone
      cases hdone
  | some item =>
      rw [hitem] at hdone
      cases hdone
      exact ⟨item, (mem_of_itemAt? hitem).1, rfl⟩

theorem setFavorite_ok
    (h : store.Healthy) {path : String} {favorite : Bool}
    (hdone : store.setFavorite path favorite = .ok next) :
    ∃ item ∈ store.items, next = store.marked item.id favorite := by
  rw [setFavorite_of_healthy h] at hdone
  cases hitem : store.itemAt? path with
  | none =>
      rw [hitem] at hdone
      cases hdone
  | some item =>
      rw [hitem] at hdone
      cases hdone
      exact ⟨item, (mem_of_itemAt? hitem).1, rfl⟩

/-- What a healthy store can change into, with the operations spelled out. -/
theorem Change.forms (h : store.Healthy) (hchange : Change store next) :
    (∃ batch, (∀ record ∈ batch, record.fault? = none) ∧
      store.storeBatch batch = .ok next) ∨
    (∃ tag ∈ store.tags, ∃ category subcategory,
      next = (store.carriers tag.id).foldl refreshed
        (store.recategorized tag.name category (keptSubcategory category subcategory))) ∨
    (∃ item ∈ store.items, ∃ tag ∈ store.tags,
      store.isAttached item.id tag.id = true ∧
        next = (store.detached item.id tag.id).refreshed item.id) ∨
    (∃ item ∈ store.items, ∃ pool, next = store.pooled pool item.id) ∨
    (∃ item ∈ store.items, ∃ favorite, next = store.marked item.id favorite) ∨
    next = store.pruned := by
  cases hchange with
  | batch valid done => exact Or.inl ⟨_, valid, done⟩
  | category done =>
      obtain ⟨tag, htag, -, hnext⟩ := setTagCategory_ok h done
      exact Or.inr (Or.inl ⟨tag, htag, _, _, hnext⟩)
  | removal done => exact Or.inr (Or.inr (Or.inl (removeTag_ok h done)))
  | pool done =>
      obtain ⟨item, hitem, hnext⟩ := addToPool_ok h done
      exact Or.inr (Or.inr (Or.inr (Or.inl ⟨item, hitem, _, hnext⟩)))
  | favorite done =>
      obtain ⟨item, hitem, hnext⟩ := setFavorite_ok h done
      exact Or.inr (Or.inr (Or.inr (Or.inr (Or.inl ⟨item, hitem, _, hnext⟩))))
  | orphans done =>
      rw [deleteOrphanTags_of_healthy h] at done
      cases done
      exact Or.inr (Or.inr (Or.inr (Or.inr (Or.inr rfl))))

end Forms

theorem Healthy.refreshed_foldl {store : Store} (h : store.Healthy) (ids : List ItemId) :
    (ids.foldl Store.refreshed store).Healthy :=
  List.foldlRecOn ids _ h fun _ hstore id _ => hstore.refreshed id

theorem Change.healthy {store next : Store} (hchange : Change store next)
    (h : store.Healthy) : next.Healthy := by
  obtain ⟨batch, -, done⟩ | ⟨tag, -, category, subcategory, rfl⟩ |
    ⟨item, -, tag, -, -, rfl⟩ | ⟨item, -, pool, rfl⟩ | ⟨item, -, favorite, rfl⟩ | rfl :=
    hchange.forms h
  · exact (storeBatch_induction (motive := fun _ => True) h trivial
      (fun _ _ _ _ _ _ _ => trivial) done).1
  · exact (h.recategorized tag.name category _).refreshed_foldl _
  · exact (h.detached item.id tag.id).refreshed _
  · exact h.pooled pool item.id
  · exact h.marked item.id favorite
  · exact h.of_eq rfl rfl

theorem healthy_empty : Healthy {} :=
  ⟨rfl, rfl⟩

/-- A store that writers can make out of the empty one. -/
def Reachable (store : Store) : Prop :=
  Relation.ReflTransGen Change {} store

end Store

end Gallery
