import Gallery.Proofs.Store.Sound

/-!
# Texts that follow the attachments

An item shows its tags as seven texts, which a write brings up to date for the
items that it touches.  `TextsOutside stale` says that the texts of all items but
those in a list are what the attachments amount to.  Every step of a write keeps
such a statement for the items it may have left behind, and `refreshed` takes one
item off the list; when a write is done the list is empty.
-/

namespace Gallery

namespace Store

/-- The texts of every item outside a list are those of its attachments. -/
def TextsOutside (store : Store) (stale : List ItemId) : Prop :=
  ∀ item ∈ store.items, item.id ∉ stale → item.tags = store.attachedTexts item.id

variable {store next : Store}

theorem tagsOf_congr {item : ItemId}
    (hattached : next.attachmentsOf item = store.attachmentsOf item)
    (htags : ∀ a ∈ store.attachments, a.item = item →
      next.tagWithId? a.tag = store.tagWithId? a.tag) :
    next.tagsOf item = store.tagsOf item := by
  unfold tagsOf
  rw [hattached]
  apply List.filterMap_congr
  intro a ha
  have hmem := List.mem_filter.1 ha
  exact htags a hmem.1 (by simpa using hmem.2)

theorem attachedTexts_congr {item : ItemId} (htags : next.tagsOf item = store.tagsOf item) :
    next.attachedTexts item = store.attachedTexts item := by
  unfold attachedTexts
  rw [htags]

theorem TextsOutside.of_items {stale : List ItemId} (h : store.TextsOutside stale)
    (hitems : next.items = store.items)
    (htags : ∀ item ∈ store.items, item.id ∉ stale →
      next.tagsOf item.id = store.tagsOf item.id) :
    next.TextsOutside stale := by
  intro item hitem hout
  rw [hitems] at hitem
  rw [attachedTexts_congr (htags item hitem hout)]
  exact h item hitem hout

theorem TextsOutside.mono {stale more : List ItemId} (h : store.TextsOutside stale)
    (hsub : ∀ id ∈ stale, id ∈ more) : store.TextsOutside more :=
  fun item hitem hout => h item hitem fun hmem => hout (hsub _ hmem)

/-! ## Changes of items -/

/-- Changing an item keeps the texts of the others, and its own unless it is on the
list or the change leaves them alone. -/
theorem TextsOutside.alter {stale : List ItemId} (h : store.TextsOutside stale) (id : ItemId)
    {change : StoredItem → StoredItem} (hid : ∀ item, (change item).id = item.id)
    (htags : id ∉ stale → ∀ item, (change item).tags = item.tags) :
    (store.alter id change).TextsOutside stale := by
  intro item hitem hout
  obtain ⟨old, hold, rfl⟩ := List.mem_map.1 hitem
  change _ = store.attachedTexts _
  by_cases heq : old.id = id
  · simp only [heq, if_true, hid] at hout ⊢
    rw [htags hout old, ← heq]
    exact h old hold (heq ▸ hout)
  · simp only [heq, if_false] at hout ⊢
    exact h old hold hout

theorem TextsOutside.placed (h : store.TextsOutside []) (record : ItemRecord) :
    (store.placed record).2.TextsOutside [(store.placed record).1] := by
  unfold Store.placed
  cases store.itemAt? record.filepath with
  | some item =>
      have hkept : (store.alter item.id (refreshedItem record)).TextsOutside [] :=
        h.alter item.id (fun _ => rfl) (fun _ _ => rfl)
      exact hkept.mono (by simp)
  | none =>
      intro item hitem hout
      rcases List.mem_append.1 hitem with hold | hnew
      · exact h item hold (by simp)
      · rcases List.mem_singleton.1 hnew with rfl
        exact absurd (List.mem_singleton_self _) hout

theorem TextsOutside.linked {stale : List ItemId} (h : store.TextsOutside stale)
    (child parent : ItemId) : (store.linked child parent).TextsOutside stale := by
  unfold Store.linked
  apply TextsOutside.alter
  · exact h.alter child (fun _ => rfl) (fun _ _ => rfl)
  · exact fun _ => rfl
  · exact fun _ _ => rfl

theorem TextsOutside.joinedTo {stale : List ItemId} (h : store.TextsOutside stale)
    {child : ItemId} {parent? : Option String}
    (hnext : store.joinedTo child parent? = .ok next) : next.TextsOutside stale := by
  unfold Store.joinedTo at hnext
  split at hnext
  · cases hnext
    exact h
  · split at hnext
    · cases hnext
      exact h.linked _ _
    · cases hnext

/-- Writing the texts of an item takes it off the list. -/
theorem TextsOutside.refreshed {id : ItemId} {stale : List ItemId}
    (h : store.TextsOutside (id :: stale)) : (store.refreshed id).TextsOutside stale := by
  intro item hitem hout
  obtain ⟨old, hold, rfl⟩ := List.mem_map.1 hitem
  change _ = store.attachedTexts _
  by_cases heq : old.id = id
  · simp [heq]
  · simp only [heq, if_false] at hout ⊢
    exact h old hold (by simp [heq, hout])

theorem TextsOutside.refreshed_foldl {ids : List ItemId} (h : store.TextsOutside ids) :
    (ids.foldl Store.refreshed store).TextsOutside [] := by
  induction ids generalizing store with
  | nil => exact h
  | cons id ids ih => exact ih h.refreshed

/-! ## Changes of tags and attachments -/

theorem TextsOutside.placeTag {stale : List ItemId} (h : store.TextsOutside stale)
    (hsound : store.Sound) (name : String) (category : Category)
    (subcategory : Option Subcategory) :
    (store.placeTag name category subcategory).2.TextsOutside stale := by
  refine h.of_items (placeTag_items _ _ _ _) ?_
  intro item _ _
  unfold Store.placeTag
  cases store.tagNamed? name with
  | some tag => rfl
  | none =>
      refine tagsOf_congr rfl ?_
      intro a ha _
      obtain ⟨tag, htag, heq⟩ := hsound.attachedTags a ha
      have hfound : store.tagWithId? a.tag = some tag :=
        hsound.tagWithId?_eq_some_iff.2 ⟨htag, heq⟩
      rw [hfound]
      unfold tagWithId? at hfound ⊢
      rw [List.find?_append, hfound]
      rfl

theorem TextsOutside.attach {item : ItemId} (h : store.TextsOutside [item]) (tag : TagId)
    (provenance : Provenance) : (store.attach item tag provenance).TextsOutside [item] := by
  refine h.of_items (attach_items _ _ _ _) ?_
  intro other _ hout
  have hne : item ≠ other.id := fun heq => hout (by simp [heq])
  unfold Store.attach
  split
  · rfl
  · refine tagsOf_congr ?_ fun _ _ _ => rfl
    simp [attachmentsOf, hne]

theorem TextsOutside.annotated {item : ItemId} (h : store.TextsOutside [item])
    (hsound : store.Sound) (hitem : ∃ row ∈ store.items, row.id = item)
    {record : ItemRecord} (hrecord : record.fault? = none) :
    (store.annotated item record).Sound ∧ (store.annotated item record).TextsOutside [item] := by
  have hwords : ∀ tag ∈ record.tags, isWord tag.name = true := by
    intro tag htag
    unfold ItemRecord.fault? at hrecord
    split at hrecord
    · cases hrecord
    · have hnone := List.find?_eq_none.1 (Option.map_eq_none_iff.1 hrecord) tag htag
      simpa using hnone
  have htagged :
      let tagged := record.tags.foldl (assignTag item) store
      tagged.Sound ∧ tagged.TextsOutside [item] ∧ ∃ row ∈ tagged.items, row.id = item := by
    refine List.foldlRecOn
      (motive := fun s : Store =>
        s.Sound ∧ s.TextsOutside [item] ∧ ∃ row ∈ s.items, row.id = item)
      record.tags (assignTag item) ⟨hsound, h, hitem⟩ ?_
    rintro before ⟨hbefore, htexts, hrow⟩ tag htag
    refine ⟨hbefore.assignTag hrow (hwords tag htag), ?_, ?_⟩
    · exact (htexts.placeTag hbefore _ _ _).attach _ _
    · rw [assignTag_items]
      exact hrow
  unfold Store.annotated
  refine List.foldlRecOn
    (motive := fun s : Store => s.Sound ∧ s.TextsOutside [item])
    record.sources (addSource item) ⟨htagged.1, htagged.2.1⟩ ?_
  rintro before ⟨hbefore, htexts⟩ source _
  refine ⟨hbefore.addSource item source, ?_⟩
  unfold Store.addSource
  dsimp only
  split
  · exact htexts
  · exact htexts.of_items rfl fun _ _ _ => rfl

/-- An item that does not carry the tag has only tags of other names. -/
theorem TextsOutside.recategorized (h : store.TextsOutside []) (hsound : store.Sound)
    {tag : Tag} (htag : tag ∈ store.tags) (category : Category)
    (subcategory : Option Subcategory) :
    (store.recategorized tag.name category subcategory).TextsOutside
      (store.carriers tag.id) := by
  refine (h.mono (by simp)).of_items rfl ?_
  intro item _ hout
  refine tagsOf_congr rfl ?_
  intro a ha hitem
  obtain ⟨other, hother, heq⟩ := hsound.attachedTags a ha
  have hfound : store.tagWithId? a.tag = some other :=
    hsound.tagWithId?_eq_some_iff.2 ⟨hother, heq⟩
  have hname : other.name ≠ tag.name := by
    intro hname
    have hsame : other = tag := hsound.tag_eq_of_name hother htag hname
    apply hout
    refine List.mem_map.2 ⟨a, List.mem_filter.2 ⟨ha, ?_⟩, hitem⟩
    simp [← heq, hsame]
  rw [hfound]
  unfold tagWithId? Store.recategorized at *
  dsimp only
  rw [List.find?_map]
  have hkey :
      ((fun tag : Tag => decide (tag.id = a.tag)) ∘ fun other : Tag =>
        if other.name = tag.name then
          { other with category := category, subcategory := subcategory }
        else other) = fun tag : Tag => decide (tag.id = a.tag) := by
    funext other
    simp only [Function.comp_apply]
    split <;> rfl
  rw [hkey, hfound, Option.map_some, if_neg hname]

theorem TextsOutside.detached (h : store.TextsOutside []) (item : ItemId) (tag : TagId) :
    (store.detached item tag).TextsOutside [item] := by
  refine (h.mono (by simp)).of_items rfl ?_
  intro other _ hout
  have hne : other.id ≠ item := fun heq => hout (by simp [heq])
  refine tagsOf_congr ?_ fun _ _ _ => rfl
  unfold attachmentsOf Store.detached
  dsimp only
  rw [List.filter_filter]
  apply List.filter_congr
  intro a _
  by_cases ha : a.item = other.id
  · simp [ha, hne]
  · simp [ha]

theorem TextsOutside.pruned (h : store.TextsOutside []) (hsound : store.Sound) :
    store.pruned.TextsOutside [] := by
  refine h.of_items rfl ?_
  intro item _ _
  refine tagsOf_congr rfl ?_
  intro a ha _
  obtain ⟨tag, htag, heq⟩ := hsound.pruned.attachedTags a ha
  have hfound : store.pruned.tagWithId? a.tag = some tag :=
    hsound.pruned.tagWithId?_eq_some_iff.2 ⟨htag, heq⟩
  have hbefore : store.tagWithId? a.tag = some tag :=
    hsound.tagWithId?_eq_some_iff.2 ⟨List.mem_of_mem_filter htag, heq⟩
  rw [hfound, hbefore]

end Store

end Gallery
