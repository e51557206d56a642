import Gallery.Proofs.Store.Texts
import Mathlib.Data.String.Basic

/-!
# Consistent stores

A store is consistent if its relations are sound and every item shows the tags
that are attached to it.  Every change of a writer keeps a store consistent, so
all reachable stores are.  Halfway through a record the texts of its item are
behind, and only the writing of this item's texts at the end makes up for it.
-/

namespace Gallery

open Text

namespace Store

structure Consistent (store : Store) : Prop where
  sound : store.Sound
  texts : store.TextsOutside []

theorem consistent_empty : Consistent {} := by
  refine ⟨sound_empty, ?_⟩
  intro item hitem
  simp at hitem

variable {store next : Store}

/-! ## The row of an item stays -/

theorem exists_row_alter
    {item : ItemId} (hitem : ∃ row ∈ store.items, row.id = item) (id : ItemId)
    {change : StoredItem → StoredItem} (hid : ∀ row, (change row).id = row.id) :
    ∃ row ∈ (store.alter id change).items, row.id = item := by
  obtain ⟨row, hrow, rfl⟩ := hitem
  refine ⟨if row.id = id then change row else row, List.mem_map_of_mem hrow, ?_⟩
  split
  · exact hid row
  · rfl

/-- A placed record has a row under the number that is answered. -/
theorem exists_row_placed (store : Store) (record : ItemRecord) :
    ∃ row ∈ (store.placed record).2.items, row.id = (store.placed record).1 := by
  unfold placed
  cases hitem : store.itemAt? record.filepath with
  | some item =>
      exact exists_row_alter ⟨item, (mem_of_itemAt? hitem).1, rfl⟩ item.id fun _ => rfl
  | none => exact ⟨_, List.mem_append_right _ (List.mem_singleton_self _), rfl⟩

theorem exists_row_joinedTo
    {item : ItemId} (hitem : ∃ row ∈ store.items, row.id = item) {child : ItemId}
    {parent? : Option String} (hnext : store.joinedTo child parent? = .ok next) :
    ∃ row ∈ next.items, row.id = item := by
  unfold joinedTo at hnext
  split at hnext
  · cases hnext
    exact hitem
  · split at hnext
    · cases hnext
      unfold linked
      apply exists_row_alter
      · exact exists_row_alter hitem child fun _ => rfl
      · exact fun _ => rfl
    · cases hnext

/-! ## Changes keep a store consistent -/

theorem Consistent.storeRecord
    (h : store.Consistent) {record : ItemRecord} (hrecord : record.fault? = none)
    (hnext : store.storeRecord record = .ok next) : next.Consistent := by
  obtain ⟨joined, hjoined, rfl⟩ := storeRecord_ok h.sound.healthy hnext
  have hsound : joined.Sound := (h.sound.placed record).joinedTo hjoined
  have htexts : joined.TextsOutside [(store.placed record).1] :=
    (h.texts.placed record).joinedTo hjoined
  have hrow := exists_row_joinedTo (exists_row_placed store record) hjoined
  obtain ⟨hannotated, hstale⟩ := htexts.annotated hsound hrow hrecord
  exact ⟨hannotated.refreshed _, hstale.refreshed⟩

theorem Sound.refreshed_foldl (h : store.Sound) (ids : List ItemId) :
    (ids.foldl Store.refreshed store).Sound :=
  List.foldlRecOn ids _ h fun _ hstore id _ => hstore.refreshed id

theorem Change.consistent (hchange : Change store next) (h : store.Consistent) :
    next.Consistent := by
  have hsound := h.sound
  obtain ⟨batch, hvalid, hdone⟩ | ⟨tag, htag, category, subcategory, rfl⟩ |
    ⟨item, -, tag, -, -, rfl⟩ | ⟨item, -, pool, rfl⟩ | ⟨item, -, favorite, rfl⟩ | rfl :=
    hchange.forms hsound.healthy
  · refine (storeBatch_induction (motive := Consistent) hsound.healthy h ?_ hdone).2
    intro before after record _ hbefore hrecord hafter
    exact hbefore.storeRecord (hvalid record hrecord) hafter
  · have hmoved := hsound.recategorized tag.name category subcategory
    have hstale := h.texts.recategorized hsound htag category
      (keptSubcategory category subcategory)
    exact ⟨hmoved.refreshed_foldl _, hstale.refreshed_foldl⟩
  · have hstale := h.texts.detached item.id tag.id
    exact ⟨(hsound.detached item.id tag.id).refreshed _, hstale.refreshed⟩
  · refine ⟨hsound.pooled pool item.id, ?_⟩
    unfold Store.pooled
    split
    · exact h.texts
    · exact h.texts.of_items rfl fun _ _ _ => rfl
  · refine ⟨hsound.marked item.id favorite, ?_⟩
    unfold Store.marked
    split
    · split
      · exact h.texts
      · exact h.texts.of_items rfl fun _ _ _ => rfl
    · exact h.texts.of_items rfl fun _ _ _ => rfl
  · exact ⟨hsound.pruned, h.texts.pruned hsound⟩

theorem Reachable.consistent (h : store.Reachable) : store.Consistent := by
  induction h with
  | refl => exact consistent_empty
  | tail _ hchange ih => exact hchange.consistent ih

/-! ## The names of an item -/

/-- The names of an item's tags of one category, in the order of their bytes. -/
def namesOf (store : Store) (item : ItemId) (category : Category) : List String :=
  (((store.tagsOf item).mergeSort nameOrder).filter (·.category = category)).map (·.name)

theorem get_attachedTexts (store : Store) (item : ItemId) (category : Category) :
    (store.attachedTexts item).get category = " ".intercalate (store.namesOf item category) := by
  rw [attachedTexts, CategoryTags.get_build]
  rfl

/-- The names of an item are those of the tags attached to it. -/
theorem Sound.mem_namesOf_iff
    (h : store.Sound) {item : ItemId} {category : Category} {name : String} :
    name ∈ store.namesOf item category ↔
      ∃ tag ∈ store.tags, tag.name = name ∧ tag.category = category ∧
        ∃ a ∈ store.attachments, a.item = item ∧ a.tag = tag.id := by
  simp only [namesOf, List.mem_map, List.mem_filter, List.mem_mergeSort, decide_eq_true_eq,
    h.mem_tagsOf_iff]
  constructor
  · rintro ⟨tag, ⟨⟨htag, hattached⟩, hcategory⟩, hname⟩
    exact ⟨tag, htag, hname, hcategory, hattached⟩
  · rintro ⟨tag, htag, hname, hcategory, hattached⟩
    exact ⟨tag, ⟨⟨htag, hattached⟩, hcategory⟩, hname⟩

theorem Sound.isWord_of_mem_namesOf
    (h : store.Sound) {item : ItemId} {category : Category} {name : String}
    (hname : name ∈ store.namesOf item category) : isWord name = true := by
  obtain ⟨tag, htag, rfl, -⟩ := h.mem_namesOf_iff.1 hname
  exact h.tagWords tag htag

theorem nameOrder_iff {a b : Tag} : nameOrder a b = true ↔ a.name ≤ b.name := by
  rw [nameOrder, Bool.not_eq_true', decide_eq_false_iff_not, not_lt]

/-- No tag of an item is listed twice, and two tags of one name are one tag. -/
theorem Sound.pairwise_namesOf (h : store.Sound) (item : ItemId) (category : Category) :
    (store.namesOf item category).Pairwise (· < ·) := by
  have hsorted :
      ((store.tagsOf item).mergeSort nameOrder).Pairwise fun a b => a.name ≤ b.name := by
    have htrans : ∀ a b c, nameOrder a b = true → nameOrder b c = true →
        nameOrder a c = true := by
      intro a b c hab hbc
      rw [nameOrder_iff] at *
      exact hab.trans hbc
    have htotal : ∀ a b, (nameOrder a b || nameOrder b a) = true := by
      intro a b
      rw [Bool.or_eq_true, nameOrder_iff, nameOrder_iff]
      exact le_total a.name b.name
    have hordered := List.pairwise_mergeSort htrans htotal (store.tagsOf item)
    exact hordered.imp nameOrder_iff.1
  have hdistinct :
      ((store.tagsOf item).mergeSort nameOrder).Pairwise fun a b => a.name ≠ b.name := by
    have hnodup : ((store.tagsOf item).mergeSort nameOrder).Nodup :=
      (List.mergeSort_perm _ _).nodup_iff.2 (h.nodup_tagsOf item)
    refine hnodup.imp_of_mem ?_
    intro a b ha hb hne hname
    have hatag := (h.mem_tagsOf_iff.1 (List.mem_mergeSort.1 ha)).1
    have hbtag := (h.mem_tagsOf_iff.1 (List.mem_mergeSort.1 hb)).1
    exact hne (h.tag_eq_of_name hatag hbtag hname)
  have hstrict :
      ((store.tagsOf item).mergeSort nameOrder).Pairwise fun a b => a.name < b.name :=
    (hsorted.and hdistinct).imp fun hab => lt_of_le_of_ne hab.1 hab.2
  exact List.pairwise_map.2 (hstrict.sublist List.filter_sublist)

/-- What an item shows of a category, and that it is read back as it was. -/
theorem Consistent.get_tags
    (h : store.Consistent) {item : StoredItem} (hitem : item ∈ store.items)
    (category : Category) :
    item.tags.get category = " ".intercalate (store.namesOf item.id category) := by
  rw [h.texts item hitem List.not_mem_nil, get_attachedTexts]

theorem Consistent.words_get
    (h : store.Consistent) {item : StoredItem} (hitem : item ∈ store.items)
    (category : Category) :
    words (item.tags.get category) = store.namesOf item.id category := by
  rw [h.get_tags hitem]
  exact words_intercalate_names fun name hname => h.sound.isWord_of_mem_namesOf hname

end Store

end Gallery
