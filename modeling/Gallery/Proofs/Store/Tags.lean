import Gallery.Proofs.Store.Replay

/-!
# The tags of a store over its changes

Storing records adds tags behind those that are there, each in the category that its
assignment has in effect.  Moving a tag to a category and taking one off an item leave
every tag its number and its name.  Only the removal of tags that no item has makes a
number free again.
-/

namespace Gallery

namespace Store

variable {store next : Store}

/-! ## Stored records -/

/-- The tags of a later store are those of an earlier one and some that were assigned. -/
structure TagsFrom (store next : Store) : Prop where
  kept : store.tags <+: next.tags
  new : ∀ tag ∈ next.tags, tag ∈ store.tags ∨
    ∃ assigned : TagAssignment, tag.name = assigned.name ∧
      tag.category = assigned.effectiveCategory

theorem TagsFrom.of_eq (htags : next.tags = store.tags) : TagsFrom store next where
  kept := htags ▸ List.prefix_rfl
  new := fun _ htag => .inl (htags ▸ htag)

theorem TagsFrom.trans {later : Store} (h : TagsFrom store next) (hlater : TagsFrom next later) :
    TagsFrom store later where
  kept := h.kept.trans hlater.kept
  new := by
    intro tag htag
    rcases hlater.new tag htag with hnext | hassigned
    · exact h.new tag hnext
    · exact .inr hassigned

theorem tagsFrom_assignTag (id : ItemId) (store : Store) (assigned : TagAssignment) :
    TagsFrom store (assignTag id store assigned) := by
  have hplaced : TagsFrom store (store.placeTag assigned.name assigned.effectiveCategory
      assigned.effectiveSubcategory).2 := by
    unfold placeTag
    split
    · exact .of_eq rfl
    · refine ⟨List.prefix_append _ _, ?_⟩
      intro tag htag
      rcases List.mem_append.1 htag with hold | hnew
      · exact .inl hold
      · rcases List.mem_singleton.1 hnew with rfl
        exact .inr ⟨assigned, rfl, rfl⟩
  refine hplaced.trans (.of_eq ?_)
  unfold assignTag attach
  dsimp only
  split <;> rfl

theorem addSource_tags (store : Store) (id : ItemId) (source : String) :
    (addSource id store source).tags = store.tags := by
  unfold addSource
  dsimp only
  split <;> rfl

theorem tagsFrom_annotated (store : Store) (id : ItemId) (record : ItemRecord) :
    TagsFrom store (store.annotated id record) := by
  unfold annotated
  apply List.foldlRecOn
  · refine List.foldlRecOn record.tags _ (.of_eq rfl) ?_
    exact fun before hbefore assigned _ => hbefore.trans (tagsFrom_assignTag id before assigned)
  · exact fun before hbefore source _ =>
      hbefore.trans (.of_eq (addSource_tags before id source))

theorem welcomed_tags (store : Store) (record : ItemRecord) :
    (store.welcomed record).tags = store.tags := by
  rcases store.welcomed_cases record with hsame | hnew
  · rw [hsame]
  · rw [hnew]

theorem tagsFrom_recorded (store : Store) (id : ItemId) (record : ItemRecord) :
    TagsFrom store (store.recorded id record) := by
  have hlinked : TagsFrom store ((store.alter id (refreshedItem record)).childOf id
      (store.parentId? record)) := by
    apply TagsFrom.of_eq
    cases store.parentId? record <;> rfl
  exact (hlinked.trans (tagsFrom_annotated _ id record)).trans (.of_eq rfl)

theorem tagsFrom_storeBatch (hhealthy : store.Healthy) {batch : List ItemRecord}
    (hdone : store.storeBatch batch = .ok next) : TagsFrom store next := by
  refine (storeBatch_induction (motive := TagsFrom store) hhealthy (.of_eq rfl) ?_ hdone).2
  intro before after record hbefore hfrom _ hafter
  obtain ⟨id, -, -, rfl⟩ := storeRecord_eq_recorded hbefore hafter
  have hwelcomed : TagsFrom before (before.welcomed record) :=
    .of_eq (before.welcomed_tags record)
  exact (hfrom.trans hwelcomed).trans (tagsFrom_recorded _ id record)

/-! ## Other changes -/

theorem pooled_eq (store : Store) (pool : String) (id : ItemId) :
    store.pooled pool id = { store with memberships := (store.pooled pool id).memberships } := by
  unfold pooled
  split <;> rfl

theorem marked_eq (store : Store) (id : ItemId) (favorite : Bool) :
    store.marked id favorite = { store with favorites := (store.marked id favorite).favorites } := by
  unfold marked
  split
  · split <;> rfl
  · rfl

theorem tags_refreshed_foldl (store : Store) (ids : List ItemId) :
    (ids.foldl refreshed store).tags = store.tags := by
  induction ids generalizing store with
  | nil => rfl
  | cons id ids ih => exact ih (store.refreshed id)

end Store

end Gallery
