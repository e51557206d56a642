import Gallery.Proofs.Catalog.Related

/-!
# Moving a tag between categories

Moving a tag writes the row of the tag and, from the attachments, the texts of the items
that have it.  Both are written as a whole, so a later move leaves nothing of an earlier
one.  In a consistent store the texts are what the attachments amount to, and a tag that is
moved to where it is leaves the store as it was; so every move can be taken back.
-/

namespace Gallery

namespace Store

variable {store : Store} {tag : Tag} {category later : Category}
  {subcategory latter : Option Subcategory}

/-! ## Texts that are written anew -/

/-- The item with the texts given for it, if it is one of those to be written. -/
def rewriteTexts (ids : List ItemId) (texts : ItemId → CategoryTags) (item : StoredItem) :
    StoredItem :=
  if item.id ∈ ids then { item with tags := texts item.id } else item

@[simp] theorem rewriteTexts_id (ids : List ItemId) (texts : ItemId → CategoryTags)
    (item : StoredItem) : (rewriteTexts ids texts item).id = item.id := by
  unfold rewriteTexts
  split <;> rfl

def withTexts (store : Store) (ids : List ItemId) (texts : ItemId → CategoryTags) : Store :=
  { store with items := store.items.map (rewriteTexts ids texts) }

theorem withTexts_withTexts (store : Store) (ids : List ItemId)
    (texts others : ItemId → CategoryTags) :
    (store.withTexts ids texts).withTexts ids others = store.withTexts ids others := by
  unfold withTexts
  rw [List.map_map]
  congr 1
  apply List.map_congr_left
  intro item _
  by_cases hid : item.id ∈ ids
  · simp [rewriteTexts, hid]
  · simp [rewriteTexts, hid]

/-- The texts of one item do not bear on those of another. -/
theorem refreshed_foldl_eq (store : Store) (ids : List ItemId) :
    ids.foldl refreshed store = store.withTexts ids store.attachedTexts := by
  induction ids generalizing store with
  | nil =>
      have hnone : rewriteTexts [] store.attachedTexts = id := by
        funext item
        simp [rewriteTexts]
      simp [withTexts, hnone]
  | cons id ids ih =>
      have hfirst : (store.refreshed id).attachedTexts = store.attachedTexts := rfl
      rw [List.foldl_cons, ih, hfirst]
      unfold withTexts refreshed alter
      rw [List.map_map]
      congr 1
      apply List.map_congr_left
      intro item _
      by_cases hid : item.id = id
      · simp [rewriteTexts, hid]
      · simp [rewriteTexts, hid]

theorem Consistent.withTexts_attachedTexts (h : store.Consistent) (ids : List ItemId) :
    store.withTexts ids store.attachedTexts = store := by
  have hitems : (store.withTexts ids store.attachedTexts).items = store.items := by
    unfold withTexts
    conv_rhs => rw [← List.map_id store.items]
    apply List.map_congr_left
    intro item hitem
    rw [rewriteTexts, ← h.texts item hitem List.not_mem_nil]
    simp
  exact congrArg (fun items => { store with items := items }) hitems

/-! ## The row of a tag -/

theorem recategorized_recategorized (store : Store) (name : String) (category later : Category)
    (subcategory latter : Option Subcategory) :
    (store.recategorized name category subcategory).recategorized name later latter =
      store.recategorized name later latter := by
  unfold recategorized
  rw [List.map_map]
  congr 1
  apply List.map_congr_left
  intro other _
  by_cases hname : other.name = name
  · simp [hname]
  · simp [hname]

theorem tagNamed?_recategorized (store : Store) (name : String) (category : Category)
    (subcategory : Option Subcategory) :
    (store.recategorized name category subcategory).tagNamed? name =
      (store.tagNamed? name).map fun tag =>
        { tag with category := category, subcategory := subcategory } := by
  have hsame : ((fun other : Tag => decide (other.name = name)) ∘ fun other : Tag =>
      if other.name = name then { other with category := category, subcategory := subcategory }
      else other) = fun other => decide (other.name = name) := by
    funext other
    simp only [Function.comp_apply]
    split <;> rfl
  unfold tagNamed? recategorized
  rw [List.find?_map, hsame]
  apply Option.map_congr
  intro other hother
  have hname : other.name = name := by simpa using List.find?_some hother
  rw [if_pos hname]

theorem Sound.recategorized_self (h : store.Sound) (htag : tag ∈ store.tags) :
    store.recategorized tag.name tag.category (keptSubcategory tag.category tag.subcategory) =
      store := by
  have hkept : keptSubcategory tag.category tag.subcategory = tag.subcategory := by
    have hallowed := h.subcategories tag htag
    unfold keptSubcategory
    cases hsub : tag.subcategory with
    | none => simp
    | some sub => rw [if_pos (hallowed (by rw [hsub]; rfl))]
  have htags : (store.recategorized tag.name tag.category tag.subcategory).tags = store.tags := by
    unfold Store.recategorized
    conv_rhs => rw [← List.map_id store.tags]
    apply List.map_congr_left
    intro other hother
    by_cases hname : other.name = tag.name
    · rw [h.tag_eq_of_name hother htag hname]
      simp
    · simp [hname]
  rw [hkept]
  exact congrArg (fun tags => { store with tags := tags }) htags

/-! ## The store after a move -/

def moved (store : Store) (tag : Tag) (category : Category)
    (subcategory : Option Subcategory) : Store :=
  let next := store.recategorized tag.name category (keptSubcategory category subcategory)
  next.withTexts (store.carriers tag.id) next.attachedTexts

theorem setTagCategory_eq_moved (hhealthy : store.Healthy) {name : String}
    (hnamed : store.tagNamed? name = some tag) (category : Category)
    (subcategory : Option Subcategory) :
    store.setTagCategory name category subcategory =
      .ok (true, store.moved tag category subcategory) := by
  obtain ⟨-, rfl⟩ := mem_of_tagNamed? hnamed
  rw [setTagCategory_of_healthy hhealthy, hnamed]
  dsimp only
  rw [refreshed_foldl_eq]
  rfl

theorem moved_moved (store : Store) (tag : Tag) (category later : Category)
    (subcategory latter : Option Subcategory) :
    (store.moved tag category subcategory).moved tag later latter =
      store.moved tag later latter := by
  let between := store.recategorized tag.name category (keptSubcategory category subcategory)
  let next := store.recategorized tag.name later (keptSubcategory later latter)
  have hrow : between.recategorized tag.name later (keptSubcategory later latter) = next :=
    store.recategorized_recategorized tag.name category later _ _
  calc
    (store.moved tag category subcategory).moved tag later latter =
        ((between.recategorized tag.name later (keptSubcategory later latter)).withTexts
          (store.carriers tag.id) between.attachedTexts).withTexts (store.carriers tag.id)
          (between.recategorized tag.name later (keptSubcategory later latter)).attachedTexts :=
      rfl
    _ = next.withTexts (store.carriers tag.id) next.attachedTexts := by
      rw [hrow, withTexts_withTexts]

theorem Consistent.moved_self (h : store.Consistent) (htag : tag ∈ store.tags) :
    store.moved tag tag.category tag.subcategory = store := by
  unfold moved
  dsimp only
  rw [h.sound.recategorized_self htag, h.withTexts_attachedTexts]

theorem Sound.moved_eq (h : store.Sound) (htag : tag ∈ store.tags) (category : Category)
    (subcategory : Option Subcategory) :
    store.moved tag category subcategory =
      { store with
        tags := store.tags.map fun other =>
          if other = tag then
            { tag with
              category := category
              subcategory := keptSubcategory category subcategory }
          else other
        items := store.items.map fun item =>
          if store.Carries item.id tag then
            { item with
              tags := (store.moved tag category subcategory).attachedTexts item.id }
          else item } := by
  have htags : (store.moved tag category subcategory).tags =
      store.tags.map fun other =>
        if other = tag then
          { tag with
            category := category
            subcategory := keptSubcategory category subcategory }
        else other := by
    apply List.map_congr_left
    intro other hother
    by_cases hname : other.name = tag.name
    · rw [h.tag_eq_of_name hother htag hname]
      simp
    · have hne : other ≠ tag := fun heq => hname (congrArg Tag.name heq)
      rw [if_neg hname, if_neg hne]
  have hitems : (store.moved tag category subcategory).items =
      store.items.map fun item =>
        if store.Carries item.id tag then
          { item with tags := (store.moved tag category subcategory).attachedTexts item.id }
        else item := by
    apply List.map_congr_left
    intro item _
    have hcarries : item.id ∈ store.carriers tag.id ↔ store.Carries item.id tag :=
      mem_carriers_iff.trans (and_iff_right htag).symm
    simp only [rewriteTexts, hcarries]
    rfl
  rw [← htags, ← hitems]
  rfl

/-! ## Names that stay -/

/-- Tags keep their numbers and names, so an item carries tags of the same names. -/
theorem exists_carries_recategorized_iff {id : ItemId} {name shown : String} :
    (∃ other, (store.recategorized name category subcategory).Carries id other ∧
        other.name = shown) ↔
      ∃ other, store.Carries id other ∧ other.name = shown := by
  constructor
  · rintro ⟨other, ⟨hother, a, ha, hitem, hid⟩, hname⟩
    obtain ⟨old, hold, rfl⟩ := List.mem_map.1 hother
    refine ⟨old, ⟨hold, a, ha, hitem, ?_⟩, ?_⟩
    · rw [hid]
      split <;> rfl
    · rw [← hname]
      split <;> rfl
  · rintro ⟨old, ⟨hold, a, ha, hitem, hid⟩, hname⟩
    refine ⟨_, ⟨List.mem_map_of_mem hold, a, ha, hitem, ?_⟩, ?_⟩
    · rw [hid]
      split <;> rfl
    · rw [← hname]
      split <;> rfl

theorem Consistent.tagSets_moved (h : store.Consistent) (htag : tag ∈ store.tags)
    (category : Category) (subcategory : Option Subcategory) :
    (store.moved tag category subcategory).items.map (·.tags.tagSet.toFinset) =
      store.items.map (·.tags.tagSet.toFinset) := by
  have hnamed : store.tagNamed? tag.name = some tag :=
    h.sound.tagNamed?_eq_some_iff.2 ⟨htag, rfl⟩
  have hchange : Change store (store.moved tag category subcategory) :=
    .category (setTagCategory_eq_moved h.sound.healthy hnamed category subcategory)
  have hmoved := hchange.consistent h
  let texts := (store.moved tag category subcategory).attachedTexts
  change (store.items.map (rewriteTexts (store.carriers tag.id) texts)).map _ = _
  rw [List.map_map]
  apply List.map_congr_left
  intro item hitem
  have hnow : rewriteTexts (store.carriers tag.id) texts item ∈
      (store.moved tag category subcategory).items :=
    List.mem_map_of_mem hitem
  ext name
  rw [Function.comp_apply, List.mem_toFinset, List.mem_toFinset, hmoved.mem_tagSet_iff hnow,
    h.mem_tagSet_iff hitem, rewriteTexts_id]
  exact exists_carries_recategorized_iff

/-- A move can be taken back.  Meanwhile only the row of the tag and the texts of the items
that have it differ, and every item shows tags of the same names. -/
theorem moves_can_be_taken_back (hreachable : store.Reachable) (htag : tag ∈ store.tags)
    (category : Category) (subcategory : Option Subcategory) :
    ∃ between,
      store.setTagCategory tag.name category subcategory = .ok (true, between) ∧
      between =
        { store with
          tags := store.tags.map fun other =>
            if other = tag then
              { tag with
                category := category
                subcategory := keptSubcategory category subcategory }
            else other
          items := store.items.map fun item =>
            if store.Carries item.id tag then
              { item with tags := between.attachedTexts item.id }
            else item } ∧
      between.items.map (·.tags.tagSet.toFinset) = store.items.map (·.tags.tagSet.toFinset) ∧
      (∀ later latter,
        between.setTagCategory tag.name later latter =
          store.setTagCategory tag.name later latter) ∧
      between.setTagCategory tag.name tag.category tag.subcategory = .ok (true, store) := by
  have hconsistent := hreachable.consistent
  have hhealthy := hconsistent.sound.healthy
  have hnamed : store.tagNamed? tag.name = some tag :=
    hconsistent.sound.tagNamed?_eq_some_iff.2 ⟨htag, rfl⟩
  have hdone (later : Category) (latter : Option Subcategory) :=
    setTagCategory_eq_moved hhealthy hnamed later latter
  have hbetween : Change store (store.moved tag category subcategory) :=
    .category (hdone category subcategory)
  have hagain (later : Category) (latter : Option Subcategory) :
      (store.moved tag category subcategory).setTagCategory tag.name later latter =
        .ok (true, store.moved tag later latter) := by
    have hnow : (store.moved tag category subcategory).tagNamed? tag.name =
        some { tag with
          category := category
          subcategory := keptSubcategory category subcategory } := by
      refine (store.tagNamed?_recategorized tag.name category _).trans ?_
      rw [hnamed]
      rfl
    rw [setTagCategory_eq_moved (hbetween.healthy hhealthy) hnow later latter]
    exact congrArg (fun next => Except.ok (true, next))
      (store.moved_moved tag category later subcategory latter)
  refine ⟨store.moved tag category subcategory, hdone category subcategory,
    hconsistent.sound.moved_eq htag category subcategory,
    hconsistent.tagSets_moved htag category subcategory, ?_, ?_⟩
  · intro later latter
    rw [hagain, hdone]
  · rw [hagain, hconsistent.moved_self htag]

/-- Two items have the tag that moves, one of them between other tags. -/
theorem moves_can_be_taken_back_of_two_items :
    let writer : Writer := { buffer := [
      { filepath := "a.png", contentHash := "0", tags := [{ name := "hat" },
        { name := "cat", subcategory := some .body }, { name := "ada", category := .artist }] },
      { filepath := "b.png", contentHash := "1", tags := [{ name := "cat" }] },
      { filepath := "c.png", contentHash := "2", tags := [{ name := "hat" }] }] }
    let store := (writer.flush {}).store
    let cat : Tag := ⟨2, "cat", .general, some .body⟩
    store.Reachable ∧ cat ∈ store.tags ∧ store.carriers cat.id = [1, 2] ∧
      ∃ between, store.setTagCategory "cat" .artist (some .style) = .ok (true, between) ∧
        between.tags = [⟨1, "hat", .general, none⟩, ⟨2, "cat", .artist, none⟩,
          ⟨3, "ada", .artist, none⟩] ∧
        between.items.map (·.tags.tagSet.toFinset) = store.items.map (·.tags.tagSet.toFinset) ∧
        between.setTagCategory "cat" .species none = store.setTagCategory "cat" .species none ∧
        between.setTagCategory "cat" .general (some .body) = .ok (true, store) := by
  intro writer store cat
  have hvalid : ∀ record ∈ writer.buffer, record.fault? = none := by decide
  have hbatch : Change {} store := .batch hvalid rfl
  have hreachable : store.Reachable := Relation.ReflTransGen.single hbatch
  have hcat : cat ∈ store.tags := by decide
  obtain ⟨between, hmoved, hbetween, hsets, hlater, hback⟩ :=
    moves_can_be_taken_back hreachable hcat .artist (some .style)
  have htags : store.tags.map (fun other =>
      if other = cat then { cat with category := .artist, subcategory := none } else other) =
        [⟨1, "hat", .general, none⟩, ⟨2, "cat", .artist, none⟩, ⟨3, "ada", .artist, none⟩] := by
    decide
  exact ⟨hreachable, hcat, by decide, between, hmoved,
    (congrArg Store.tags hbetween).trans htags, hsets, hlater .species none, hback⟩

end Store

end Gallery
