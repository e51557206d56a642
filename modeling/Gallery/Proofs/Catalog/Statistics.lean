import Gallery.Proofs.Catalog.Related
import Gallery.Proofs.Text.Bytes

/-!
# Statistics and what items show

The statistics count tags by the relations.  In a consistent store they count what items
show: a tag is attached to as many items as there are texts with its name, the categories
share out all tags, and the tags that are listed are the beginning of one list of all tags in
use, in an order in which no two of them are equal.
-/

namespace Gallery

open Text

theorem totalOf_eq_sum {ι : Type} (count : ι → ℕ) (all : List ι) :
    totalOf count all = (all.map count).sum := by
  induction all with
  | nil => rfl
  | cons a rest ih => simp [ih]

/-- Whatever is missing from the beginning of a list comes after what is there. -/
theorem before_of_mem_take {ι : Type} {before : ι → ι → Prop} {ranked : List ι} {limit : ℕ}
    {listed other : ι} (h : ranked.Pairwise before) (hlisted : listed ∈ ranked.take limit)
    (hother : other ∈ ranked) (hout : other ∉ ranked.take limit) : before listed other := by
  rw [← List.take_append_drop limit ranked] at h hother
  have hlater := (List.mem_append.1 hother).resolve_left hout
  exact (List.pairwise_append.1 h).2.2 listed hlisted other hlater

/-- The order in which tags are listed with their uses: more uses first, equal uses by the
bytes of the names. -/
def Stats.Before (a b : String × ℕ) : Prop :=
  b.2 < a.2 ∨ a.2 = b.2 ∧ utf8Bytes a.1 < utf8Bytes b.1

namespace Store

variable {store : Store}

/-- How many items show a tag of this name. -/
def uses (store : Store) (name : String) : ℕ :=
  (store.items.filter fun item => name ∈ item.tags.tagSet).length

/-- The tags that some item shows, each with the number of items that do. -/
def usedTags (store : Store) : List (String × ℕ) :=
  (store.tags.map fun tag => (tag.name, store.uses tag.name)).filter (0 < ·.2)

/-! ## Uses -/

theorem Sound.nodup_carriers (h : store.Sound) (tag : TagId) : (store.carriers tag).Nodup := by
  have hpairs : (store.attachments.filter (·.tag = tag)).Pairwise
      fun a b => (a.item, a.tag) ≠ (b.item, b.tag) :=
    (List.pairwise_map.1 h.attachedOnce).sublist List.filter_sublist
  refine List.pairwise_map.2 (hpairs.imp_of_mem ?_)
  intro a b ha hb hne hitem
  have hatag : a.tag = tag := of_decide_eq_true (List.mem_filter.1 ha).2
  have hbtag : b.tag = tag := of_decide_eq_true (List.mem_filter.1 hb).2
  exact hne (by rw [hitem, hatag, hbtag])

theorem Sound.mem_carriers_iff_carries (h : store.Sound) {tag : Tag} (htag : tag ∈ store.tags)
    {id : ItemId} :
    id ∈ store.carriers tag.id ↔ ∃ other, store.Carries id other ∧ other.name = tag.name := by
  rw [mem_carriers_iff]
  constructor
  · rintro ⟨a, ha, haitem, hatag⟩
    exact ⟨tag, ⟨htag, a, ha, haitem, hatag⟩, rfl⟩
  · rintro ⟨other, ⟨hother, a, ha, haitem, hatag⟩, hname⟩
    rw [h.tag_eq_of_name hother htag hname] at hatag
    exact ⟨a, ha, haitem, hatag⟩

/-- The items that have a tag by the relations are those that show its name, and none is
listed twice in either way. -/
theorem Consistent.frequency_eq_uses (h : store.Consistent) {tag : Tag}
    (htag : tag ∈ store.tags) : store.frequency tag.id = store.uses tag.name := by
  have hshown : ((store.items.filter fun item => tag.name ∈ item.tags.tagSet).map (·.id)).Nodup :=
    h.sound.itemIds.sublist (List.filter_sublist.map _)
  have hperm : (store.carriers tag.id).Perm
      ((store.items.filter fun item => tag.name ∈ item.tags.tagSet).map (·.id)) := by
    rw [List.perm_ext_iff_of_nodup (h.sound.nodup_carriers tag.id) hshown]
    intro id
    rw [h.sound.mem_carriers_iff_carries htag]
    simp only [List.mem_map, List.mem_filter, decide_eq_true_eq]
    constructor
    · rintro ⟨other, hcarries, hname⟩
      obtain ⟨a, ha, haitem, -⟩ := hcarries.2
      obtain ⟨item, hitem, hid⟩ := h.sound.attachedItems a ha
      obtain rfl := hid.trans haitem
      exact ⟨item, ⟨hitem, (h.mem_tagSet_iff hitem).2 ⟨other, hcarries, hname⟩⟩, rfl⟩
    · rintro ⟨item, ⟨hitem, hshows⟩, rfl⟩
      exact (h.mem_tagSet_iff hitem).1 hshows
  rw [frequency, uses, hperm.length_eq, List.length_map]

/-! ## The tags in use, in order -/

theorem useOrder_iff {a b : String × ℕ} :
    useOrder a b = true ↔ b.2 < a.2 ∨ a.2 = b.2 ∧ a.1 ≤ b.1 := by
  simp only [useOrder, Bool.or_eq_true, Bool.and_eq_true, decide_eq_true_eq, Bool.not_eq_true',
    decide_eq_false_iff_not, not_lt]

theorem pairwise_mergeSort_useOrder {entries : List (String × ℕ)}
    (hnames : (entries.map (·.1)).Nodup) :
    (entries.mergeSort useOrder).Pairwise Stats.Before := by
  have hordered : (entries.mergeSort useOrder).Pairwise
      fun a b => b.2 < a.2 ∨ a.2 = b.2 ∧ a.1 < b.1 :=
    pairwise_mergeSort_of_rank Prod.snd Prod.fst (fun _ _ => useOrder_iff) hnames
  refine hordered.imp fun hbefore => hbefore.imp_right ?_
  rintro ⟨hsame, hname⟩
  exact ⟨hsame, utf8Bytes_lt_iff.2 hname⟩

theorem Sound.nodup_names_usedTags (h : store.Sound) : (store.usedTags.map (·.1)).Nodup := by
  have hnames : ((store.tags.map fun tag => (tag.name, store.uses tag.name)).map (·.1)).Nodup := by
    rw [List.map_map]
    exact h.tagNames
  exact hnames.sublist (List.filter_sublist.map _)

theorem Consistent.topTags_eq (h : store.Consistent) (limit : ℕ) :
    store.topTags limit = .ok ((store.usedTags.mergeSort useOrder).take limit) := by
  have hcounted : (store.tags.map fun tag => (tag.name, store.frequency tag.id)) =
      store.tags.map fun tag => (tag.name, store.uses tag.name) :=
    List.map_congr_left fun tag htag => by rw [h.frequency_eq_uses htag]
  unfold topTags usedTags
  rw [require_of_healthy h.sound.healthy, hcounted]
  rfl

/-! ## Categories -/

/-- Every tag has one category. -/
theorem totalOf_tagCount (store : Store) : totalOf store.tagCount Category.all = store.tags.length := by
  unfold tagCount
  induction store.tags with
  | nil => rfl
  | cons tag tags ih =>
      simp only [Category.all, totalOf_cons, totalOf_nil] at ih ⊢
      cases hcategory : tag.category <;> simp [hcategory] <;> omega

theorem totalOf_used {ι : Type} (count : ι → ℕ) (all : List ι) :
    totalOf (·.2) ((all.map fun a => (a, count a)).filter (0 < ·.2)) = totalOf count all := by
  induction all with
  | nil => rfl
  | cons a rest ih =>
      by_cases hpos : 0 < count a
      · simp [hpos, ih]
      · simp [ih, Nat.eq_zero_of_not_pos hpos]

/-- How many tags each category has that has one. -/
def countedCategories (store : Store) : List (Category × ℕ) :=
  (Category.all.map fun category => (category, store.tagCount category)).filter (0 < ·.2)

theorem mem_countedCategories_iff {category : Category} {n : ℕ} :
    (category, n) ∈ store.countedCategories ↔ 0 < n ∧ n = store.tagCount category := by
  simp only [countedCategories, List.mem_filter, List.mem_map, Prod.mk.injEq, decide_eq_true_eq]
  constructor
  · rintro ⟨⟨_, _, rfl, rfl⟩, hpos⟩
    exact ⟨hpos, rfl⟩
  · rintro ⟨hpos, rfl⟩
    exact ⟨⟨category, category.mem_all, rfl, rfl⟩, hpos⟩

theorem nodup_countedCategories (store : Store) :
    (store.countedCategories.map (·.1)).Nodup := by
  have hall : ((Category.all.map fun category => (category, store.tagCount category)).map
      (·.1)).Nodup := by
    rw [List.map_map]
    exact (by decide : Category.all.Nodup)
  exact hall.sublist (List.filter_sublist.map _)

end Store

/-! ## Statistics -/

/-- Statistics that say of a store what its items and its tags are. -/
structure Stats.Describes (stats : Stats) (store : Store) : Prop where
  totalItems : stats.totalItems = store.items.length
  totalTags : stats.totalTags = store.tags.length
  tagsByCategory : ∀ category n, (category, n) ∈ stats.tagsByCategory ↔
    0 < n ∧ n = (store.tags.filter (·.category = category)).length
  categories : (stats.tagsByCategory.map (·.1)).Nodup
  shares : (stats.tagsByCategory.map (·.2)).sum = stats.totalTags
  topTags : ∃ ranked : List (String × ℕ), ranked.Perm store.usedTags ∧
    ranked.Pairwise Stats.Before ∧ stats.topTags = ranked.take 20
  names : (stats.topTags.map (·.1)).Nodup
  leftOut : ∀ listed ∈ stats.topTags, ∀ other ∈ store.usedTags, other ∉ stats.topTags →
    Stats.Before listed other

namespace Store

variable {store : Store}

/-- The statistics of a store, in which tags are counted by what items show. -/
def statistics (store : Store) : Stats where
  totalItems := store.items.length
  totalTags := totalOf (·.2) store.countedCategories
  tagsByCategory := store.countedCategories
  topTags := (store.usedTags.mergeSort useOrder).take topTagLimit

theorem Consistent.compute_eq (h : store.Consistent) :
    Stats.compute store = .ok store.statistics := by
  have hhealthy := h.sound.healthy
  have hcounts : store.tagCounts = .ok store.countedCategories := by
    unfold tagCounts
    rw [require_of_healthy hhealthy]
    rfl
  have hitems : store.itemCount = .ok store.items.length := by
    unfold itemCount
    rw [require_of_healthy hhealthy]
    rfl
  unfold Stats.compute
  rw [hcounts, hitems, h.topTags_eq]
  rfl

theorem Sound.describes_statistics (h : store.Sound) : store.statistics.Describes store := by
  have hordered := pairwise_mergeSort_useOrder h.nodup_names_usedTags
  have hperm := List.mergeSort_perm store.usedTags useOrder
  have hnames := ((hperm.map (·.1)).nodup_iff.2 h.nodup_names_usedTags)
  exact
    { totalItems := rfl
      totalTags := (totalOf_used _ _).trans store.totalOf_tagCount
      tagsByCategory := fun _ _ => mem_countedCategories_iff
      categories := store.nodup_countedCategories
      shares := (totalOf_eq_sum _ _).symm
      topTags := ⟨_, hperm, hordered, rfl⟩
      names := hnames.sublist ((List.take_sublist _ _).map _)
      leftOut := fun listed hlisted other hother hout =>
        before_of_mem_take hordered hlisted (hperm.mem_iff.2 hother) hout }

end Store

end Gallery
