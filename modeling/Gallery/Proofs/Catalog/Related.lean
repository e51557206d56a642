import Gallery.Proofs.Search.Reference
import Gallery.Proofs.Weight.Overlap

/-!
# The items most like an item

Candidates for the items most like an item are those that share a tag with it, as the
relations have it, and they are compared by the texts that show their tags.  In a
consistent store the texts show what the relations have, so an item that is no candidate
has no tag in common and scores nothing.  The best of the candidates are then the best of
all items, as long as none of the candidates had to be left out.
-/

namespace Gallery

open Text

/-! ## Items that share a tag -/

namespace Store

variable {store : Store} {item other : StoredItem}

/-- Some tag is attached to both items. -/
def SharesTag (store : Store) (first second : ItemId) : Prop :=
  ∃ tag ∈ store.tags, store.Carries first tag ∧ store.Carries second tag

instance (store : Store) (first second : ItemId) : Decidable (store.SharesTag first second) :=
  inferInstanceAs (Decidable (∃ tag ∈ store.tags, _ ∧ _))

/-- The other items that share a tag with an item. -/
def sharers (store : Store) (id : ItemId) : List StoredItem :=
  store.items.filter fun other => other.id ≠ id ∧ store.SharesTag id other.id

theorem mem_carriers_iff {tag : TagId} {id : ItemId} :
    id ∈ store.carriers tag ↔ ∃ a ∈ store.attachments, a.item = id ∧ a.tag = tag := by
  simp only [carriers, List.mem_map, List.mem_filter, decide_eq_true_eq, and_assoc,
    and_comm (a := _ = tag)]

theorem Sound.mem_sharingItems_iff (h : store.Sound) {id other : ItemId} :
    other ∈ store.sharingItems id ↔ other ≠ id ∧ store.SharesTag id other := by
  simp only [sharingItems, mem_distinct, List.mem_filter, List.mem_flatMap, List.mem_mergeSort,
    mem_held_iff, mem_carriers_iff, decide_eq_true_eq, and_comm (b := other ≠ id)]
  refine and_congr_right fun _ => ?_
  constructor
  · rintro ⟨number, ⟨a, ha, haitem, rfl⟩, b, hb, hbitem, hbtag⟩
    obtain ⟨tag, htag, hid⟩ := h.attachedTags a ha
    exact ⟨tag, htag, ⟨htag, a, ha, haitem, hid.symm⟩, htag, b, hb, hbitem, hbtag.trans hid.symm⟩
  · rintro ⟨tag, -, ⟨-, a, ha, haitem, hatag⟩, -, b, hb, hbitem, hbtag⟩
    exact ⟨tag.id, ⟨a, ha, haitem, hatag⟩, b, hb, hbitem, hbtag⟩

theorem Sound.length_sharingItems_le (h : store.Sound) (id : ItemId) :
    (store.sharingItems id).length ≤ (store.sharers id).length := by
  have hsubset : store.sharingItems id ⊆ (store.sharers id).map (·.id) := by
    intro other hother
    obtain ⟨hne, hshares⟩ := h.mem_sharingItems_iff.1 hother
    obtain ⟨-, -, -, -, b, hb, rfl, -⟩ := hshares
    obtain ⟨row, hrow, hid⟩ := h.attachedItems b hb
    have hsharer : row ∈ store.sharers id := by
      simp only [sharers, List.mem_filter, decide_eq_true_eq, hid]
      exact ⟨hrow, h.mem_sharingItems_iff.1 hother⟩
    exact hid ▸ List.mem_map_of_mem hsharer
  have hnodup : (store.sharingItems id).Nodup := nodup_distinct _
  simpa using (List.subperm_of_subset hnodup hsubset).length_le

/-- The candidates for the items most like an item, at most as many as are asked for. -/
def candidates (store : Store) (id : ItemId) (ceiling : ℕ) : List StoredItem :=
  store.items.filter fun other => ((store.sharingItems id).take ceiling).contains other.id

theorem relatedCandidates_of_healthy (hhealthy : store.Healthy) (id : ItemId) (ceiling : ℕ) :
    store.relatedCandidates id ceiling =
      .ok ((store.candidates id ceiling).map StoredItem.view) := by
  unfold relatedCandidates
  rw [require_of_healthy hhealthy]
  rfl

theorem Sound.sharesTag_of_mem_candidates (h : store.Sound) {id : ItemId} {ceiling : ℕ}
    (hother : other ∈ store.candidates id ceiling) :
    other.id ≠ id ∧ store.SharesTag id other.id := by
  have hchosen := List.contains_iff_mem.1 (List.mem_filter.1 hother).2
  exact h.mem_sharingItems_iff.1 (List.mem_of_mem_take hchosen)

/-- Few candidates are all that there are. -/
theorem Sound.candidates_eq_sharers (h : store.Sound) {id : ItemId} {ceiling : ℕ}
    (hfew : (store.sharers id).length ≤ ceiling) :
    store.candidates id ceiling = store.sharers id := by
  rw [candidates, List.take_of_length_le ((h.length_sharingItems_le id).trans hfew)]
  apply List.filter_congr
  intro other _
  rw [Bool.eq_iff_iff, List.contains_iff_mem, h.mem_sharingItems_iff, decide_eq_true_iff]

theorem Consistent.mem_tagSet_iff (h : store.Consistent) (hitem : item ∈ store.items)
    {name : String} :
    name ∈ item.tags.tagSet ↔ ∃ tag, store.Carries item.id tag ∧ tag.name = name := by
  simp only [CategoryTags.mem_tagSet_iff, h.words_get hitem, h.sound.mem_namesOf_iff_carries]
  constructor
  · rintro ⟨-, tag, htag, -, hname⟩
    exact ⟨tag, htag, hname⟩
  · rintro ⟨tag, htag, hname⟩
    exact ⟨tag.category, tag, htag, rfl, hname⟩

/-- A name that both items show is that of one tag. -/
theorem Consistent.disjoint_tagSet (h : store.Consistent) (hitem : item ∈ store.items)
    (hother : other ∈ store.items) (hshares : ¬store.SharesTag item.id other.id) :
    Disjoint item.tags.tagSet.toFinset other.tags.tagSet.toFinset := by
  rw [Finset.disjoint_left]
  intro name hshown halso
  obtain ⟨tag, htag, hname⟩ := (h.mem_tagSet_iff hitem).1 (List.mem_toFinset.1 hshown)
  obtain ⟨same, hsame, hsameName⟩ := (h.mem_tagSet_iff hother).1 (List.mem_toFinset.1 halso)
  have heq : tag = same := h.sound.tag_eq_of_name htag.1 hsame.1 (hname.trans hsameName.symm)
  exact hshares ⟨tag, htag.1, htag, heq ▸ hsame⟩

end Store

/-! ## Candidates for an answer -/

namespace Store

variable {α : Type} [Scalar α] {store : Store} {id : ItemId}

theorem relatedQuestion_of_healthy (hhealthy : store.Healthy) (id : ItemId) (limit : ℕ) :
    Caches.relatedQuestion store id limit =
      .ok (if limit = 0 then none
        else (store.itemWithId? id).bind fun item =>
          if item.tags.joined.isEmpty then none
          else some
            (item.view, (store.candidates id Caches.candidateCeiling).map StoredItem.view)) := by
  unfold Caches.relatedQuestion itemById
  simp only [require_of_healthy hhealthy, relatedCandidates_of_healthy hhealthy, ok_bind]
  split
  · rfl
  · cases store.itemWithId? id with
    | none => rfl
    | some item =>
        change (if item.tags.joined.isEmpty then _ else _) = _
        rw [Option.bind_some]
        split <;> rfl

/-- What is answered are the best of the candidates, unless nothing is asked for, the item
is unknown or it shows no tags. -/
theorem relatedOf_nil_or_best (hhealthy : store.Healthy) (config : Config) (id : ItemId)
    (limit : ℕ) :
    (store.relatedOf config id limit = ([] : List (RelatedItem α)) ∧
        ∀ item, store.itemWithId? id = some item →
          limit = 0 ∨ item.tags.joined.isEmpty = true) ∨
      ∃ item, store.itemWithId? id = some item ∧
        store.relatedOf config id limit =
          Caches.best limit ((store.candidates id Caches.candidateCeiling).map fun other =>
            (⟨other.view.hit, store.scoreOf config item.tags.tagSet other.tags.tagSet⟩ :
              RelatedItem α)) := by
  unfold relatedOf
  rw [relatedQuestion_of_healthy hhealthy]
  by_cases hlimit : limit = 0
  · rw [if_pos hlimit]
    exact .inl ⟨rfl, fun _ _ => .inl hlimit⟩
  · rw [if_neg hlimit]
    cases store.itemWithId? id with
    | none => exact .inl ⟨rfl, fun _ hitem => nomatch hitem⟩
    | some item =>
        rw [Option.bind_some]
        by_cases hempty : item.tags.joined.isEmpty = true
        · rw [if_pos hempty]
          exact .inl ⟨rfl, fun _ hitem => .inr (Option.some.inj hitem ▸ hempty)⟩
        · rw [if_neg hempty]
          dsimp only
          rw [List.map_map]
          exact .inr ⟨item, rfl, rfl⟩

theorem Sound.id_ne_of_mem_relatedOf (h : store.Sound) {config : Config} {limit : ℕ}
    {related : RelatedItem α} (hrelated : related ∈ store.relatedOf config id limit) :
    related.item.id ≠ id := by
  obtain ⟨hnothing, -⟩ | ⟨item, -, hbest⟩ :=
    relatedOf_nil_or_best (α := α) h.healthy config id limit
  · rw [hnothing] at hrelated
    cases hrelated
  · rw [hbest] at hrelated
    have hscored := List.mem_of_mem_filter (List.mem_mergeSort.1 (List.mem_of_mem_take hrelated))
    obtain ⟨other, hother, rfl⟩ := List.mem_map.1 hscored
    exact (h.sharesTag_of_mem_candidates hother).1

theorem Sound.relatedOf_of_untagged (h : store.Sound) (huntagged : ∀ tag, ¬store.Carries id tag)
    (config : Config) (limit : ℕ) :
    store.relatedOf config id limit = ([] : List (RelatedItem α)) := by
  obtain ⟨hnothing, -⟩ | ⟨item, -, hbest⟩ :=
    relatedOf_nil_or_best (α := α) h.healthy config id limit
  · exact hnothing
  · have hnone : store.candidates id Caches.candidateCeiling = [] := by
      rw [List.eq_nil_iff_forall_not_mem]
      intro other hother
      obtain ⟨-, tag, -, htag, -⟩ := h.sharesTag_of_mem_candidates hother
      exact huntagged tag htag
    rw [hbest, hnone]
    simp [Caches.best]

theorem Sound.not_carries_of_unknown (h : store.Sound)
    (hunknown : ∀ item ∈ store.items, item.id ≠ id) (tag : Tag) : ¬store.Carries id tag := by
  rintro ⟨-, a, ha, rfl, -⟩
  obtain ⟨item, hitem, hid⟩ := h.attachedItems a ha
  exact hunknown item hitem hid

end Store

/-! ## Ranks -/

namespace RelatedItem

variable {α : Type} [LinearOrder α]

/-- The higher score first, and the smaller number first among equal scores. -/
def Before (a b : RelatedItem α) : Prop :=
  b.score < a.score ∨ a.score = b.score ∧ a.item.id < b.item.id

/-- There is one ranking of a list. -/
theorem eq_of_perm_of_before {first second : List (RelatedItem α)}
    (hperm : first.Perm second) (hfirst : first.Pairwise Before)
    (hsecond : second.Pairwise Before) : first = second := by
  refine hperm.eq_of_pairwise ?_ hfirst hsecond
  rintro a b - - (hab | ⟨heq, hab⟩) (hba | ⟨hsame, hba⟩)
  · exact absurd hba hab.asymm
  · exact absurd hsame hab.ne
  · exact absurd heq hba.ne
  · exact absurd hba hab.asymm

end RelatedItem

/-! ## Scores -/

theorem Caches.listedWeight_map
    {α : Type} [Scalar α] (weight : String → α) {tags : List String} {tag : String}
    (htag : tag ∈ tags) :
    Caches.listedWeight (tags.map fun tag => (tag, weight tag)) tag = weight tag := by
  have hfind : tags.find? (fun name => decide (name = tag)) = some tag := by
    cases hfound : tags.find? (fun name => decide (name = tag)) with
    | none => simpa using List.find?_eq_none.1 hfound tag htag
    | some name =>
        have hname : name = tag := by simpa using List.find?_some hfound
        rw [hname]
  rw [Caches.listedWeight, List.find?_map]
  change (((tags.find? fun name => decide (name = tag)).map _).map _).getD _ = _
  rw [hfind]
  rfl

variable {α : Type} [Field α] [LinearOrder α] [Scalar α] [Scalar.Exact α]

namespace Store

variable {store : Store} {config : Config}

theorem weightOf_pos (store : Store) (config : Config) (tag : String) :
    0 < (store.weightOf config tag : α) := by
  unfold weightOf
  split
  · exact unknownTagWeight_pos
  · exact WeightSnapshot.weight_pos _ _ _

theorem scoreOf_eq_overlap (store : Store) (config : Config) {a b : List String} (ha : a.Nodup)
    (hb : b.Nodup) :
    (store.scoreOf config a b : α) =
      config.similarity.overlap (store.weightOf config) a.toFinset b.toFinset := by
  unfold scoreOf
  cases config.similarity with
  | jaccard => exact jaccard_eq_overlap ha hb _
  | weighted =>
      rw [← weightedJaccard_eq_overlap ha hb fun tag => (store.weightOf_pos config tag).le]
      dsimp only
      by_cases hempty : (a.isEmpty || b.isEmpty) = true
      · rw [if_pos hempty, weightedJaccard, if_pos hempty]
      · rw [if_neg hempty]
        exact weightedJaccard_congr fun tag htag => Caches.listedWeight_map _ htag

/-- How alike two items are under the policy of a catalog. -/
def likeness (store : Store) (config : Config) (item other : StoredItem) : α :=
  config.similarity.overlap (store.weightOf config) item.tags.tagSet.toFinset
    other.tags.tagSet.toFinset

/-- An item as it is listed among those that are like another. -/
def compared (store : Store) (config : Config) (item other : StoredItem) : RelatedItem α :=
  ⟨other.view.hit, store.likeness config item other⟩

end Store

/-! ## The ranking -/

/-- Rows that are sorted by rank, the highest first, and rows of one rank by a key: if no two
rows have one key, no two of them are equal in the order. -/
theorem pairwise_mergeSort_of_rank {β ρ κ : Type} [LinearOrder ρ] [LinearOrder κ] (rank : β → ρ)
    (key : β → κ) {le : β → β → Bool}
    (hle : ∀ a b, le a b = true ↔ rank b < rank a ∨ rank a = rank b ∧ key a ≤ key b)
    {rows : List β} (hkeys : (rows.map key).Nodup) :
    (rows.mergeSort le).Pairwise fun a b => rank b < rank a ∨ rank a = rank b ∧ key a < key b := by
  have htrans : ∀ a b c, le a b = true → le b c = true → le a c = true := by
    intro a b c hab hbc
    rw [hle] at *
    rcases hab with hab | ⟨hab, hfirst⟩ <;> rcases hbc with hbc | ⟨hbc, hsecond⟩
    · exact .inl (hbc.trans hab)
    · exact .inl (hbc ▸ hab)
    · exact .inl (hab ▸ hbc)
    · exact .inr ⟨hab.trans hbc, hfirst.trans hsecond⟩
  have htotal : ∀ a b, (le a b || le b a) = true := by
    intro a b
    rw [Bool.or_eq_true, hle, hle]
    rcases lt_trichotomy (rank a) (rank b) with hless | heq | hmore
    · exact .inr (.inl hless)
    · exact (le_total (key a) (key b)).imp (fun hkey => .inr ⟨heq, hkey⟩)
        fun hkey => .inr ⟨heq.symm, hkey⟩
    · exact .inl (.inl hmore)
  have hdistinct : (rows.mergeSort le).Pairwise fun a b => key a ≠ key b :=
    List.pairwise_map.1 (((List.mergeSort_perm rows le).map _).nodup_iff.2 hkeys)
  refine ((List.pairwise_mergeSort htrans htotal rows).and hdistinct).imp ?_
  rintro a b ⟨hordered, hne⟩
  exact ((hle a b).1 hordered).imp_right fun hsame =>
    ⟨hsame.1, lt_of_le_of_ne hsame.2 hne⟩

namespace Caches

theorem relatedLe_iff {a b : RelatedItem α} :
    relatedLe a b = true ↔ b.score < a.score ∨ a.score = b.score ∧ a.item.id ≤ b.item.id := by
  have hmost (x y : α) : (!Scalar.atMost x y) = true ↔ y < x := by
    rw [Bool.not_eq_true', Bool.eq_false_iff, Ne, Scalar.Exact.atMost_iff, not_le]
  rw [relatedLe, Bool.or_eq_true, Bool.and_eq_true, hmost, Scalar.Exact.atMost_iff,
    decide_eq_true_iff]
  constructor
  · rintro (hless | ⟨hle, hid⟩)
    · exact .inl hless
    · exact hle.lt_or_eq.imp_right fun heq => ⟨heq.symm, hid⟩
  · rintro (hless | ⟨heq, hid⟩)
    · exact .inl hless
    · exact .inr ⟨heq.ge, hid⟩

theorem pairwise_mergeSort_relatedLe {scored : List (RelatedItem α)}
    (hids : (scored.map (·.item.id)).Nodup) :
    (scored.mergeSort relatedLe).Pairwise RelatedItem.Before :=
  pairwise_mergeSort_of_rank RelatedItem.score (fun related => related.item.id)
    (fun _ _ => relatedLe_iff) hids

theorem best_eq_take (limit : ℕ) (scored : List (RelatedItem α)) :
    best limit scored =
      ((scored.filter fun related => 0.05 ≤ related.score).mergeSort relatedLe).take limit := by
  have hleast : (leastScore : α) = 0.05 := by
    rw [leastScore, Scalar.ratio_eq]
    norm_num
  have hkeep : (fun related : RelatedItem α => Scalar.atMost leastScore related.score) =
      fun related => decide (0.05 ≤ related.score) := by
    funext related
    rw [Bool.eq_iff_iff, Scalar.Exact.atMost_iff, decide_eq_true_iff, hleast]
  rw [best, hkeep]

end Caches

namespace Store

variable {store : Store}

theorem best_compared_of_isEmpty (store : Store) (config : Config) {item : StoredItem}
    (hempty : item.tags.joined.isEmpty = true) (limit : ℕ) (candidates : List StoredItem) :
    Caches.best limit (candidates.map (store.compared config item)) =
      ([] : List (RelatedItem α)) := by
  have hnone : (candidates.map (store.compared config item)).filter
      (fun related => (0.05 : α) ≤ related.score) = [] := by
    rw [List.filter_eq_nil_iff]
    intro related hrelated
    obtain ⟨other, -, rfl⟩ := List.mem_map.1 hrelated
    have hzero : (store.likeness config item other : α) = 0 := by
      apply Policy.overlap_of_disjoint
      simp [CategoryTags.tagSet_of_isEmpty_joined hempty]
    rw [compared, hzero, decide_eq_true_iff]
    norm_num
  rw [Caches.best_eq_take, hnone]
  simp

/-- The items most like a stored item are the best of its candidates, also where they are
not computed because none are asked for or because nothing is shown to compare. -/
theorem Sound.relatedOf_eq_best (h : store.Sound) (config : Config) {item : StoredItem}
    (hitem : item ∈ store.items) (limit : ℕ) :
    (store.relatedOf config item.id limit : List (RelatedItem α)) =
      Caches.best limit ((store.candidates item.id Caches.candidateCeiling).map
        (store.compared config item)) := by
  have hfound : store.itemWithId? item.id = some item :=
    h.itemWithId?_eq_some_iff.2 ⟨hitem, rfl⟩
  obtain ⟨hnothing, hreason⟩ | ⟨same, hsame, hbest⟩ :=
    relatedOf_nil_or_best (α := α) h.healthy config item.id limit
  · rw [hnothing]
    rcases hreason item hfound with rfl | hempty
    · rw [Caches.best, List.take_zero]
    · rw [best_compared_of_isEmpty store config hempty]
  · rw [hfound] at hsame
    obtain rfl := Option.some.inj hsame
    rw [hbest]
    congr 1
    apply List.map_congr_left
    intro other _
    rw [compared, likeness, scoreOf_eq_overlap store config item.tags.nodup_tagSet
      other.tags.nodup_tagSet]

/-- An item that is not compared has too little in common with the item to be listed. -/
theorem Consistent.filter_sharers (h : store.Consistent) (config : Config) {item : StoredItem}
    (hitem : item ∈ store.items) :
    ((store.sharers item.id).map (store.compared config item)).filter
        (fun related => (0.05 : α) ≤ related.score) =
      ((store.items.filter fun other => other.id ≠ item.id).map
        (store.compared config item)).filter fun related => 0.05 ≤ related.score := by
  rw [sharers, List.filter_map, List.filter_map, List.filter_filter, List.filter_filter]
  congr 1
  apply List.filter_congr
  intro other hother
  rw [Bool.eq_iff_iff]
  simp only [Function.comp_apply, Bool.and_eq_true, decide_eq_true_iff]
  refine and_congr_right fun hlike => and_iff_left_of_imp fun _ => ?_
  by_contra hshares
  have hzero : (store.likeness config item other : α) = 0 :=
    Policy.overlap_of_disjoint _ _ (h.disjoint_tagSet hitem hother hshares)
  rw [compared, hzero] at hlike
  norm_num at hlike

/-- With few enough candidates the answers are the beginnings of one list: all other items
of the store that are like enough, in the order of their ranks. -/
theorem Consistent.exists_ranking (h : store.Consistent) (config : Config) {item : StoredItem}
    (hitem : item ∈ store.items) (hfew : (store.sharers item.id).length ≤ 500) :
    ∃ ranked : List (RelatedItem α),
      ranked.Perm (((store.items.filter fun other => other.id ≠ item.id).map
        (store.compared config item)).filter fun related => 0.05 ≤ related.score) ∧
      ranked.Pairwise RelatedItem.Before ∧
      ∀ limit, store.relatedOf config item.id limit = ranked.take limit := by
  refine ⟨_, List.mergeSort_perm _ Caches.relatedLe, ?_, ?_⟩
  · apply Caches.pairwise_mergeSort_relatedLe
    have hids : (((store.items.filter fun other => other.id ≠ item.id).map
        (store.compared config item)).map
          fun related : RelatedItem α => related.item.id).Nodup := by
      rw [List.map_map]
      exact h.sound.itemIds.sublist (List.filter_sublist.map _)
    exact hids.sublist (List.filter_sublist.map _)
  · intro limit
    have hall : store.candidates item.id Caches.candidateCeiling = store.sharers item.id :=
      h.sound.candidates_eq_sharers hfew
    rw [h.sound.relatedOf_eq_best config hitem, Caches.best_eq_take, hall,
      h.filter_sharers config hitem]

end Store

end Gallery
