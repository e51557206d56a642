import Gallery.Proofs.Weight.Exact

/-!
# Overlap of tag sets

How alike two tag sets are is the share of their union that lies in both, by count or by
weight.  `Policy.overlap` says so of finite sets.  The catalog computes with lists that
repeat nothing, counts the union without forming it and answers zero for an empty set and
for a union that weighs nothing, and among exact numbers all of this is the one fraction.
-/

namespace Gallery

/-- The share of the union of two sets that lies in both. -/
def Policy.overlap {α : Type} [Field α] (policy : Policy) (weight : String → α)
    (a b : Finset String) : α :=
  match policy with
  | .jaccard => (a ∩ b).card / (a ∪ b).card
  | .weighted => (∑ tag ∈ a ∩ b, weight tag) / ∑ tag ∈ a ∪ b, weight tag

theorem Policy.overlap_of_disjoint
    {α : Type} [Field α] (policy : Policy) (weight : String → α) {a b : Finset String}
    (hdisjoint : Disjoint a b) : policy.overlap weight a b = 0 := by
  have hshared : a ∩ b = ∅ := Finset.disjoint_iff_inter_eq_empty.1 hdisjoint
  cases policy <;> simp [overlap, hshared]

/-! ## Lists as sets -/

section Lists

variable {a b : List String}

theorem toFinset_shared (a b : List String) :
    (shared a b).toFinset = a.toFinset ∩ b.toFinset := by
  ext tag
  simp [shared]

theorem toFinset_union (a b : List String) :
    (union a b).toFinset = a.toFinset ∪ b.toFinset := by
  ext tag
  by_cases htag : tag ∈ a <;> simp [union, htag]

theorem nodup_shared (ha : a.Nodup) (b : List String) : (shared a b).Nodup :=
  ha.sublist List.filter_sublist

theorem nodup_union (ha : a.Nodup) (hb : b.Nodup) : (union a b).Nodup := by
  refine List.Nodup.append ha (hb.sublist List.filter_sublist) ?_
  intro tag htag hother
  simp [htag] at hother

theorem disjoint_toFinset_of_isEmpty (hempty : (a.isEmpty || b.isEmpty) = true) :
    Disjoint a.toFinset b.toFinset := by
  rcases Bool.or_eq_true_iff.1 hempty with ha | hb
  · simp [List.isEmpty_iff.1 ha]
  · simp [List.isEmpty_iff.1 hb]

/-- The size of the union, counted by the sizes of the sets and of what they share. -/
theorem card_union_toFinset (ha : a.Nodup) (hb : b.Nodup) :
    (a.toFinset ∪ b.toFinset).card = a.length + b.length - (shared a b).length := by
  rw [Finset.card_union, ← toFinset_shared, List.toFinset_card_of_nodup ha,
    List.toFinset_card_of_nodup hb, List.toFinset_card_of_nodup (nodup_shared ha b)]

end Lists

/-! ## Computed similarity -/

/-- Only the weights of the tags in question matter. -/
theorem weightedJaccard_congr
    {α : Type} [Scalar α] {weight other : String → α} {a b : List String}
    (hsame : ∀ tag ∈ union a b, weight tag = other tag) :
    weightedJaccard weight a b = weightedJaccard other a b := by
  have hshared : ∀ tag ∈ shared a b, weight tag = other tag := fun tag htag =>
    hsame tag (List.mem_append_left _ (List.mem_of_mem_filter htag))
  rw [weightedJaccard, weightedJaccard, List.map_congr_left hsame, List.map_congr_left hshared]

section Computed

variable {α : Type} [Field α] [LinearOrder α] [Scalar α] [Scalar.Exact α]

theorem jaccard_eq_overlap {a b : List String} (ha : a.Nodup) (hb : b.Nodup)
    (weight : String → α) :
    (jaccard a b : α) = Policy.jaccard.overlap weight a.toFinset b.toFinset := by
  unfold jaccard
  by_cases hempty : (a.isEmpty || b.isEmpty) = true
  · rw [if_pos hempty,
      Policy.overlap_of_disjoint _ _ (disjoint_toFinset_of_isEmpty hempty)]
    simp
  · rw [if_neg hempty, Scalar.ratio_eq, Policy.overlap, ← card_union_toFinset ha hb,
      ← toFinset_shared, List.toFinset_card_of_nodup (nodup_shared ha b)]

theorem total_map_eq {tags : List String} (htags : tags.Nodup) (weight : String → α) :
    Scalar.total (tags.map weight) = ∑ tag ∈ tags.toFinset, weight tag := by
  rw [Scalar.total_eq, List.sum_toFinset weight htags]

/-- Weights that are not negative add up to zero or more, so that a union which weighs
nothing is one by which the fraction is zero. -/
theorem weightedJaccard_eq_overlap {a b : List String} (ha : a.Nodup) (hb : b.Nodup)
    {weight : String → α} (hweight : ∀ tag, 0 ≤ weight tag) :
    weightedJaccard weight a b = Policy.weighted.overlap weight a.toFinset b.toFinset := by
  unfold weightedJaccard
  by_cases hempty : (a.isEmpty || b.isEmpty) = true
  · rw [if_pos hempty,
      Policy.overlap_of_disjoint _ _ (disjoint_toFinset_of_isEmpty hempty)]
    simp
  · have hunited : Scalar.total ((union a b).map weight) =
        ∑ tag ∈ a.toFinset ∪ b.toFinset, weight tag := by
      rw [total_map_eq (nodup_union ha hb), toFinset_union]
    have hshared : Scalar.total ((shared a b).map weight) =
        ∑ tag ∈ a.toFinset ∩ b.toFinset, weight tag := by
      rw [total_map_eq (nodup_shared ha b), toFinset_shared]
    have hnonneg : 0 ≤ ∑ tag ∈ a.toFinset ∪ b.toFinset, weight tag :=
      Finset.sum_nonneg fun tag _ => hweight tag
    rw [if_neg hempty, hunited, hshared, Policy.overlap]
    by_cases hnothing : ∑ tag ∈ a.toFinset ∪ b.toFinset, weight tag = 0
    · simp [hnothing]
    · have hpositive := lt_of_le_of_ne hnonneg (Ne.symm hnothing)
      simp [not_le.2 hpositive]

end Computed

end Gallery
