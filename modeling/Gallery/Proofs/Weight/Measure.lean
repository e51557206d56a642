import Gallery.Proofs.Weight.Overlap

/-!
# Measures of overlap

Among exact numbers the overlap by weight is a fraction of two sums over finite sets, the
first over a part of what the second is over.  So it lies between zero and one, and a tag
that comes to both sums raises it while one that comes to the second alone lowers it.  The
catalog computes it from lists, whose order does not show.
-/

namespace Gallery

section Fractions

variable {α : Type} [Field α] [LinearOrder α] [IsStrictOrderedRing α] {part whole extra : α}

/-- What is added to a part and to the whole brings the fraction nearer to one. -/
theorem div_le_add_div_add (hpart : 0 ≤ part) (hle : part ≤ whole) (hextra : 0 ≤ extra) :
    part / whole ≤ (part + extra) / (whole + extra) := by
  rcases (hpart.trans hle).eq_or_lt with hnothing | hpositive
  · rw [← hnothing, div_zero, zero_add]
    exact div_nonneg (add_nonneg hpart hextra) hextra
  · have hgrown : 0 < whole + extra := add_pos_of_pos_of_nonneg hpositive hextra
    rw [div_le_div_iff₀ hpositive hgrown]
    calc
      part * (whole + extra) = part * whole + extra * part := by ring
      _ ≤ part * whole + extra * whole := by gcongr
      _ = (part + extra) * whole := by ring

theorem div_add_le_div (hpart : 0 ≤ part) (hle : part ≤ whole) (hextra : 0 ≤ extra) :
    part / (whole + extra) ≤ part / whole := by
  rcases (hpart.trans hle).eq_or_lt with hnothing | hpositive
  · have hnone : part = 0 := le_antisymm (hnothing ▸ hle) hpart
    rw [hnone, zero_div, zero_div]
  · exact div_le_div_of_nonneg_left hpart hpositive (le_add_of_nonneg_right hextra)

end Fractions

/-! ## Overlap of finite sets -/

namespace Policy

section Weighted

variable {α : Type} [Field α] {weight : String → α} {a b : Finset String} {tag : String}

theorem overlap_comm (policy : Policy) (weight : String → α) (a b : Finset String) :
    policy.overlap weight a b = policy.overlap weight b a := by
  cases policy <;> rw [overlap, overlap, Finset.inter_comm, Finset.union_comm]

theorem overlap_constant [CharZero α] {constant : α} (hne : constant ≠ 0) (a b : Finset String) :
    weighted.overlap (fun _ => constant) a b = jaccard.overlap (fun _ => constant) a b := by
  rw [overlap, overlap, Finset.sum_const, Finset.sum_const, nsmul_eq_mul, nsmul_eq_mul,
    mul_div_mul_right _ _ hne]

theorem overlap_self (hne : ∑ tag ∈ a, weight tag ≠ 0) : weighted.overlap weight a a = 1 := by
  rw [overlap, Finset.inter_self, Finset.union_self]
  exact div_self hne

variable [LinearOrder α] [IsStrictOrderedRing α]

theorem sum_inter_le_sum_union (hweight : ∀ tag, 0 ≤ weight tag) (a b : Finset String) :
    ∑ tag ∈ a ∩ b, weight tag ≤ ∑ tag ∈ a ∪ b, weight tag :=
  Finset.sum_le_sum_of_subset_of_nonneg
    (Finset.inter_subset_left.trans Finset.subset_union_left) fun tag _ _ => hweight tag

theorem overlap_nonneg (hweight : ∀ tag, 0 ≤ weight tag) (a b : Finset String) :
    0 ≤ weighted.overlap weight a b :=
  div_nonneg (Finset.sum_nonneg fun tag _ => hweight tag)
    (Finset.sum_nonneg fun tag _ => hweight tag)

theorem overlap_le_one (hweight : ∀ tag, 0 ≤ weight tag) (a b : Finset String) :
    weighted.overlap weight a b ≤ 1 :=
  div_le_one_of_le₀ (sum_inter_le_sum_union hweight a b)
    (Finset.sum_nonneg fun tag _ => hweight tag)

theorem overlap_eq_zero_iff (hweight : ∀ tag, 0 ≤ weight tag) :
    weighted.overlap weight a b = 0 ↔ ∑ tag ∈ a ∩ b, weight tag = 0 := by
  rw [overlap, div_eq_zero_iff, or_iff_left_iff_imp]
  intro hnothing
  refine le_antisymm ?_ (Finset.sum_nonneg fun tag _ => hweight tag)
  exact (sum_inter_le_sum_union hweight a b).trans hnothing.le

theorem overlap_le_overlap_insert_insert (hweight : ∀ tag, 0 ≤ weight tag) (ha : tag ∉ a)
    (hb : tag ∉ b) :
    weighted.overlap weight a b ≤ weighted.overlap weight (insert tag a) (insert tag b) := by
  have hinter : tag ∉ a ∩ b := fun hmem => ha (Finset.mem_inter.1 hmem).1
  have hunion : tag ∉ a ∪ b := fun hmem => (Finset.mem_union.1 hmem).elim ha hb
  rw [overlap, overlap, ← Finset.insert_inter_distrib, ← Finset.insert_union_distrib,
    Finset.sum_insert hinter, Finset.sum_insert hunion, add_comm (weight tag),
    add_comm (weight tag)]
  exact div_le_add_div_add (Finset.sum_nonneg fun tag _ => hweight tag)
    (sum_inter_le_sum_union hweight a b) (hweight tag)

theorem overlap_insert_le (hweight : ∀ tag, 0 ≤ weight tag) (ha : tag ∉ a) (hb : tag ∉ b) :
    weighted.overlap weight (insert tag a) b ≤ weighted.overlap weight a b := by
  have hunion : tag ∉ a ∪ b := fun hmem => (Finset.mem_union.1 hmem).elim ha hb
  rw [overlap, overlap, Finset.insert_inter_of_notMem hb, Finset.insert_union,
    Finset.sum_insert hunion, add_comm (weight tag)]
  exact div_add_le_div (Finset.sum_nonneg fun tag _ => hweight tag)
    (sum_inter_le_sum_union hweight a b) (hweight tag)

end Weighted

end Policy

/-! ## Overlap as it is computed -/

/-- What makes a number for two tag sets a measure of their overlap, given what tags weigh.
Sets are lists without repetition, and a tag is new if neither set has it. -/
structure IsOverlapMeasure {α : Type} [Field α] [LinearOrder α] (weight : String → α)
    (measure : List String → List String → α) : Prop where
  perm : ∀ {a b other another : List String}, a.Nodup → b.Nodup → a.Perm other →
    b.Perm another → measure a b = measure other another
  symm : ∀ {a b : List String}, a.Nodup → b.Nodup → measure a b = measure b a
  nonneg : ∀ {a b : List String}, a.Nodup → b.Nodup → 0 ≤ measure a b
  le_one : ∀ {a b : List String}, a.Nodup → b.Nodup → measure a b ≤ 1
  same : ∀ {a b : List String}, a.Nodup → a.Perm b → 0 < (a.map weight).sum → measure a b = 1
  eq_zero_iff : ∀ {a b : List String}, a.Nodup → b.Nodup →
    (measure a b = 0 ↔ a = [] ∨ b = [] ∨ ((shared a b).map weight).sum = 0)
  new_in_both : ∀ {a b : List String} {tag : String}, a.Nodup → b.Nodup → tag ∉ a → tag ∉ b →
    measure a b ≤ measure (tag :: a) (tag :: b)
  new_in_first : ∀ {a b : List String} {tag : String}, a.Nodup → b.Nodup → tag ∉ a → tag ∉ b →
    measure (tag :: a) b ≤ measure a b
  new_in_second : ∀ {a b : List String} {tag : String}, a.Nodup → b.Nodup → tag ∉ a → tag ∉ b →
    measure a (tag :: b) ≤ measure a b

/-- Whatever computes the overlap by weight from lists is a measure of overlap. -/
theorem isOverlapMeasure_of_eq_overlap {α : Type} [Field α] [LinearOrder α]
    [IsStrictOrderedRing α] {weight : String → α} (hweight : ∀ tag, 0 ≤ weight tag)
    {measure : List String → List String → α}
    (hmeasure : ∀ {a b : List String}, a.Nodup → b.Nodup →
      measure a b = Policy.weighted.overlap weight a.toFinset b.toFinset) :
    IsOverlapMeasure weight measure where
  perm := by
    intro a b other another ha hb hfirst hsecond
    rw [hmeasure ha hb, hmeasure (hfirst.nodup ha) (hsecond.nodup hb),
      List.toFinset_eq_of_perm _ _ hfirst, List.toFinset_eq_of_perm _ _ hsecond]
  symm := by
    intro a b ha hb
    rw [hmeasure ha hb, hmeasure hb ha, Policy.overlap_comm]
  nonneg := by
    intro a b ha hb
    rw [hmeasure ha hb]
    exact Policy.overlap_nonneg hweight _ _
  le_one := by
    intro a b ha hb
    rw [hmeasure ha hb]
    exact Policy.overlap_le_one hweight _ _
  same := by
    intro a b ha hsame hpositive
    rw [hmeasure ha (hsame.nodup ha), ← List.toFinset_eq_of_perm _ _ hsame]
    apply Policy.overlap_self
    rw [List.sum_toFinset weight ha]
    exact hpositive.ne'
  eq_zero_iff := by
    intro a b ha hb
    rw [hmeasure ha hb, Policy.overlap_eq_zero_iff hweight, ← toFinset_shared,
      List.sum_toFinset weight (nodup_shared ha b)]
    constructor
    · exact fun hnothing => .inr (.inr hnothing)
    · rintro (rfl | rfl | hnothing)
      · simp [shared]
      · simp [shared]
      · exact hnothing
  new_in_both := by
    intro a b tag ha hb hatag hbtag
    rw [hmeasure ha hb, hmeasure (ha.cons hatag) (hb.cons hbtag), List.toFinset_cons,
      List.toFinset_cons]
    exact Policy.overlap_le_overlap_insert_insert hweight (mt List.mem_toFinset.1 hatag)
      (mt List.mem_toFinset.1 hbtag)
  new_in_first := by
    intro a b tag ha hb hatag hbtag
    rw [hmeasure ha hb, hmeasure (ha.cons hatag) hb, List.toFinset_cons]
    exact Policy.overlap_insert_le hweight (mt List.mem_toFinset.1 hatag)
      (mt List.mem_toFinset.1 hbtag)
  new_in_second := by
    intro a b tag ha hb hatag hbtag
    rw [hmeasure ha hb, hmeasure ha (hb.cons hbtag), List.toFinset_cons, Policy.overlap_comm,
      Policy.overlap_comm _ _ a.toFinset b.toFinset]
    exact Policy.overlap_insert_le hweight (mt List.mem_toFinset.1 hbtag)
      (mt List.mem_toFinset.1 hatag)

/-- With weights that are not negative, the overlap by weight is a measure of overlap.  If
all tags have one weight it is the overlap by count, whose union is counted without loss. -/
theorem weightedJaccard_isOverlapMeasure {α : Type} [Field α] [LinearOrder α] [Scalar α]
    [Scalar.Exact α] {weight : String → α} (hweight : ∀ tag, 0 ≤ weight tag) :
    IsOverlapMeasure weight (weightedJaccard weight) ∧
      ∀ {a b : List String}, a.Nodup → b.Nodup →
        (∀ constant : α, 0 < constant →
          weightedJaccard (fun _ => constant) a b = jaccard a b) ∧
        (shared a b).length ≤ a.length + b.length ∧
        a.length + b.length - (shared a b).length = (a.toFinset ∪ b.toFinset).card := by
  refine ⟨isOverlapMeasure_of_eq_overlap hweight fun ha hb =>
    weightedJaccard_eq_overlap ha hb hweight, ?_⟩
  intro a b ha hb
  have hfew : (shared a b).length ≤ a.length := List.length_filter_le _ _
  refine ⟨?_, by omega, (card_union_toFinset ha hb).symm⟩
  intro constant hconstant
  rw [weightedJaccard_eq_overlap ha hb fun _ => hconstant.le,
    Policy.overlap_constant hconstant.ne', jaccard_eq_overlap ha hb]

/-- A rare tag is shared, and each set has a common one of its own. -/
theorem weightedJaccard_isOverlapMeasure_of_rare_tag :
    let weight (tag : String) : ℝ := if tag = "rare" then 3 else if tag = "idle" then 0 else 1
    let measure := weightedJaccard weight
    (∀ tag, 0 ≤ weight tag) ∧
      measure ["rare", "common"] ["rare", "other"] = 3 / 5 ∧
      measure ["other", "rare"] ["common", "rare"] = 3 / 5 ∧
      3 / 5 ≤ measure ["new", "rare", "common"] ["new", "rare", "other"] ∧
      measure ["new", "rare", "common"] ["rare", "other"] ≤ 3 / 5 ∧
      measure ["idle", "common"] ["idle", "other"] = 0 ∧
      weightedJaccard (fun _ => (2 : ℝ)) ["rare", "common"] ["rare", "other"] =
        jaccard ["rare", "common"] ["rare", "other"] := by
  intro weight measure
  have hweight : ∀ tag, 0 ≤ weight tag := by
    intro tag
    simp only [weight]
    split_ifs <;> norm_num
  obtain ⟨hmeasure, hcount⟩ := weightedJaccard_isOverlapMeasure hweight
  have hfirst : ["rare", "common"].Nodup := by decide
  have hsecond : ["rare", "other"].Nodup := by decide
  have hscore : measure ["rare", "common"] ["rare", "other"] = 3 / 5 := by
    have hshared : shared ["rare", "common"] ["rare", "other"] = ["rare"] := by decide
    have hunion : union ["rare", "common"] ["rare", "other"] = ["rare", "common", "other"] := by
      decide
    have hrare : weight "rare" = 3 := if_pos rfl
    have hcommon : weight "common" = 1 := by simp [weight]
    have hother : weight "other" = 1 := by simp [weight]
    simp only [measure, weightedJaccard, hshared, hunion, Scalar.total_eq, List.map_cons,
      List.map_nil, hrare, hcommon, hother]
    norm_num
  refine ⟨hweight, hscore, ?_, ?_, ?_, ?_, ?_⟩
  · have hturned : measure ["rare", "other"] ["rare", "common"] =
        measure ["other", "rare"] ["common", "rare"] :=
      hmeasure.perm hsecond hfirst (.swap _ _ _) (.swap _ _ _)
    have hswapped : measure ["rare", "common"] ["rare", "other"] =
        measure ["rare", "other"] ["rare", "common"] :=
      hmeasure.symm hfirst hsecond
    rw [← hturned, ← hswapped, hscore]
  · exact hscore ▸ hmeasure.new_in_both hfirst hsecond (by decide) (by decide)
  · exact hscore ▸ hmeasure.new_in_first hfirst hsecond (by decide) (by decide)
  · have hidle : shared ["idle", "common"] ["idle", "other"] = ["idle"] := by decide
    exact (hmeasure.eq_zero_iff (by decide) (by decide)).2 (.inr (.inr (by simp [hidle, weight])))
  · exact (hcount hfirst hsecond).1 2 two_pos

end Gallery
