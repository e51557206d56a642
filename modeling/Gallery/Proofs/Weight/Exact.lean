import Gallery.Weight.Cache
import Mathlib.Analysis.SpecialFunctions.Log.Basic

/-!
# Weights of exact numbers

The laws of weights are those of the real numbers, with the natural logarithm.
-/

namespace Gallery

noncomputable instance : Scalar ℝ where
  whole n := n
  add x y := x + y
  mul x y := x * y
  div x y := x / y
  ln := Real.log
  atMost x y := decide (x ≤ y)

/-! ## Numbers that compute exactly -/

/-- The numbers of an ordered field, with some logarithm that grows and is zero at one. -/
class Scalar.Exact (α : Type) [Field α] [LinearOrder α] [Scalar α] : Prop
    extends IsStrictOrderedRing α where
  whole_eq : ∀ n : ℕ, (Scalar.whole n : α) = n
  add_eq : ∀ x y : α, Scalar.add x y = x + y
  mul_eq : ∀ x y : α, Scalar.mul x y = x * y
  div_eq : ∀ x y : α, Scalar.div x y = x / y
  ln_one : Scalar.ln (1 : α) = 0
  ln_lt : ∀ x y : α, 0 < x → x < y → Scalar.ln x < Scalar.ln y
  atMost_iff : ∀ x y : α, Scalar.atMost x y = true ↔ x ≤ y

attribute [simp] Scalar.Exact.whole_eq Scalar.Exact.add_eq Scalar.Exact.mul_eq
  Scalar.Exact.div_eq Scalar.Exact.ln_one Scalar.Exact.atMost_iff

instance : Scalar.Exact ℝ where
  whole_eq _ := rfl
  add_eq _ _ := rfl
  mul_eq _ _ := rfl
  div_eq _ _ := rfl
  ln_one := Real.log_one
  ln_lt _ _ := Real.log_lt_log
  atMost_iff _ _ := decide_eq_true_iff

namespace Scalar

variable {α : Type} [Field α] [LinearOrder α] [Scalar α] [Exact α]

theorem ratio_eq (numerator denominator : ℕ) :
    (ratio numerator denominator : α) = numerator / denominator := by
  simp [ratio]

theorem total_eq (values : List α) : total values = values.sum := by
  have hadd : (Scalar.add : α → α → α) = (· + ·) := by
    funext x y
    exact Exact.add_eq x y
  rw [total, hadd, Exact.whole_eq, Nat.cast_zero, List.sum_eq_foldl]

theorem atLeast_eq (bound value : α) : atLeast bound value = max bound value := by
  unfold atLeast
  by_cases hbound : bound ≤ value
  · rw [if_pos ((Exact.atMost_iff bound value).2 hbound), max_eq_right hbound]
  · rw [if_neg (mt (Exact.atMost_iff bound value).1 hbound), max_eq_left (le_of_not_ge hbound)]

theorem ln_pos {x : α} (hx : 1 < x) : 0 < ln x := by
  rw [← Exact.ln_one (α := α)]
  exact Exact.ln_lt 1 x one_pos hx

end Scalar

/-! ## Weights are positive -/

section Positive

variable {α : Type} [Field α] [LinearOrder α] [Scalar α] [Scalar.Exact α]

theorem unknownTagWeight_pos : 0 < (unknownTagWeight : α) := by
  simp [unknownTagWeight, Scalar.ratio_eq]

namespace Rarity

theorem counted_pos (count : ℕ) : 0 < ((max count 1 : ℕ) : α) :=
  Nat.cast_pos.2 (Nat.one_pos.trans_le (le_max_right count 1))

theorem one_lt_beyond (frequency : ℕ) : 1 < ((max frequency 1 : ℕ) + 1 : α) :=
  lt_add_of_pos_left 1 (counted_pos frequency)

theorem compressed_eq (frequency total : ℕ) :
    (compressed.weight frequency total : α) =
      1 / Scalar.ln ((max frequency 1 : ℕ) + 1 : α) := by
  simp [weight]

theorem classic_eq (frequency total : ℕ) :
    (classic.weight frequency total : α) =
      max (1 / 100) (Scalar.ln ((max total 1 : ℕ) / ((max frequency 1 : ℕ) + 1 : α)) + 1) := by
  simp [weight, floor, Scalar.ratio_eq, Scalar.atLeast_eq]

/-- The compressed measure takes the logarithm of a number above one, and the classic one
has a bound. -/
theorem weight_pos (rarity : Rarity) (frequency total : ℕ) :
    0 < (rarity.weight frequency total : α) := by
  cases rarity with
  | compressed =>
      rw [compressed_eq]
      exact one_div_pos.2 (Scalar.ln_pos (one_lt_beyond frequency))
  | classic =>
      rw [classic_eq]
      exact lt_max_of_lt_left (by norm_num)

end Rarity

theorem Category.weight_pos (category : Category) : 0 < (category.weight : α) := by
  cases category <;> simp [weight, Scalar.ratio_eq]

theorem Subcategory.weight_pos {subcategory : Subcategory} {factor : α}
    (hfactor : subcategory.weight? = some factor) : 0 < factor := by
  cases subcategory <;> cases hfactor <;> simp [Scalar.ratio_eq]

theorem categoryWeight_pos (category : Category) (subcategory : Option Subcategory)
    (useSubcategories : Bool) :
    0 < (categoryWeight category subcategory useSubcategories : α) := by
  unfold categoryWeight
  split
  · cases hfactor : (subcategory.bind Subcategory.weight? : Option α) with
    | none => exact category.weight_pos
    | some factor =>
        obtain ⟨known, -, hknown⟩ := Option.bind_eq_some_iff.1 hfactor
        exact Subcategory.weight_pos hknown
  · exact category.weight_pos

namespace WeightSnapshot

variable (snapshot : WeightSnapshot) (options : WeightOptions) (id : TagId)

theorem factor_pos : 0 < (snapshot.factor options id : α) := by
  unfold factor
  split
  · exact categoryWeight_pos _ _ _
  · simp

theorem weight_pos : 0 < (snapshot.weight options id : α) := by
  rw [weight, Scalar.Exact.mul_eq]
  exact mul_pos (options.rarity.weight_pos _ _) (snapshot.factor_pos options id)

end WeightSnapshot

end Positive

/-! ## Weights in real numbers -/

theorem unknownTagWeight_eq : (unknownTagWeight : ℝ) = 1 / 10 := by
  simp [unknownTagWeight, Scalar.ratio_eq]

/-- A tag that at most one item has weighs as much as one that a single item has. -/
theorem WeightSnapshot.weight_of_rare {snapshot : WeightSnapshot} {id : TagId} {tag : Tag}
    (hrare : snapshot.frequency id ≤ 1)
    (htag : snapshot.tags.find? (·.id = id) = some tag) :
    (snapshot.weight ⟨.compressed, false⟩ id : ℝ) = tag.category.weight / Real.log 2 := by
  have hcarriers : ((max (snapshot.frequency id) 1 : ℕ) + 1 : ℝ) = 2 := by
    rw [max_eq_right hrare]
    norm_num
  have hfactor : (snapshot.factor ⟨.compressed, false⟩ id : ℝ) = tag.category.weight := by
    simp [factor, htag, categoryWeight]
  rw [weight, hfactor, Rarity.compressed_eq, hcarriers]
  exact one_div_mul_eq_div _ _

end Gallery
