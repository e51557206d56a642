import Gallery.Proofs.Weight.Exact

/-!
# Rarity

Both measures of rarity are positive, divide by nothing that is zero, and fall as more items
have the tag.  So of two tags with the same factor the one that more items have weighs no
more, by whatever snapshot they are weighed.
-/

namespace Gallery

/-- What holds of the measures of rarity among exact numbers.  The first two fields say how
they are computed and that the divisors and the arguments of the logarithm are positive. -/
structure Rarity.Lawful (α : Type) [Field α] [LinearOrder α] [Scalar α] : Prop where
  compressed_eq : ∀ frequency total : ℕ,
    0 < Scalar.ln ((max frequency 1 : ℕ) + 1 : α) ∧
      compressed.weight frequency total = 1 / Scalar.ln ((max frequency 1 : ℕ) + 1 : α)
  classic_eq : ∀ frequency total : ℕ,
    0 < ((max frequency 1 : ℕ) + 1 : α) ∧
      0 < (max total 1 : ℕ) / ((max frequency 1 : ℕ) + 1 : α) ∧
      classic.weight frequency total =
        max (1 / 100) (Scalar.ln ((max total 1 : ℕ) / ((max frequency 1 : ℕ) + 1 : α)) + 1)
  pos : ∀ (rarity : Rarity) (frequency total : ℕ), 0 < (rarity.weight frequency total : α)
  antitone : ∀ (rarity : Rarity) (total : ℕ),
    Antitone fun frequency => (rarity.weight frequency total : α)
  weight_zero : ∀ (rarity : Rarity) (total : ℕ),
    (rarity.weight 0 total : α) = rarity.weight 1 total
  monotone : ∀ frequency : ℕ, Monotone fun total => (classic.weight frequency total : α)

variable {α : Type} [Field α] [LinearOrder α] [Scalar α] [Scalar.Exact α]

theorem Scalar.ln_le {x y : α} (hx : 0 < x) (hle : x ≤ y) : ln x ≤ ln y := by
  rcases hle.eq_or_lt with rfl | hlt
  · exact le_rfl
  · exact (Exact.ln_lt x y hx hlt).le

namespace Rarity

section Counted

variable {fewer more : ℕ}

theorem counted_le (hle : fewer ≤ more) : ((max fewer 1 : ℕ) : α) ≤ (max more 1 : ℕ) :=
  Nat.cast_le.2 (max_le_max_right 1 hle)

theorem beyond_pos (frequency : ℕ) : 0 < ((max frequency 1 : ℕ) + 1 : α) :=
  one_pos.trans (one_lt_beyond frequency)

theorem beyond_le (hle : fewer ≤ more) :
    ((max fewer 1 : ℕ) + 1 : α) ≤ (max more 1 : ℕ) + 1 :=
  add_le_add_left (counted_le hle) 1

theorem share_pos (frequency total : ℕ) :
    0 < (max total 1 : ℕ) / ((max frequency 1 : ℕ) + 1 : α) :=
  div_pos (counted_pos total) (beyond_pos frequency)

end Counted

theorem antitone_weight (rarity : Rarity) (total : ℕ) :
    Antitone fun frequency => (rarity.weight frequency total : α) := by
  intro fewer more hle
  have hbeyond : ((max fewer 1 : ℕ) + 1 : α) ≤ (max more 1 : ℕ) + 1 := beyond_le hle
  cases rarity with
  | compressed =>
      simp only [compressed_eq]
      apply one_div_le_one_div_of_le
      · exact Scalar.ln_pos (one_lt_beyond fewer)
      · exact Scalar.ln_le (beyond_pos fewer) hbeyond
  | classic =>
      simp only [classic_eq]
      apply max_le_max_left
      apply add_le_add_left
      apply Scalar.ln_le (share_pos more total)
      exact div_le_div_of_nonneg_left (counted_pos total).le (beyond_pos fewer) hbeyond

theorem monotone_weight_classic (frequency : ℕ) :
    Monotone fun total => (classic.weight frequency total : α) := by
  intro smaller larger hle
  simp only [classic_eq]
  apply max_le_max_left
  apply add_le_add_left
  apply Scalar.ln_le (share_pos frequency smaller)
  exact div_le_div_of_nonneg_right (counted_le hle) (beyond_pos frequency).le

variable (α) in
theorem lawful : Lawful α where
  compressed_eq frequency total :=
    ⟨Scalar.ln_pos (one_lt_beyond frequency), compressed_eq frequency total⟩
  classic_eq frequency total :=
    ⟨beyond_pos frequency, share_pos frequency total, classic_eq frequency total⟩
  pos := weight_pos
  antitone := antitone_weight
  weight_zero _ _ := rfl
  monotone := monotone_weight_classic

end Rarity

/-- A tag with the same factor weighs no more if no fewer items have it. -/
theorem WeightSnapshot.weight_le_weight {snapshot : WeightSnapshot} {options : WeightOptions}
    {id other : TagId}
    (hfactor : (snapshot.factor options id : α) = snapshot.factor options other)
    (hfewer : snapshot.frequency id ≤ snapshot.frequency other) :
    (snapshot.weight options other : α) ≤ snapshot.weight options id := by
  have hrarity := Rarity.antitone_weight (α := α) options.rarity snapshot.totalItems hfewer
  simp only [weight, Scalar.Exact.mul_eq, hfactor]
  exact mul_le_mul_of_nonneg_right hrarity (snapshot.factor_pos options other).le

end Gallery
