import Gallery.Proofs.Text.Lowering
import Mathlib.Data.List.TakeWhile

/-!
# A text behind a letter

Lower-casing a text behind other letters is lower-casing it on its own, but for a capital
sigma that the text opens with: on its own it begins a word, and behind a letter it may
end one.  It ends one if no letter follows (`OpensWithSigma`), and then the two lower
cases differ.
-/

namespace Gallery.Text

/-- The first letter of a text is a capital sigma that no letter follows.  Points and
marks are passed over. -/
def OpensWithSigma (text : List Char) : Prop :=
  ∃ after, text.dropWhile isCaseIgnorable = 'Σ' :: after ∧
    (after.dropWhile isCaseIgnorable).head?.any isCased = false

instance (text : List Char) : Decidable (OpensWithSigma text) :=
  match hopening : text.dropWhile isCaseIgnorable with
  | 'Σ' :: after =>
    decidable_of_iff ((after.dropWhile isCaseIgnorable).head?.any isCased = false)
      (by simp [OpensWithSigma, hopening])
  | [] => isFalse (by simp [OpensWithSigma, hopening])
  | c :: after =>
    if hc : c = 'Σ' then
      decidable_of_iff ((after.dropWhile isCaseIgnorable).head?.any isCased = false)
        (by simp [OpensWithSigma, hopening, hc])
    else isFalse (by simp [OpensWithSigma, hopening, hc])

theorem sigma_letter : isCased 'Σ' = true ∧ isCaseIgnorable 'Σ' = false := by decide +kernel

/-- What stands before a text makes no difference beyond a character that is not passed
over. -/
theorem lowerAfter_append_letter
    {c : Char} (hc : isCaseIgnorable c = false) (near far text : List Char) :
    lowerAfter (near ++ c :: far) text = lowerAfter (near ++ [c]) text := by
  have hneighbour (near : List Char) :
      ((near ++ c :: far).dropWhile isCaseIgnorable).head? =
        ((near ++ [c]).dropWhile isCaseIgnorable).head? := by
    induction near with
    | nil => simp [hc]
    | cons d near ih =>
        by_cases hd : isCaseIgnorable d = true
        · simpa [hd] using ih
        · simp [hd]
  induction text generalizing near with
  | nil => rfl
  | cons d text ih =>
      have hsigma : lowerSigma (near ++ c :: far) text = lowerSigma (near ++ [c]) text := by
        rw [lowerSigma, lowerSigma, endsWord, endsWord, hneighbour]
      have hrest := ih (d :: near)
      rw [List.cons_append, List.cons_append] at hrest
      rw [lowerAfter, lowerAfter, hsigma, hrest]

/-- Characters that are passed over stand between the text and the letter before it. -/
theorem lowerAfter_letter_iff
    {near far : List Char} (hnear : ∀ c ∈ near, isCaseIgnorable c = true)
    (hletter : (far.dropWhile isCaseIgnorable).head?.any isCased = true) (text : List Char) :
    lowerAfter (near ++ far) text = lowerAfter near text ↔ ¬OpensWithSigma text := by
  induction text generalizing near with
  | nil => exact iff_of_true rfl (by simp [OpensWithSigma])
  | cons c text ih =>
      cases hc : isCaseIgnorable c with
      | true =>
          have hsigma : c ≠ 'Σ' := by
            rintro rfl
            rw [sigma_letter.2] at hc
            cases hc
          have hopens : OpensWithSigma (c :: text) ↔ OpensWithSigma text := by
            simp [OpensWithSigma, hc]
          rw [lowerAfter, lowerAfter, if_neg hsigma, if_neg hsigma, List.append_cancel_left_eq,
            hopens]
          exact ih (List.forall_mem_cons.2 ⟨hc, hnear⟩)
      | false =>
          have hrest : lowerAfter (c :: (near ++ far)) text = lowerAfter (c :: near) text := by
            have hwith := lowerAfter_append_letter hc [] (near ++ far) text
            have hwithout := lowerAfter_append_letter hc [] near text
            exact hwith.trans hwithout.symm
          rw [lowerAfter, lowerAfter, hrest, List.append_cancel_right_eq]
          by_cases hsigma : c = 'Σ'
          · subst hsigma
            have hends : endsWord (near ++ far) text =
                !(text.dropWhile isCaseIgnorable).head?.any isCased := by
              rw [endsWord, List.dropWhile_append_of_pos hnear, hletter, Bool.true_and]
            have hbegins : endsWord near text = false := by
              rw [endsWord, List.dropWhile_eq_nil_iff.2 hnear]
              rfl
            have hopens : OpensWithSigma ('Σ' :: text) ↔
                (text.dropWhile isCaseIgnorable).head?.any isCased = false := by
              simp [OpensWithSigma, hc]
            rw [hopens, if_pos rfl, if_pos rfl, lowerSigma, lowerSigma, hends, hbegins]
            cases (text.dropWhile isCaseIgnorable).head?.any isCased <;> decide
          · have hopens : ¬OpensWithSigma (c :: text) := by
              simp [OpensWithSigma, hc, hsigma]
            exact iff_of_true (by rw [if_neg hsigma, if_neg hsigma]) hopens

end Gallery.Text
