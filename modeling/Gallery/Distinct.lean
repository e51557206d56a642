/-!
# Lists without repetition

`distinct` keeps the first of equal elements.  It has the same members as the
list, and none of them twice.
-/

namespace Gallery

def distinct {α : Type} [DecidableEq α] : List α → List α
  | [] => []
  | a :: rest => a :: (distinct rest).filter (· ≠ a)

@[simp] theorem mem_distinct {α : Type} [DecidableEq α] {a : α} {list : List α} :
    a ∈ distinct list ↔ a ∈ list := by
  induction list with
  | nil => simp [distinct]
  | cons b rest ih =>
      by_cases h : a = b
      · simp [distinct, h]
      · simp [distinct, h, ih]

theorem nodup_distinct {α : Type} [DecidableEq α] (list : List α) :
    (distinct list).Nodup := by
  induction list with
  | nil => simp [distinct]
  | cons b rest ih =>
      simp only [distinct, List.nodup_cons]
      exact ⟨by simp, ih.sublist List.filter_sublist⟩

end Gallery
