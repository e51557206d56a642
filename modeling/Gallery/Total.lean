/-!
# Totals

The total of the counts that a function assigns to the elements of a list.
-/

namespace Gallery

def totalOf {α : Type} (count : α → Nat) : List α → Nat
  | [] => 0
  | a :: rest => count a + totalOf count rest

@[simp] theorem totalOf_nil {α : Type} (count : α → Nat) : totalOf count [] = 0 := rfl

@[simp] theorem totalOf_cons {α : Type} (count : α → Nat) (a : α) (rest : List α) :
    totalOf count (a :: rest) = count a + totalOf count rest := rfl

end Gallery
