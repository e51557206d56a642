/-!
# A memo of bounded size

The entries stand in the order of their last use, the latest first.  Reading an
entry moves it to the front, and a full memo forgets the entry at the end.
-/

namespace Gallery

structure Memo (κ ν : Type) where
  capacity : Nat
  entries : List (κ × ν)

namespace Memo

variable {κ ν : Type} [DecidableEq κ]

/-- A memo holds at least one entry. -/
def empty (capacity : Nat) : Memo κ ν :=
  ⟨max capacity 1, []⟩

def find? (memo : Memo κ ν) (key : κ) : Option ν :=
  (memo.entries.find? (·.1 = key)).map (·.2)

def without (memo : Memo κ ν) (key : κ) : List (κ × ν) :=
  memo.entries.filter (·.1 ≠ key)

/-- Remembers a value under a key, in place of what stood there. -/
def put (memo : Memo κ ν) (key : κ) (value : ν) : Memo κ ν :=
  { memo with entries := ((key, value) :: memo.without key).take memo.capacity }

/-- The value under a key, and the memo after this use of it. -/
def use? (memo : Memo κ ν) (key : κ) : Option (ν × Memo κ ν) :=
  (memo.find? key).map fun value =>
    (value, { memo with entries := (key, value) :: memo.without key })

def clear (memo : Memo κ ν) : Memo κ ν :=
  { memo with entries := [] }

theorem find?_put_self {memo : Memo κ ν} {key : κ} {value : ν}
    (h : 0 < memo.capacity) : (memo.put key value).find? key = some value := by
  obtain ⟨n, hn⟩ : ∃ n, memo.capacity = n + 1 := ⟨memo.capacity - 1, by omega⟩
  simp [put, find?, hn]

@[simp] theorem find?_clear (memo : Memo κ ν) (key : κ) : memo.clear.find? key = none := by
  simp [clear, find?]

end Memo

end Gallery
