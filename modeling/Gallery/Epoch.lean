/-!
# Epochs

An epoch counts invalidations.  A reading of it is current until the next
invalidation.  The count is a word of the machine and starts over after the
largest one.
-/

namespace Gallery

structure Epoch where
  count : UInt64 := 0
  deriving DecidableEq

namespace Epoch

def current (epoch : Epoch) : UInt64 :=
  epoch.count

def advance (epoch : Epoch) : Epoch :=
  ⟨epoch.count + 1⟩

def isCurrent (epoch : Epoch) (reading : UInt64) : Bool :=
  epoch.current == reading

theorem isCurrent_current (epoch : Epoch) : epoch.isCurrent epoch.current = true := by
  simp [isCurrent]

end Epoch

end Gallery
