/-!
# The invalidation bus

Listeners are told that the store has changed.  A listener is registered at
most once, all are told in the order in which they were registered, and one
that fails or panics keeps no other from being told.  Two listeners may share a
name; what tells them apart is their identity.
-/

namespace Gallery

/-- What a listener makes of a notice. -/
inductive Reaction
  | succeeded
  | failed
  | panicked
  deriving DecidableEq

def Reaction.isFailure : Reaction → Bool
  | .succeeded => false
  | _ => true

structure TriggerReport where
  invoked : Nat := 0
  failed : List String := []
  deriving DecidableEq

def TriggerReport.isClean (report : TriggerReport) : Bool :=
  report.failed.isEmpty

/-- A bus over listeners with identities in `ι`. -/
structure Bus (ι : Type) where
  listeners : List ι := []
  deriving DecidableEq

namespace Bus

variable {ι σ : Type}

/-- Adds a listener unless it is there.  Answers whether it was added. -/
def register [DecidableEq ι] (bus : Bus ι) (listener : ι) : Bool × Bus ι :=
  if listener ∈ bus.listeners then (false, bus)
  else (true, ⟨bus.listeners ++ [listener]⟩)

/-- Tells one listener, and notes its name if it fails. -/
def tell (name : ι → String) (notify : ι → σ → Reaction × σ)
    (told : TriggerReport × σ) (listener : ι) : TriggerReport × σ :=
  let (report, state) := told
  let (reaction, state) := notify listener state
  ({ invoked := report.invoked + 1
     failed := if reaction.isFailure then report.failed ++ [name listener] else report.failed },
    state)

/-- Tells every listener, which may change the state. -/
def trigger (bus : Bus ι) (name : ι → String) (notify : ι → σ → Reaction × σ) (state : σ) :
    TriggerReport × σ :=
  bus.listeners.foldl (tell name notify) ({}, state)

def clear (_ : Bus ι) : Bus ι :=
  ⟨[]⟩

def size (bus : Bus ι) : Nat :=
  bus.listeners.length

theorem nodup_register [DecidableEq ι] {bus : Bus ι} (h : bus.listeners.Nodup)
    (listener : ι) : (bus.register listener).2.listeners.Nodup := by
  unfold register
  split
  · exact h
  · rename_i hmem
    simp only [List.nodup_append, h, true_and]
    refine ⟨by simp, ?_⟩
    intro a ha b hb
    rcases List.mem_singleton.1 hb with rfl
    exact fun heq => hmem (heq ▸ ha)

end Bus

end Gallery
