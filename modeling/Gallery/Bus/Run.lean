import Gallery.Bus.Basic

/-!
# Runs of a bus

A run registers listeners, triggers the bus and clears it, in any order.  Every
listener counts how often it was told, and then reacts as it always does.
-/

namespace Gallery

structure Listener where
  name : String
  reaction : Reaction
  deriving DecidableEq

inductive BusRequest
  /-- Registers the listener at a position of the given list. -/
  | register (listener : Nat)
  | trigger
  | clear
  deriving DecidableEq

inductive BusAnswer
  | registered (added : Bool)
  | triggered (report : TriggerReport)
  | cleared
  deriving DecidableEq

/-- A bus whose listeners are positions, with the number of calls of each. -/
structure BusRun where
  bus : Bus Nat := {}
  calls : List Nat
  deriving DecidableEq

namespace BusRun

def start (listeners : List Listener) : BusRun where
  calls := listeners.map fun _ => 0

def nameOf (listeners : List Listener) (position : Nat) : String :=
  (listeners[position]?.map Listener.name).getD ""

/-- A call is counted before the listener reacts. -/
def notify (listeners : List Listener) (position : Nat) (calls : List Nat) :
    Reaction × List Nat :=
  ((listeners[position]?.map Listener.reaction).getD .succeeded,
    calls.modify position (· + 1))

def step (listeners : List Listener) (run : BusRun) : BusRequest → BusAnswer × BusRun
  | .register position =>
    let (added, bus) := run.bus.register position
    (.registered added, { run with bus })
  | .trigger =>
    let (report, calls) := run.bus.trigger (nameOf listeners) (notify listeners) run.calls
    (.triggered report, { run with calls })
  | .clear => (.cleared, { run with bus := run.bus.clear })

end BusRun

end Gallery
