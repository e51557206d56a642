import Gallery.Bus.Run
import Gallery.Distinct
import Mathlib.Tactic

/-!
# Listeners do not get in each other's way

Listeners are objects of any type, and what one makes of a notice may differ from call to
call.  The bus is watched over a run with a log of everyone that it has told.  Who is on
the bus is said by the calls alone, as those registered since it was last cleared; a
trigger tells each of these once, in order, and reports who failed, and so every listener
has been told as often as the bus was triggered while it was registered.  Listeners that
count their calls themselves count the same.
-/

namespace Gallery

theorem distinct_concat {α : Type} [DecidableEq α] (list : List α) (a : α) :
    distinct (list ++ [a]) = if a ∈ list then distinct list else distinct list ++ [a] := by
  induction list with
  | nil => rfl
  | cons b rest ih =>
      rw [List.cons_append, distinct, ih, distinct]
      by_cases hsame : a = b
      · subst hsame
        by_cases hmem : a ∈ rest <;> simp [hmem]
      · by_cases hmem : a ∈ rest <;> simp [hmem, hsame]

/-- What is asked of a bus. -/
inductive BusCall (ι : Type)
  | register (listener : ι)
  | trigger
  | clear
  deriving DecidableEq

namespace BusCall

variable {ι : Type}

/-- One call more on a list of the listeners that were asked for. -/
def record : List ι → BusCall ι → List ι
  | asked, .register listener => asked ++ [listener]
  | asked, .trigger => asked
  | _, .clear => []

/-- The listeners that were registered since the bus was last cleared, with repetitions. -/
def registered (calls : List (BusCall ι)) : List ι :=
  calls.foldl record []

theorem registered_concat (calls : List (BusCall ι)) (call : BusCall ι) :
    registered (calls ++ [call]) = record (registered calls) call := by
  simp [registered]

variable [DecidableEq ι]

/-- How many triggers were issued while a listener was registered. -/
def heard (listener : ι) (calls : List (BusCall ι)) : ℕ :=
  ((List.range calls.length).filter fun moment =>
    calls[moment]? = some .trigger ∧ listener ∈ registered (calls.take moment)).length

theorem heard_concat (listener : ι) (calls : List (BusCall ι)) (call : BusCall ι) :
    heard listener (calls ++ [call]) =
      heard listener calls + if call = .trigger ∧ listener ∈ registered calls then 1 else 0 := by
  have hbefore : (List.range calls.length).filter (fun moment =>
      (calls ++ [call])[moment]? = some .trigger ∧
        listener ∈ registered ((calls ++ [call]).take moment)) =
      (List.range calls.length).filter fun moment =>
        calls[moment]? = some .trigger ∧ listener ∈ registered (calls.take moment) := by
    apply List.filter_congr
    intro moment hmoment
    have hearlier := List.mem_range.1 hmoment
    rw [List.getElem?_append_left hearlier, List.take_append_of_le_length hearlier.le]
  unfold heard
  rw [List.length_append, List.length_singleton, List.range_succ, List.filter_append, hbefore,
    List.length_append]
  congr 1
  by_cases hheard : call = .trigger ∧ listener ∈ registered calls <;> simp [hheard]

end BusCall

/-- Listeners as a bus meets them.  Two may have one name, and the reaction to a notice is
that of the listener after the calls that it has had. -/
structure Audience (ι : Type) where
  name : ι → String
  reaction : ι → ℕ → Reaction

/-- A bus with everyone that it has told, one entry for each call, in order. -/
structure BusLog (ι : Type) where
  bus : Bus ι := {}
  told : List ι := []

namespace Audience

variable {ι : Type} [DecidableEq ι] (audience : Audience ι)

def hear (listener : ι) (told : List ι) : Reaction × List ι :=
  (audience.reaction listener (told.count listener), told ++ [listener])

/-- Whether a listener would fail or panic if it were told next. -/
def fails (told : List ι) (listener : ι) : Bool :=
  (audience.reaction listener (told.count listener)).isFailure

def step (log : BusLog ι) : BusCall ι → BusAnswer × BusLog ι
  | .register listener =>
    let (added, bus) := log.bus.register listener
    (.registered added, { log with bus })
  | .trigger =>
    let (report, told) := log.bus.trigger audience.name audience.hear log.told
    (.triggered report, { log with told })
  | .clear => (.cleared, { log with bus := log.bus.clear })

def run (calls : List (BusCall ι)) : BusLog ι :=
  calls.foldl (fun log call => (audience.step log call).2) {}

theorem run_concat (calls : List (BusCall ι)) (call : BusCall ι) :
    audience.run (calls ++ [call]) = (audience.step (audience.run calls) call).2 := by
  simp [run]

/-! ## One call -/

/-- Whoever fails, the others are told all the same; that a listener is told does not
change how often another one was. -/
theorem foldl_tell {listeners : List ι} (hnodup : listeners.Nodup) (report : TriggerReport)
    (told : List ι) :
    listeners.foldl (Bus.tell audience.name audience.hear) (report, told) =
      (⟨report.invoked + listeners.length,
          report.failed ++ (listeners.filter (audience.fails told)).map audience.name⟩,
        told ++ listeners) := by
  induction listeners generalizing report told with
  | nil => simp
  | cons listener rest ih =>
      obtain ⟨hnew, hrest⟩ := List.nodup_cons.1 hnodup
      have hothers : rest.filter (audience.fails (told ++ [listener])) =
          rest.filter (audience.fails told) := by
        apply List.filter_congr
        intro other hother
        have hne : listener ≠ other := fun heq => hnew (heq ▸ hother)
        simp [fails, hne]
      have hcount : report.invoked + 1 + rest.length = report.invoked + (rest.length + 1) := by
        omega
      have hreaction : (audience.reaction listener (told.count listener)).isFailure =
          audience.fails told listener := rfl
      rw [List.foldl_cons, Bus.tell, hear, ih hrest, hothers]
      by_cases hfails : audience.fails told listener = true <;>
        simp [hfails, hreaction, hcount]

theorem step_trigger {log : BusLog ι} (hnodup : log.bus.listeners.Nodup) :
    audience.step log .trigger =
      (.triggered ⟨log.bus.listeners.length,
          (log.bus.listeners.filter (audience.fails log.told)).map audience.name⟩,
        { log with told := log.told ++ log.bus.listeners }) := by
  rw [step, Bus.trigger, audience.foldl_tell hnodup]
  simp

theorem step_register (log : BusLog ι) (listener : ι) :
    audience.step log (.register listener) =
      (.registered (decide (listener ∉ log.bus.listeners)),
        { log with
          bus := ⟨if listener ∈ log.bus.listeners then log.bus.listeners
            else log.bus.listeners ++ [listener]⟩ }) := by
  by_cases hmem : listener ∈ log.bus.listeners <;> simp [step, Bus.register, hmem]

/-! ## Runs -/

/-- Who is on the bus is said by the calls, whatever came of the triggers. -/
theorem listeners_run (calls : List (BusCall ι)) :
    (audience.run calls).bus.listeners = distinct (BusCall.registered calls) := by
  induction calls using List.reverseRecOn with
  | nil => rfl
  | append_singleton calls call ih =>
      rw [run_concat, BusCall.registered_concat]
      cases call with
      | register listener =>
          rw [step_register, BusCall.record, distinct_concat]
          simp only [ih, mem_distinct]
      | trigger => exact ih
      | clear => rfl

theorem nodup_listeners_run (calls : List (BusCall ι)) :
    (audience.run calls).bus.listeners.Nodup := by
  rw [listeners_run]
  exact nodup_distinct _

theorem count_told_run (calls : List (BusCall ι)) (listener : ι) :
    (audience.run calls).told.count listener = BusCall.heard listener calls := by
  induction calls using List.reverseRecOn with
  | nil => rfl
  | append_singleton calls call ih =>
      rw [run_concat, BusCall.heard_concat, ← ih]
      cases call with
      | register other =>
          rw [step_register]
          simp
      | trigger =>
          have hnodup := audience.nodup_listeners_run calls
          rw [audience.step_trigger hnodup, List.count_append, hnodup.count, listeners_run]
          simp
      | clear => simp [step]

/-- At any moment of a run no listener is on the bus twice, and one is added exactly if it
was not there.  A trigger tells everyone on the bus once, in the order of registration, and
reports how many they are and the names of those that fail or panic.  So every listener has
been told as often as the bus was triggered while it was registered. -/
theorem listeners_are_isolated (calls : List (BusCall ι)) :
    let log := audience.run calls
    log.bus.listeners = distinct (BusCall.registered calls) ∧
      log.bus.listeners.Nodup ∧
      (∀ listener, (audience.step log (.register listener)).1 =
        .registered (decide (listener ∉ log.bus.listeners))) ∧
      (audience.step log .trigger).1 = .triggered ⟨log.bus.listeners.length,
        (log.bus.listeners.filter (audience.fails log.told)).map audience.name⟩ ∧
      (audience.step log .trigger).2 = { log with told := log.told ++ log.bus.listeners } ∧
      ∀ listener, log.told.count listener = BusCall.heard listener calls := by
  intro log
  have hnodup := audience.nodup_listeners_run calls
  have htrigger := audience.step_trigger hnodup
  refine ⟨audience.listeners_run calls, hnodup, ?_, ?_, ?_, audience.count_told_run calls⟩
  · exact fun listener => congrArg Prod.fst (audience.step_register log listener)
  · exact congrArg Prod.fst htrigger
  · exact congrArg Prod.snd htrigger

end Audience

/-! ## Listeners that count their calls -/

/-- Two ways of keeping the state of the listeners that agree on every notice agree on
every trigger. -/
theorem Bus.trigger_related {ι σ τ : Type} (name : ι → String) {notify : ι → σ → Reaction × σ}
    {notify' : ι → τ → Reaction × τ} {related : σ → τ → Prop}
    (hnotify : ∀ listener state state', related state state' →
      (notify listener state).1 = (notify' listener state').1 ∧
        related (notify listener state).2 (notify' listener state').2)
    (bus : Bus ι) {state : σ} {state' : τ} (h : related state state') :
    (bus.trigger name notify state).1 = (bus.trigger name notify' state').1 ∧
      related (bus.trigger name notify state).2 (bus.trigger name notify' state').2 := by
  have htold : ∀ (listeners : List ι) (report : TriggerReport) (state : σ) (state' : τ),
      related state state' →
      (listeners.foldl (tell name notify) (report, state)).1 =
          (listeners.foldl (tell name notify') (report, state')).1 ∧
        related (listeners.foldl (tell name notify) (report, state)).2
          (listeners.foldl (tell name notify') (report, state')).2 := by
    intro listeners
    induction listeners with
    | nil => exact fun _ _ _ h => ⟨rfl, h⟩
    | cons listener rest ih =>
        intro report state state' h
        obtain ⟨hreaction, hafter⟩ := hnotify listener state state' h
        simp only [List.foldl_cons, tell]
        rw [hreaction]
        exact ih _ _ _ hafter
  exact htold bus.listeners {} state state' h

namespace BusRun

/-- The listeners of a run, who react as they always do. -/
def audience (listeners : List Listener) : Audience ℕ where
  name := nameOf listeners
  reaction position _ := (listeners[position]?.map Listener.reaction).getD .succeeded

/-- How often each of the first listeners was told. -/
def tally (count : ℕ) (told : List ℕ) : List ℕ :=
  (List.range count).map told.count

def ofRequest : BusRequest → BusCall ℕ
  | .register position => .register position
  | .trigger => .trigger
  | .clear => .clear

theorem tally_concat (count : ℕ) (told : List ℕ) (position : ℕ) :
    (tally count told).modify position (· + 1) = tally count (told ++ [position]) := by
  apply List.ext_getElem?
  intro other
  rw [List.getElem?_modify, tally, tally, List.getElem?_map, List.getElem?_map]
  by_cases hother : other < count
  · rw [List.getElem?_range hother]
    by_cases hsame : position = other <;> simp [hsame]
  · rw [List.getElem?_eq_none (by simpa using hother)]
    rfl

/-- A run as the log of its bus shows it. -/
def ofLog (count : ℕ) (log : BusLog ℕ) : BusRun where
  bus := log.bus
  calls := tally count log.told

theorem step_ofLog (listeners : List Listener) (log : BusLog ℕ) (request : BusRequest) :
    step listeners (ofLog listeners.length log) request =
      let (answer, log) := (audience listeners).step log (ofRequest request)
      (answer, ofLog listeners.length log) := by
  cases request with
  | register position => rfl
  | clear => rfl
  | trigger =>
      have hnotify (position : ℕ) (calls told : List ℕ)
          (h : calls = tally listeners.length told) :
          (notify listeners position calls).1 = ((audience listeners).hear position told).1 ∧
            (notify listeners position calls).2 =
              tally listeners.length ((audience listeners).hear position told).2 := by
        subst h
        exact ⟨rfl, tally_concat _ _ _⟩
      obtain ⟨hreport, hcalls⟩ :=
        Bus.trigger_related (nameOf listeners) hnotify log.bus (Eq.refl (tally _ log.told))
      rw [step, ofLog, ofRequest, Audience.step]
      exact Prod.ext (congrArg BusAnswer.triggered hreport)
        (congrArg (fun calls => (⟨log.bus, calls⟩ : BusRun)) hcalls)

/-- The number of calls of each listener, after any run. -/
theorem calls_run (listeners : List Listener) (requests : List BusRequest) :
    (requests.foldl (fun run request => (step listeners run request).2)
        (start listeners)).calls =
      (List.range listeners.length).map fun position =>
        BusCall.heard position (requests.map ofRequest) := by
  have hlog : requests.foldl (fun run request => (step listeners run request).2)
      (start listeners) =
        ofLog listeners.length
          ((audience listeners).run (requests.map ofRequest)) := by
    induction requests using List.reverseRecOn with
    | nil => simp [start, ofLog, tally, Audience.run]
    | append_singleton requests request ih =>
        rw [List.foldl_append, ih, List.foldl_cons, List.foldl_nil, step_ofLog, List.map_append,
          List.map_singleton, Audience.run_concat]
  rw [hlog]
  exact List.map_congr_left fun position _ => Audience.count_told_run _ _ position

end BusRun

end Gallery
