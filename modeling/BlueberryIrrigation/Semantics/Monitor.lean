import Mathlib.Data.List.Basic

/-!
# Monitors

A monitor watches the events of a run: it has a state of its own and says which events it allows
next. A list of events is accepted when each of them is allowed after those before it. `Passes`
is acceptance together with the state that the monitor is left in, which is how the pieces of a
run are put together.
-/

namespace BlueberryIrrigation.Semantics

universe u v

structure Monitor (State : Type u) (Event : Type v) where
  /-- The state after an event. -/
  next : State → Event → State
  /-- The event may happen in this state. -/
  Permits : State → Event → Prop

namespace Monitor

variable {State : Type u} {Event : Type v} (monitor : Monitor State Event)

/-- The state after these events, the oldest first. -/
def run (state : State) (events : List Event) : State := events.foldl monitor.next state

/-- Each event is allowed after those before it. -/
def Accepts : State → List Event → Prop
  | _, [] => True
  | state, event :: rest => monitor.Permits state event ∧ Accepts (monitor.next state event) rest

/-- The events are accepted and lead from the first state to the last. -/
structure Passes (first : State) (events : List Event) (last : State) : Prop where
  accepted : monitor.Accepts first events
  reaches : monitor.run first events = last

variable {monitor} {first second last : State} {event : Event} {events rest : List Event}

@[simp] theorem run_nil : monitor.run first [] = first := rfl

@[simp] theorem run_cons :
    monitor.run first (event :: rest) = monitor.run (monitor.next first event) rest := rfl

theorem run_append :
    monitor.run first (events ++ rest) = monitor.run (monitor.run first events) rest := by
  simp [run]

@[simp] theorem accepts_nil : monitor.Accepts first [] := trivial

@[simp] theorem accepts_cons :
    monitor.Accepts first (event :: rest) ↔
      monitor.Permits first event ∧ monitor.Accepts (monitor.next first event) rest := Iff.rfl

/-- A list is judged in pieces. -/
theorem accepts_append :
    monitor.Accepts first (events ++ rest) ↔
      monitor.Accepts first events ∧ monitor.Accepts (monitor.run first events) rest := by
  induction events generalizing first with
  | nil => simp
  | cons event events ih => simp [ih, and_assoc]

/-- Acceptance looks at every event once, in the state that those before it lead to. -/
theorem accepts_iff :
    monitor.Accepts first events ↔
      ∀ before event later, events = before ++ event :: later →
        monitor.Permits (monitor.run first before) event := by
  constructor
  · rintro accepted before event later rfl
    exact (accepts_append.mp accepted).2.1
  · intro permits
    induction events generalizing first with
    | nil => trivial
    | cons event rest ih =>
        refine ⟨permits [] event rest rfl, ih fun before next later split => ?_⟩
        exact permits (event :: before) next later (by rw [split, List.cons_append])

theorem Passes.nil : monitor.Passes first [] first := ⟨trivial, rfl⟩

theorem Passes.cons (permits : monitor.Permits first event)
    (passes : monitor.Passes (monitor.next first event) rest last) :
    monitor.Passes first (event :: rest) last :=
  ⟨⟨permits, passes.accepted⟩, passes.reaches⟩

theorem Passes.append (before : monitor.Passes first events second)
    (after : monitor.Passes second rest last) : monitor.Passes first (events ++ rest) last := by
  obtain ⟨accepted, rfl⟩ := before
  exact ⟨accepts_append.mpr ⟨accepted, after.accepted⟩, run_append.trans after.reaches⟩

/-- Events that the monitor allows where it stands, and that leave it there. -/
theorem Passes.idle
    (idle : ∀ event ∈ events, monitor.Permits first event ∧ monitor.next first event = first) :
    monitor.Passes first events first := by
  induction events with
  | nil => exact .nil
  | cons event rest ih =>
      obtain ⟨permits, same⟩ := idle event (List.mem_cons_self ..)
      refine .cons permits ?_
      rw [same]
      exact ih fun event member => idle event (List.mem_cons_of_mem _ member)

end Monitor
end BlueberryIrrigation.Semantics
