import Mathlib.Data.List.Basic

/-!
# Registers

A register is one value that events assign or leave alone. A list of events leaves it with what
the last assignment says, whatever it held; so the same list, run again and again, either leaves a
value alone for good or changes it the first time.
-/

namespace BlueberryIrrigation.Semantics

universe u v

namespace Register

variable {Event : Type u} {Value : Type v} (assigned : Event → Option Value)

/-- The value after these events, the first one first. -/
def run (held : Value) (events : List Event) : Value :=
  events.foldl (fun value event => (assigned event).getD value) held

/-- The last value that these events assign. -/
def last : List Event → Option Value
  | [] => none
  | event :: rest => (last rest).or (assigned event)

variable {assigned} {held : Value} {event : Event} {events : List Event}

@[simp] theorem run_nil : run assigned held [] = held := rfl

@[simp] theorem run_cons : run assigned held (event :: events) =
    run assigned ((assigned event).getD held) events := rfl

@[simp] theorem last_nil : last assigned [] = none := rfl

@[simp] theorem last_cons :
    last assigned (event :: events) = (last assigned events).or (assigned event) := rfl

/-- Only the last assignment counts. -/
theorem run_eq_last : run assigned held events = (last assigned events).getD held := by
  induction events generalizing held with
  | nil => rfl
  | cons event rest ih =>
      rw [run_cons, ih, last_cons]
      cases last assigned rest <;> rfl

theorem last_eq_none (unassigned : ∀ event ∈ events, assigned event = none) :
    last assigned events = none := by
  induction events with
  | nil => rfl
  | cons event rest ih =>
      obtain ⟨first, others⟩ := List.forall_mem_cons.mp unassigned
      rw [last_cons, ih others, first]
      rfl

/-- The events leave the value alone exactly when the last that they assign is this value. -/
theorem run_eq_self_iff :
    run assigned held events = held ↔ ∀ value ∈ last assigned events, value = held := by
  rw [run_eq_last]
  cases last assigned events with
  | none => simp
  | some value => simp

end Register
end BlueberryIrrigation.Semantics
