import Mathlib.Data.List.Basic

/-!
# Timed histories of a deterministic machine

A machine runs one operation at a time, each at a reading of a real clock that never
goes back. A history is the list of its steps, newest first, so the state it reaches
and every accumulator over it are structural recursions, and `Admitted.along` is the
one induction all run theorems go through.
-/

namespace BlueberryIrrigation.Semantics

universe u v

/-- An operation together with the real time at which it is run. -/
structure Step (Operation : Type v) where
  now : Nat
  operation : Operation
deriving DecidableEq, Repr

/-- A deterministic machine whose operations may look at the clock. -/
structure Machine (State : Type u) (Operation : Type v) where
  run : Operation → Nat → State → State

namespace Machine

variable {State : Type u} {Operation : Type v} (machine : Machine State Operation)

/-- The state after a history, whose newest step stands first. -/
def after (start : State) : List (Step Operation) → State
  | [] => start
  | step :: prior => machine.run step.operation step.now (after start prior)

/-- The clock at the newest step, or `origin` before the first one. -/
def lastTime (origin : Nat) : List (Step Operation) → Nat
  | [] => origin
  | step :: _ => step.now

@[simp] theorem after_nil (start : State) : machine.after start [] = start := rfl

@[simp] theorem after_cons (start : State) (step : Step Operation)
    (prior : List (Step Operation)) :
    machine.after start (step :: prior) =
      machine.run step.operation step.now (machine.after start prior) := rfl

/-- A history runs its earlier part first. -/
theorem after_append (start : State) (later prior : List (Step Operation)) :
    machine.after start (later ++ prior) = machine.after (machine.after start prior) later := by
  induction later with
  | nil => rfl
  | cons step rest ih => rw [List.cons_append, after_cons, after_cons, ih]

@[simp] theorem lastTime_nil (origin : Nat) :
    lastTime origin ([] : List (Step Operation)) = origin := rfl

@[simp] theorem lastTime_cons (origin : Nat) (step : Step Operation)
    (prior : List (Step Operation)) : lastTime origin (step :: prior) = step.now := rfl

/-- A history whose clock never goes back and whose every step meets `guard`, which may
look at all the steps before it. -/
def Admitted (guard : List (Step Operation) → Step Operation → Prop) (origin : Nat) :
    List (Step Operation) → Prop
  | [] => True
  | step :: prior => Admitted guard origin prior ∧ lastTime origin prior ≤ step.now ∧
      guard prior step

variable {guard : List (Step Operation) → Step Operation → Prop} {origin : Nat}
  {history : List (Step Operation)}

/-- Every accumulator over a history is carried by this rule: what holds of the empty
history and is kept by one more admitted step holds throughout. -/
theorem Admitted.along (property : List (Step Operation) → Prop) (initial : property [])
    (extend : ∀ step prior, Admitted guard origin prior → property prior →
      lastTime origin prior ≤ step.now → guard prior step → property (step :: prior))
    (admitted : Admitted guard origin history) : property history := by
  induction history with
  | nil => exact initial
  | cons step prior ih =>
      obtain ⟨before, ordered, met⟩ := admitted
      exact extend step prior before (ih before) ordered met

/-- A weaker guard admits the history too. -/
theorem Admitted.mono {weaker : List (Step Operation) → Step Operation → Prop}
    (implies : ∀ prior step, guard prior step → weaker prior step)
    (admitted : Admitted guard origin history) : Admitted weaker origin history := by
  induction history with
  | nil => trivial
  | cons step prior ih =>
      obtain ⟨before, ordered, met⟩ := admitted
      exact ⟨ih before, ordered, implies prior step met⟩

/-- The earlier part of an admitted history is admitted. -/
theorem Admitted.earlier {later prior : List (Step Operation)}
    (admitted : Admitted guard origin (later ++ prior)) : Admitted guard origin prior := by
  induction later with
  | nil => exact admitted
  | cons step rest ih => exact ih admitted.1

/-- No step is later than the newest one. -/
theorem Admitted.now_le_lastTime (admitted : Admitted guard origin history) :
    ∀ step ∈ history, step.now ≤ lastTime origin history := by
  refine admitted.along (fun history => ∀ step ∈ history, step.now ≤ lastTime origin history)
    (by simp) ?_
  intro step prior _ before ordered _ earlier listed
  rcases List.mem_cons.mp listed with rfl | among
  · exact Nat.le_refl _
  · exact Nat.le_trans (before earlier among) ordered

/-- What the guard grants of each step alone holds of all of them. -/
theorem Admitted.forall_mem {property : Step Operation → Prop}
    (grants : ∀ prior step, guard prior step → property step)
    (admitted : Admitted guard origin history) : ∀ step ∈ history, property step := by
  refine admitted.along (fun history => ∀ step ∈ history, property step) (by simp) ?_
  intro step prior _ before _ met earlier listed
  rcases List.mem_cons.mp listed with rfl | among
  · exact grants prior _ met
  · exact before earlier among

variable {machine} in
/-- An invariant of the clock and the state that every admitted step keeps holds after
every admitted history. -/
theorem Admitted.invariant {start : State} (inv : Nat → State → Prop) (initial : inv origin start)
    (preserved : ∀ prior step, inv (lastTime origin prior) (machine.after start prior) →
      lastTime origin prior ≤ step.now → guard prior step →
      inv step.now (machine.run step.operation step.now (machine.after start prior)))
    (admitted : Admitted guard origin history) :
    inv (lastTime origin history) (machine.after start history) :=
  admitted.along (fun history => inv (lastTime origin history) (machine.after start history))
    initial fun step prior _ held ordered met => preserved prior step held ordered met

/-! ## Translations in time -/

/-- The same steps, each of them later. -/
def delayed (offset : Nat) (history : List (Step Operation)) : List (Step Operation) :=
  history.map fun step => { step with now := step.now + offset }

/-- A translation of the states that every single step respects is respected by every run. -/
theorem after_delayed {offset : Nat} {translate : State → State}
    (respects : ∀ operation now state, machine.run operation (now + offset) (translate state) =
      translate (machine.run operation now state))
    (start : State) (history : List (Step Operation)) :
    machine.after (translate start) (delayed offset history) =
      translate (machine.after start history) := by
  induction history with
  | nil => rfl
  | cons step prior ih =>
      change machine.run step.operation (step.now + offset)
        (machine.after (translate start) (delayed offset prior)) = _
      rw [ih, respects, after_cons]

end Machine
end BlueberryIrrigation.Semantics
