import Mathlib.Data.List.Basic

/-!
# Slots

A slot holds one item for a party that comes for it. Another item replaces the first one, so an
item is taken only if the party comes before anything else happens to the slot, and never twice.
-/

namespace BlueberryIrrigation.Semantics

universe u

inductive SlotAction (Item : Type u) where
  | put (item : Item)
  | clear
  | take

namespace SlotAction

variable {Item : Type u} {held : Option Item} {first second actions : List (SlotAction Item)}

/-- What the slot holds after the action. -/
def apply (_held : Option Item) : SlotAction Item → Option Item
  | put item => some item
  | clear | take => none

/-- What is left after these actions, the first one first. -/
def left (held : Option Item) (actions : List (SlotAction Item)) : Option Item :=
  actions.foldl apply held

/-- What each `take` finds. -/
def taken : Option Item → List (SlotAction Item) → List (Option Item)
  | _, [] => []
  | held, take :: rest => held :: taken none rest
  | _, put item :: rest => taken (some item) rest
  | _, clear :: rest => taken none rest

/-- The items that a `take` comes for before anything else happens. -/
def prompt : List (SlotAction Item) → List Item
  | [] => []
  | put item :: take :: rest => item :: prompt rest
  | _ :: rest => prompt rest

theorem taken_append :
    taken held (first ++ second) = taken held first ++ taken (left held first) second := by
  induction first generalizing held with
  | nil => rfl
  | cons action rest ih =>
      cases action with
      | put item => exact ih
      | clear => exact ih
      | take => exact congrArg (held :: ·) ih

/-- What is found are the items that a `take` comes for at once, in their order. -/
theorem taken_eq_prompt :
    (taken held actions).filterMap id = prompt (held.toList.map put ++ actions) := by
  induction actions generalizing held with
  | nil => cases held <;> rfl
  | cons action rest ih =>
      cases action with
      | put next =>
          cases held with
          | none => exact ih
          | some item => exact ih
      | clear =>
          cases held with
          | none => exact ih
          | some item => exact ih
      | take =>
          cases held with
          | none => exact ih
          | some item => exact congrArg (item :: ·) ih

end SlotAction
end BlueberryIrrigation.Semantics
