import Mathlib.Data.List.Basic

/-!
# Mailboxes

A mailbox keeps items for a party that comes for them: posting appends, collecting takes whatever
is there. Nothing is lost, doubled or moved past anything else, and how much a collection takes
is known from the posts since the collection before it.
-/

namespace BlueberryIrrigation.Semantics

universe u

inductive MailboxAction (Item : Type u) where
  | post (items : List Item)
  | collect
  | idle

namespace MailboxAction

variable {Item : Type u} {held : List Item} {action : MailboxAction Item}
  {actions : List (MailboxAction Item)}

/-- What the mailbox holds after the action. -/
def apply (held : List Item) : MailboxAction Item → List Item
  | post items => held ++ items
  | collect => []
  | idle => held

/-- The items that the action takes out. -/
def taken (held : List Item) : MailboxAction Item → Option (List Item)
  | collect => some held
  | _ => none

/-- The items that the action puts in. -/
def posted : MailboxAction Item → List Item
  | post items => items
  | _ => []

/-- What is left after these actions, the first one first. -/
def left (held : List Item) (actions : List (MailboxAction Item)) : List Item :=
  actions.foldl apply held

/-- What each collection takes. -/
def collected : List Item → List (MailboxAction Item) → List (List Item)
  | _, [] => []
  | held, action :: rest => (action.taken held).toList ++ collected (action.apply held) rest

@[simp] theorem left_nil : left held [] = held := rfl

@[simp] theorem left_cons : left held (action :: actions) = left (action.apply held) actions := rfl

@[simp] theorem collected_nil : collected held [] = [] := rfl

theorem collected_cons : collected held (action :: actions) =
    (action.taken held).toList ++ collected (action.apply held) actions := rfl

/-- An action takes from the front and puts in at the end. -/
theorem taken_append_apply :
    (action.taken held).toList.flatten ++ action.apply held = held ++ action.posted := by
  cases action <;> simp [taken, apply, posted]

/-- Everything posted is collected or left, in the order of the posts. -/
theorem collected_append_left :
    (collected held actions).flatten ++ left held actions = held ++ actions.flatMap posted := by
  induction actions generalizing held with
  | nil => simp
  | cons action rest ih =>
      rw [collected_cons, List.flatten_append, List.append_assoc, left_cons, ih,
        ← List.append_assoc, taken_append_apply, List.flatMap_cons, List.append_assoc]

/-- With so many items waiting, no collection finds more than the limit. -/
def WithinLimit (limit : Nat) : Nat → List (MailboxAction Item) → Prop
  | _, [] => True
  | waiting, post items :: rest => WithinLimit limit (waiting + items.length) rest
  | waiting, collect :: rest => waiting ≤ limit ∧ WithinLimit limit 0 rest
  | waiting, idle :: rest => WithinLimit limit waiting rest

instance decidableWithinLimit (limit : Nat) :
    (waiting : Nat) → (actions : List (MailboxAction Item)) →
      Decidable (WithinLimit limit waiting actions)
  | _, [] => .isTrue trivial
  | waiting, post items :: rest => decidableWithinLimit limit (waiting + items.length) rest
  | waiting, collect :: rest =>
      have := decidableWithinLimit limit 0 rest
      inferInstanceAs (Decidable (waiting ≤ limit ∧ WithinLimit limit 0 rest))
  | waiting, idle :: rest => decidableWithinLimit limit waiting rest

/-- The sizes of the collections depend on the sizes of the posts only. -/
theorem collected_within {limit : Nat} :
    (∀ items ∈ collected held actions, items.length ≤ limit) ↔
      WithinLimit limit held.length actions := by
  induction actions generalizing held with
  | nil => simp [WithinLimit]
  | cons action rest ih =>
      cases action with
      | post items => simp [collected_cons, taken, apply, WithinLimit, ih]
      | collect => simp [collected_cons, taken, apply, WithinLimit, ih]
      | idle => simp [collected_cons, taken, apply, WithinLimit, ih]

end MailboxAction
end BlueberryIrrigation.Semantics
