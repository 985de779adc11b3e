import BlueberryIrrigation.Semantics.Memory
import Mathlib.Data.Nat.ModEq

/-!
# Ring buffers

A ring is an array whose positions are counted on without end and taken modulo its length. What
lies between a reader and a writer is a window. Entries that are laid behind a window extend it,
as long as all of it fits, and the entries at its front leave it: so the window is a queue.
-/

namespace BlueberryIrrigation.Semantics

universe u

namespace Ring

variable {α : Type u} {capacity : Nat} [NeZero capacity]

/-- The entries from this position on. -/
def window (slots : Fin capacity → α) (start : Nat) : Nat → List α
  | 0 => []
  | count + 1 => slots (Fin.ofNat capacity start) :: window slots (start + 1) count

/-- The ring with these entries laid into it from this position on. -/
def lay (slots : Fin capacity → α) (start : Nat) : List α → Fin capacity → α
  | [] => slots
  | entry :: rest =>
      lay (Function.update slots (Fin.ofNat capacity start) entry) (start + 1) rest

variable {slots : Fin capacity → α} {start other count held : Nat} {entry : α} {entries : List α}

@[simp] theorem window_zero : window slots start 0 = [] := rfl

@[simp] theorem window_succ :
    window slots start (count + 1) =
      slots (Fin.ofNat capacity start) :: window slots (start + 1) count := rfl

@[simp] theorem lay_nil : lay slots start [] = slots := rfl

@[simp] theorem lay_cons : lay slots start (entry :: entries) =
    lay (Function.update slots (Fin.ofNat capacity start) entry) (start + 1) entries := rfl

@[simp] theorem length_window : (window slots start count).length = count := by
  induction count generalizing start with
  | zero => rfl
  | succ count ih => rw [window_succ, List.length_cons, ih]

/-- A window is that of its front and then that of the rest. -/
theorem window_add (first second : Nat) :
    window slots start (first + second) =
      window slots start first ++ window slots (start + first) second := by
  induction first generalizing start with
  | zero => rw [Nat.zero_add, window_zero, List.nil_append, Nat.add_zero]
  | succ first ih =>
      rw [Nat.succ_add_eq_add_succ, Nat.add_succ, window_succ, ih, window_succ, List.cons_append]
      congr 3
      omega

/-- Positions count modulo the length only. -/
theorem slot_congr (same : start % capacity = other % capacity) :
    Fin.ofNat capacity start = Fin.ofNat capacity other := Fin.ext same

theorem window_congr (same : start % capacity = other % capacity) :
    window slots start count = window slots other count := by
  induction count generalizing start other with
  | zero => rfl
  | succ count ih =>
      have next : (start + 1) % capacity = (other + 1) % capacity := Nat.ModEq.add_right 1 same
      rw [window_succ, window_succ, slot_congr same, ih next]

theorem lay_congr (same : start % capacity = other % capacity) :
    lay slots start entries = lay slots other entries := by
  induction entries generalizing slots start other with
  | nil => rfl
  | cons entry rest ih =>
      have next : (start + 1) % capacity = (other + 1) % capacity := Nat.ModEq.add_right 1 same
      rw [lay_cons, lay_cons, slot_congr same, ih next]

/-- Two positions less than a round apart are different slots. -/
theorem slot_ne (later : start < other) (close : other < start + capacity) :
    Fin.ofNat capacity start ≠ Fin.ofNat capacity other := by
  intro same
  have remainders : start % capacity = other % capacity := congrArg Fin.val same
  have divides : capacity ∣ other - start := (Nat.modEq_iff_dvd' (Nat.le_of_lt later)).mp remainders
  have round : capacity ≤ other - start := Nat.le_of_dvd (by omega) divides
  omega

/-- An entry behind a window that leaves room for it is not seen in the window. -/
theorem window_update (later : start + count ≤ other) (close : other < start + capacity) :
    window (Function.update slots (Fin.ofNat capacity other) entry) start count =
      window slots start count := by
  induction count generalizing start with
  | zero => rfl
  | succ count ih =>
      rw [window_succ, window_succ, Function.update_of_ne (slot_ne (by omega) close),
        ih (by omega) (by omega)]

/-- Entries that are laid behind a window extend it. -/
theorem window_lay (room : held + entries.length ≤ capacity) :
    window (lay slots (start + held) entries) start (held + entries.length) =
      window slots start held ++ entries := by
  induction entries generalizing slots held with
  | nil => simp
  | cons entry rest ih =>
      rw [List.length_cons] at room ⊢
      have extended : window (Function.update slots (Fin.ofNat capacity (start + held)) entry)
          start (held + 1) = window slots start held ++ [entry] := by
        rw [window_add, window_update (Nat.le_refl _) (by omega), window_succ,
          Function.update_self, window_zero]
      have whole : held + (rest.length + 1) = held + 1 + rest.length := by omega
      rw [lay_cons, whole, Nat.add_assoc start, ih (by omega), extended, List.append_assoc]
      rfl

/-- What is behind the front of a window. -/
theorem window_drop (inside : count ≤ held) :
    window slots (start + count) (held - count) = (window slots start held).drop count := by
  have parts : held = count + (held - count) := by omega
  have whole : window slots start (count + (held - count)) = _ := window_add count _
  rw [← parts] at whole
  rw [whole, List.drop_left' length_window]

/-- The front of a window. -/
theorem window_take (inside : count ≤ held) :
    window slots start count = (window slots start held).take count := by
  have parts : held = count + (held - count) := by omega
  have whole : window slots start (count + (held - count)) = _ := window_add count _
  rw [← parts] at whole
  rw [whole, List.take_left' length_window]

/-- Consecutive loads that stay inside read a window. -/
theorem loadAll_inside (inside : start + count ≤ capacity) :
    Memory.loadAll slots start count = .ok (window slots start count) := by
  induction count generalizing start with
  | zero => rfl
  | succ count ih =>
      have first : start < capacity := by omega
      have slot : Fin.ofNat capacity start = ⟨start, first⟩ :=
        Fin.ext (Nat.mod_eq_of_lt first)
      rw [Memory.loadAll, Memory.load_inside slots first, ih (by omega), window_succ, slot]
      rfl

end Ring
end BlueberryIrrigation.Semantics
