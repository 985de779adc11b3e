import Mathlib.Data.Nat.Basic
import Mathlib.Tactic.Ring

/-!
# A wrapping millisecond counter

`reading now` is what a free-running 32-bit counter shows when `now` milliseconds
have really passed. Firmware subtracts two readings and compares the difference
with a wait. `wait_elapsed` is the direction that survives any number of wraps;
`wait_pending_iff` is the exact reading of the comparison as long as less than one
whole period lies between the two readings.
-/

namespace BlueberryIrrigation.Clock

/-- One full period of the counter. -/
def period : Nat := 2 ^ 32

/-- The counter's value after `now` milliseconds. -/
def reading (now : Nat) : UInt32 := UInt32.ofNat now

@[simp] theorem toNat_reading (now : Nat) : (reading now).toNat = now % period :=
  UInt32.toNat_ofNat'

theorem reading_add (first second : Nat) :
    reading (first + second) = reading first + reading second :=
  UInt32.ofNat_add first second

/-- The difference of two readings is the real distance, up to whole periods. -/
theorem reading_sub {earlier later : Nat} (ordered : earlier ≤ later) :
    reading later - reading earlier = reading (later - earlier) := by
  have split : reading later = reading (later - earlier) + reading earlier := by
    rw [← reading_add, Nat.sub_add_cancel ordered]
  rw [split, UInt32.add_sub_cancel]

theorem toNat_reading_sub {earlier later : Nat} (ordered : earlier ≤ later) :
    (reading later - reading earlier).toNat = (later - earlier) % period := by
  rw [reading_sub ordered, toNat_reading]

/-- A wait that the modular comparison calls over is really over. -/
theorem wait_elapsed {earlier later : Nat} {wait : UInt32} (ordered : earlier ≤ later)
    (expired : ¬ reading later - reading earlier < wait) : earlier + wait.toNat ≤ later := by
  rw [UInt32.lt_iff_toNat_lt, toNat_reading_sub ordered] at expired
  have bounded : (later - earlier) % period ≤ later - earlier := Nat.mod_le _ _
  omega

/-- Within one period the modular comparison is the real one. -/
theorem wait_pending_iff {earlier later : Nat} {wait : UInt32} (ordered : earlier ≤ later)
    (close : later - earlier < period) :
    reading later - reading earlier < wait ↔ later < earlier + wait.toNat := by
  rw [UInt32.lt_iff_toNat_lt, toNat_reading_sub ordered, Nat.mod_eq_of_lt close]
  omega

/-- A time shown by the counter grows with it until it reaches a whole period. -/
theorem toNat_sub_later {earlier later : Nat} {shown : UInt32} (ordered : earlier ≤ later)
    (fits : (reading earlier - shown).toNat + (later - earlier) < period) :
    (reading later - shown).toNat = (reading earlier - shown).toNat + (later - earlier) := by
  have passed : reading later - shown = (reading earlier - shown) + reading (later - earlier) := by
    rw [← reading_sub ordered]
    grind
  have short : (reading (later - earlier)).toNat = later - earlier := by
    rw [toNat_reading, Nat.mod_eq_of_lt (by omega)]
  rw [passed, UInt32.toNat_add, short]
  exact Nat.mod_eq_of_lt fits

end BlueberryIrrigation.Clock
