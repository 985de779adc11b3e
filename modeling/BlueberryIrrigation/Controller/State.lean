import Mathlib.Logic.Function.Basic
import BlueberryIrrigation.Semantics.Clock

/-!
# The controller's memory

The global variables of `device.cpp`, `sensor_flow.cpp`, `sensor_pressure.cpp`,
`control_flow.cpp` and `control_irrigation_temp.cpp`. Arrays are functions from their
exact index type (15 devices, 1 extension, 5 flow sensors, 3 pressure sensors, 6 control
flows), so an index inside the controller cannot leave its array. Pointers into an array
are indices of it. `trace` is the one field the source does not have:
every `digitalWrite`, every `device_toggle` and every stage that is begun, newest first
and stamped with the real time at which it happened.
-/

namespace BlueberryIrrigation

/-- The arrays are not empty, so that literals are indices of them. -/
instance deviceArray_neZero : NeZero (15 : Nat) := ⟨by decide⟩

instance deviceExtensionArray_neZero : NeZero (1 : Nat) := ⟨by decide⟩

instance sensorFlowArray_neZero : NeZero (5 : Nat) := ⟨by decide⟩

instance sensorPressureArray_neZero : NeZero (3 : Nat) := ⟨by decide⟩

instance controlFlowArray_neZero : NeZero (6 : Nat) := ⟨by decide⟩

/-- `bool_t`, a `uint8_t`: `FALSE` is 0, `TRUE` is `!FALSE`, and any other byte is true. -/
abbrev Flag := UInt8

/-- `millis()` when `now` milliseconds have really passed since power-up. -/
abbrev millis (now : Nat) : UInt32 := Clock.reading now

/-- `Control_irrigation_temp_program`. The dispatcher casts any byte to the enumeration,
so the value may lie `excess` past the last enumerator. -/
inductive Program where
  | group1
  | group2
  | both
  | cleaning
  | garden
  | unknown (excess : Nat)
deriving DecidableEq, Repr

/-- The cast `(Control_irrigation_temp_program)number`. -/
def Program.ofNumber : Nat → Program
  | 0 => .group1
  | 1 => .group2
  | 2 => .both
  | 3 => .cleaning
  | 4 => .garden
  | excess + 5 => .unknown excess

/-- A program that has an enumerator (numbers 0 to 4). -/
def Program.Known : Program → Prop
  | .unknown _ => False
  | _ => True

instance : DecidablePred Program.Known := fun program => by
  cases program <;> simp only [Program.Known] <;> infer_instance

/-- `Control_irrigation_temp_status` -/
inductive Status where
  | finished
  | preparing
  | ready
  | finishing
deriving DecidableEq, Repr

/-- `Control_flow_faulty_detection_status` -/
inductive FaultyDetectionStatus where
  | notDetected
  | stoppedByUser
  | detectedFlowLess
  | detectedFlowMore
  | detectedPressureZero
deriving DecidableEq, Repr

/-- The enumerator's number, which is what an assignment to a `bool_t` keeps. -/
def FaultyDetectionStatus.number : FaultyDetectionStatus → UInt8
  | .notDetected => 0
  | .stoppedByUser => 1
  | .detectedFlowLess => 2
  | .detectedFlowMore => 3
  | .detectedPressureZero => 4

/-- Only the first enumerator is number 0. -/
@[simp] theorem FaultyDetectionStatus.number_eq_zero (status : FaultyDetectionStatus) :
    status.number = 0 ↔ status = .notDetected := by
  cases status <;> decide

structure DeviceExtension where
  pin : UInt8
  isHold : Flag
  timeSwitchHoldMinimum : UInt8
  timeSwitchHoldLast : UInt32

structure Device where
  pin : UInt8
  isActive : Flag
  timeSwitchMinimum : UInt8
  timeSwitchLast : UInt32
  deviceExtension : Option (Fin 1)

structure SensorFlow where
  pulsesPerLiter : UInt16
  pulsesInterrupt : UInt16
  pulsesTotal : UInt32

/-- `Control_flow` without its two pointers, which `control_flow_init` sets once:
`controlFlowDevice` and `controlFlowSensor` are their values. -/
structure ControlFlow where
  isActive : Flag
  isPause : Flag
  timeToDeliver : UInt16
  timeStart : UInt32
  timePause : UInt32
  pulsesToDeliver : UInt32
  pulsesLast : UInt32

/-- The `control_irrigation_temp_*` variables. -/
structure Irrigation where
  program : Program
  programCurrent : Program
  status : Status
  isCleaning : Flag
  isStopped : Flag
  deliverVolume : UInt16
  deliverTime : UInt16
  timeGeneratorWait : UInt32
  timeProgramDuration : UInt32
  timeCleaningGroup3Duration : UInt32
  timeCleaningGroup12Duration : UInt32
  timeProgramStart : UInt32
  timeProgramStop : UInt32
  timeGeneratorStart : UInt32
  isFaultyDetectionActive : Flag
  timeCleaningDuration : UInt32

/-- What the environment can observe, and the two calls later statements speak of. -/
inductive Event where
  /-- `digitalWrite(pin, level)` on a relay pin. -/
  | digitalWrite (pin level : UInt8)
  /-- A completed `device_toggle(&device_array[device], is_active)`. -/
  | deviceToggle (device : Fin 15) (isActive : Flag)
  /-- `control_irrigation_temp_start` has begun this program's stage. -/
  | stage (program : Program)
deriving DecidableEq

structure Controller where
  deviceArray : Fin 15 → Device
  deviceExtensionArray : Fin 1 → DeviceExtension
  deviceExtendedArray : Fin 1 → Fin 15
  sensorFlowArray : Fin 5 → SensorFlow
  sensorFlowTimeUpdateLast : UInt32
  sensorPressureArray : Fin 3 → UInt8
  sensorPressureTimeUpdateLast : UInt32
  controlFlowArray : Fin 6 → ControlFlow
  faultyDetectionStatus : FaultyDetectionStatus
  faultyDetectionTimeLast : UInt32
  irrigation : Irrigation
  trace : List (Nat × Event)

namespace Controller

/-- Append one observable event at real time `now`. -/
def record (now : Nat) (event : Event) (s : Controller) : Controller :=
  { s with trace := (now, event) :: s.trace }

/-- Whether a relay is meant to be on, as `if(device->is_active)` reads it. -/
def IsOn (s : Controller) (device : Fin 15) : Prop :=
  (s.deviceArray device).isActive ≠ 0

instance (s : Controller) (device : Fin 15) : Decidable (s.IsOn device) :=
  inferInstanceAs (Decidable (_ ≠ _))

/-- Whether a control flow is active, paused or not. -/
def FlowActive (s : Controller) (flow : Fin 6) : Prop :=
  (s.controlFlowArray flow).isActive ≠ 0

instance (s : Controller) (flow : Fin 6) : Decidable (s.FlowActive flow) :=
  inferInstanceAs (Decidable (_ ≠ _))

end Controller

/-- The real time of the most recent `device_toggle` of `device` towards on or off. -/
def lastToggle (device : Fin 15) (on : Bool) : List (Nat × Event) → Option Nat
  | [] => none
  | (time, .deviceToggle toggled isActive) :: rest =>
      if toggled = device ∧ (isActive ≠ 0 ↔ on = true) then some time
      else lastToggle device on rest
  | _ :: rest => lastToggle device on rest

/-- How many stages `control_irrigation_temp_start` has begun. -/
def stagesBegun : List (Nat × Event) → Nat
  | [] => 0
  | (_, .stage _) :: rest => stagesBegun rest + 1
  | _ :: rest => stagesBegun rest

end BlueberryIrrigation
