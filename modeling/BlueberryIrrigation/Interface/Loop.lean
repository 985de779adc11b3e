import BlueberryIrrigation.Interface.Serial

/-!
# The main loop (`main.cpp`)

One iteration of `loop()` makes its calls in the order of the source, each at its own reading of
the clock and after the sensor interrupts since the call before. `control_irrigation_update` and
`control_safety_update` are empty.
-/

namespace BlueberryIrrigation

open Semantics

/-- When a call is made, and the interrupts since the call before. -/
structure Moment where
  interrupts : List (Fin 5)
  now : Nat

/-- What the environment does in one iteration of `loop()`. -/
structure LoopInput where
  device : Moment
  sensorFlow : Moment
  sensorPressure : Moment
  controlFlow : Moment
  irrigation : Moment
  internet : Moment
  interface : Moment
  interfaceSerial : Moment
  readings : Fin 3 → UInt16
  chip : ChipAnswers
  answers : InterfaceAnswers
  serial : SerialInput

namespace System

/-- The memory after `setup()`. -/
def setup (now : Nat) (answers : ChipAnswers) : System where
  controller := boot
  network := Network.unset.internetInit now answers
  interface := { timeStartInfo := 0, isSendInfo := 0 }
  interfaceSerial := { timePrintLast := 0, isPrint := 0 }
  pinReset := 1

def withNetwork (n : Network) (s : System) : System := { s with network := n }

variable [FlowArithmetic]

/-- The interrupts before a call. -/
def interrupted (moment : Moment) (s : System) : System :=
  moment.interrupts.foldl (fun s sensor => s.operate moment.now (.sensorInterrupt sensor)) s

/-- A call of the controller. -/
def call (moment : Moment) (operation : Operation) (s : System) : System :=
  (s.interrupted moment).operate moment.now operation

/-- The calls of `loop()` before `internet_update`. -/
def control (input : LoopInput) (s : System) : System :=
  ((((s.call input.device .deviceUpdate).call input.sensorFlow .sensorFlowUpdate).call
    input.sensorPressure (.sensorPressureUpdate input.readings)).call
    input.controlFlow .controlFlowUpdate).call input.irrigation .irrigationUpdate

/-- `loop()` -/
def loop (input : LoopInput) (s : System) : Except OutOfBounds System := do
  let s := (s.control input).interrupted input.internet
  let n ← s.network.internetUpdate input.internet.now input.chip
  let s := (s.withNetwork n).interrupted input.interface
  let s ← s.interfaceProcessData input.interface.now input.answers
  (s.interrupted input.interfaceSerial).interfaceSerialUpdate input.interfaceSerial.now input.serial

/-- The memory after a run of `loop()`, whose newest iteration stands first. -/
def after (start : System) : List LoopInput → Except OutOfBounds System
  | [] => .ok start
  | input :: prior => do
      let s ← start.after prior
      s.loop input

/-- What one iteration keeps, a run keeps. -/
theorem after_allows {start : System} {property : System → Prop} (initial : property start)
    (step : ∀ s input, property s → Memory.Allows (s.loop input) property)
    (inputs : List LoopInput) : Memory.Allows (start.after inputs) property := by
  induction inputs with
  | nil => exact (Memory.allows_ok start).mpr initial
  | cons input prior ih =>
      rw [after, Memory.allows_bind]
      exact ih.mono fun s held => step s input held

/-! ## Frames -/

omit [FlowArithmetic] in
@[simp] theorem withNetwork_network (n : Network) (s : System) :
    (s.withNetwork n).network = n := rfl

@[simp] theorem operate_network (now : Nat) (operation : Operation) (s : System) :
    (s.operate now operation).network = s.network := rfl

@[simp] theorem interrupted_network (moment : Moment) (s : System) :
    (s.interrupted moment).network = s.network := by
  unfold interrupted
  induction moment.interrupts generalizing s with
  | nil => rfl
  | cons sensor rest ih => exact ih (s.operate moment.now (.sensorInterrupt sensor))

@[simp] theorem call_network (moment : Moment) (operation : Operation) (s : System) :
    (s.call moment operation).network = s.network := interrupted_network moment s

@[simp] theorem control_network (input : LoopInput) (s : System) :
    (s.control input).network = s.network := by
  simp [control]

end System
end BlueberryIrrigation
