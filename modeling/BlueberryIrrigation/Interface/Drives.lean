import BlueberryIrrigation.Interface.Loop

/-!
# The loop drives the timed machine

Whatever arrives from the network and the serial line, `loop()` changes the controller only by
operations of the timed machine, at the times of its calls. What holds after every history of
that machine therefore holds in every run of the loop.
-/

namespace BlueberryIrrigation

open Semantics

section

variable [FlowArithmetic]

/-- From `start` at `origin`, operations whose clock never goes back have led here by `later`. -/
inductive Drives (origin : Nat) (start : Controller) : Nat → Controller → Prop where
  | start : Drives origin start origin start
  | wait {earlier later : Nat} {s : Controller} (driven : Drives origin start earlier s)
      (ordered : earlier ≤ later) : Drives origin start later s
  | run {earlier now : Nat} {s : Controller} (operation : Operation)
      (driven : Drives origin start earlier s) (ordered : earlier ≤ now) :
      Drives origin start now (operation.run now s)

/-- The operations as a history. -/
theorem Drives.history {origin later : Nat} {start s : Controller}
    (driven : Drives origin start later s) :
    ∃ history, Machine.Admitted (fun _ _ => True) origin history ∧
      Machine.lastTime origin history ≤ later ∧ s = controller.after start history := by
  induction driven with
  | start => exact ⟨[], trivial, Nat.le_refl origin, rfl⟩
  | wait driven ordered ih =>
      obtain ⟨history, admitted, last, reached⟩ := ih
      exact ⟨history, admitted, last.trans ordered, reached⟩
  | @run earlier now s operation driven ordered ih =>
      obtain ⟨history, admitted, last, reached⟩ := ih
      refine ⟨⟨now, operation⟩ :: history, ⟨admitted, last.trans ordered, trivial⟩,
        Nat.le_refl now, ?_⟩
      rw [Machine.after_cons, ← reached]
      rfl

end

/-- The moments of one iteration follow each other, from `origin` on. -/
structure LoopInput.Ordered (origin : Nat) (input : LoopInput) : Prop where
  device : origin ≤ input.device.now
  sensorFlow : input.device.now ≤ input.sensorFlow.now
  sensorPressure : input.sensorFlow.now ≤ input.sensorPressure.now
  controlFlow : input.sensorPressure.now ≤ input.controlFlow.now
  irrigation : input.controlFlow.now ≤ input.irrigation.now
  internet : input.irrigation.now ≤ input.internet.now
  interface : input.internet.now ≤ input.interface.now
  interfaceSerial : input.interface.now ≤ input.interfaceSerial.now

/-- The clock at the end of a run. -/
def clock (origin : Nat) : List LoopInput → Nat
  | [] => origin
  | input :: _ => input.interfaceSerial.now

/-- A run whose clock never goes back. -/
def OrderedRun (origin : Nat) : List LoopInput → Prop
  | [] => True
  | input :: prior => OrderedRun origin prior ∧ input.Ordered (clock origin prior)

namespace System

variable [FlowArithmetic] {origin earlier now : Nat} {start : Controller} {s : System}

/-- Operations of the timed machine have led from `start` to this controller. -/
abbrev Driven (origin : Nat) (start : Controller) (later : Nat) (s : System) : Prop :=
  Drives origin start later s.controller

theorem driven_operate (operation : Operation) (driven : s.Driven origin start earlier)
    (ordered : earlier ≤ now) : (s.operate now operation).Driven origin start now :=
  .run operation driven ordered

theorem driven_withNetwork (n : Network) (driven : s.Driven origin start earlier) :
    (s.withNetwork n).Driven origin start earlier := driven

theorem driven_interrupted {moment : Moment} (driven : s.Driven origin start earlier)
    (ordered : earlier ≤ moment.now) :
    (s.interrupted moment).Driven origin start moment.now := by
  unfold interrupted
  induction moment.interrupts generalizing s earlier with
  | nil => exact .wait driven ordered
  | cons sensor rest ih =>
      exact ih (driven_operate (.sensorInterrupt sensor) driven ordered) (Nat.le_refl moment.now)

theorem driven_call {moment : Moment} (operation : Operation)
    (driven : s.Driven origin start earlier) (ordered : earlier ≤ moment.now) :
    (s.call moment operation).Driven origin start moment.now :=
  driven_operate operation (driven_interrupted driven ordered) (Nat.le_refl moment.now)

theorem driven_control {input : LoopInput} (driven : s.Driven origin start earlier)
    (ordered : input.Ordered earlier) :
    (s.control input).Driven origin start input.irrigation.now := by
  have device := driven_call .deviceUpdate driven ordered.device
  have sensorFlow := driven_call .sensorFlowUpdate device ordered.sensorFlow
  have sensorPressure := driven_call (.sensorPressureUpdate input.readings) sensorFlow
    ordered.sensorPressure
  have controlFlow := driven_call .controlFlowUpdate sensorPressure ordered.controlFlow
  exact driven_call .irrigationUpdate controlFlow ordered.irrigation

omit [FlowArithmetic] in
theorem sendInfoAll_controller (answers : InterfaceAnswers) (s : System) :
    Memory.Allows (s.sendInfoAll answers) fun after => after.controller = s.controller := by
  unfold sendInfoAll
  simp only [Memory.allows_bind, Memory.allows_pure]
  exact fun _ _ _ _ _ _ _ _ => trivial

omit [FlowArithmetic] in
theorem answerPing_controller (answers : InterfaceAnswers) (s : System) :
    Memory.Allows (s.answerPing answers) fun after => after.controller = s.controller := by
  unfold answerPing
  rw [Memory.allows_ite, Memory.allows_bind]
  exact ⟨fun _ n _ => (Memory.allows_pure _).mpr rfl, fun _ => (Memory.allows_ok _).mpr rfl⟩

/-- A command is at most one operation. -/
theorem driven_perform (answers : InterfaceAnswers) (command : Command)
    (driven : s.Driven origin start earlier) (ordered : earlier ≤ now) :
    Memory.Allows (s.perform now answers command) (Driven origin start now) := by
  cases command with
  | controlSafetyReset | isSendInfo => exact (Memory.allows_ok _).mpr (.wait driven ordered)
  | deviceToggle | deviceTimeSwitchMinimum | sensorFlowPulsesPerLiter =>
      exact Memory.allows_entry fun _ => driven_operate _ driven ordered
  | infoAll =>
      refine (sendInfoAll_controller answers s).mono fun after same => ?_
      rw [Driven, same]
      exact .wait driven ordered
  | ping =>
      refine (answerPing_controller answers s).mono fun after same => ?_
      rw [Driven, same]
      exact .wait driven ordered
  | _ => exact (Memory.allows_ok _).mpr (driven_operate _ driven ordered)

/-- What follows the switch leaves the controller alone. -/
theorem allows_processPacket {answers : InterfaceAnswers} (property : Controller → Prop)
    (switched : Memory.Allows (s.interfaceSwitch now answers) fun left =>
      property left.1.controller) :
    Memory.Allows (s.processPacket now answers) fun after => property after.controller := by
  unfold processPacket
  rw [Memory.allows_bind]
  refine switched.mono fun left reached => ?_
  obtain ⟨processed, exit⟩ := left
  cases exit with
  | broke => exact (Memory.allows_pure _).mpr reached
  | returned => exact (Memory.allows_pure _).mpr reached

theorem driven_processPacket (answers : InterfaceAnswers) (driven : s.Driven origin start earlier)
    (ordered : earlier ≤ now) :
    Memory.Allows (s.processPacket now answers) (Driven origin start now) := by
  have switched : Memory.Allows (s.interfaceSwitch now answers) fun left =>
      left.1.Driven origin start now := by
    unfold interfaceSwitch
    split
    · exact (Memory.allows_ok _).mpr (.wait driven ordered)
    · rw [Memory.allows_ite, Memory.allows_bind]
      refine ⟨fun _ => (Memory.allows_ok _).mpr (.wait driven ordered), fun _ => ?_⟩
      exact (driven_perform answers _ driven ordered).mono fun performed reached =>
        (Memory.allows_pure _).mpr reached
  exact allows_processPacket _ switched

theorem driven_interfaceProcessData (answers : InterfaceAnswers)
    (driven : s.Driven origin start earlier) (ordered : earlier ≤ now) :
    Memory.Allows (s.interfaceProcessData now answers) (Driven origin start now) := by
  have kept : Memory.Allows (.ok s) (Driven origin start now) :=
    (Memory.allows_ok s).mpr (.wait driven ordered)
  unfold interfaceProcessData
  rw [Memory.allows_ite, Memory.allows_ite, Memory.allows_ite, Memory.allows_bind]
  refine ⟨fun _ => driven_processPacket answers driven ordered, fun _ => ⟨fun _ => kept, fun _ =>
    ⟨fun _ => kept, fun _ filled _ => driven_processPacket answers driven ordered⟩⟩⟩

/-- A command line is at most one operation too. -/
theorem driven_performSerial (answers : ChipAnswers) (command : SerialCommand)
    (driven : s.Driven origin start earlier) (ordered : earlier ≤ now) :
    Memory.Allows (s.performSerial now answers command) (Driven origin start now) := by
  cases command with
  | deviceToggle | pulsesTotalSet | pulsesPerLiterSet | pulsesTotalAdd | flowStart | flowStop
  | flowPause => exact Memory.allows_entry fun _ => driven_operate _ driven ordered
  | start | forceStop | resume => exact (Memory.allows_ok _).mpr (driven_operate _ driven ordered)
  | ping | send =>
      exact Memory.allows_bind.mpr fun n _ => (Memory.allows_pure _).mpr (.wait driven ordered)
  | _ => exact (Memory.allows_ok _).mpr (.wait driven ordered)

theorem driven_interfaceSerialUpdate (input : SerialInput) (driven : s.Driven origin start earlier)
    (ordered : earlier ≤ now) :
    Memory.Allows (s.interfaceSerialUpdate now input) (Driven origin start now) := by
  refine interfaceSerialUpdate_allows (.wait driven ordered)
    (fun command => driven_performSerial input.answers command driven ordered)
    fun after reached => ?_
  rw [Driven, flowPrint_controller]
  exact reached

/-- One iteration of `loop()` is a history of operations. -/
theorem driven_loop {input : LoopInput} (driven : s.Driven origin start earlier)
    (ordered : input.Ordered earlier) :
    Memory.Allows (s.loop input) (Driven origin start input.interfaceSerial.now) := by
  have controlled := driven_control driven ordered
  have internet := driven_interrupted controlled ordered.internet
  unfold loop
  simp only [Memory.allows_bind]
  intro n _
  have interface := driven_interrupted (driven_withNetwork n internet) ordered.interface
  refine (driven_interfaceProcessData input.answers interface (Nat.le_refl _)).mono
    fun processed reached => ?_
  exact driven_interfaceSerialUpdate input.serial
    (driven_interrupted reached ordered.interfaceSerial) (Nat.le_refl _)

/-- A run of `loop()` is a history of the timed machine from the state after `setup()`. -/
theorem driven_after (start : System) (origin : Nat) {inputs : List LoopInput}
    (ordered : OrderedRun origin inputs) :
    Memory.Allows (start.after inputs)
      (Driven origin start.controller (clock origin inputs)) := by
  induction inputs with
  | nil => exact (Memory.allows_ok start).mpr .start
  | cons input prior ih =>
      obtain ⟨before, moments⟩ := ordered
      rw [after, Memory.allows_bind]
      exact (ih before).mono fun s driven => driven_loop driven moments

/-- What is proved of every history of the timed machine holds in every run of `loop()`. -/
theorem run_history (now : Nat) (answers : ChipAnswers) {inputs : List LoopInput}
    (ordered : OrderedRun setupTime inputs) :
    Memory.Allows ((System.setup now answers).after inputs) fun s => ∃ history,
      Machine.Admitted (fun _ _ => True) setupTime history ∧
        s.controller = BlueberryIrrigation.controller.after boot history := by
  refine (driven_after (System.setup now answers) setupTime ordered).mono fun s driven => ?_
  obtain ⟨history, admitted, -, reached⟩ := driven.history
  exact ⟨history, admitted, reached⟩

end System
end BlueberryIrrigation
