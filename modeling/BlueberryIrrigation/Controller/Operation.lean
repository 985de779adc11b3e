import BlueberryIrrigation.Semantics.History
import BlueberryIrrigation.Controller.IrrigationEffects

/-!
# The controller as a timed machine

Everything that can happen to the controller's memory once `setup()` has run: the
functions `loop()` calls, the commands of the network and serial interfaces, and the
sensor interrupts. Run theorems choose their operations with a guard.
-/

namespace BlueberryIrrigation

open Semantics

/-- The variables the network interface assigns directly. -/
inductive Setting where
  | deliverVolume (volume : UInt16)
  | deliverTime (time : UInt16)
  | generatorWait (time : UInt32)
  | programDuration (time : UInt32)
  | cleaningGroup3Duration (time : UInt32)
  | cleaningGroup12Duration (time : UInt32)
  | timeSwitchMinimum (device : Fin 15) (time : UInt8)
  | pulsesPerLiter (sensor : Fin 5) (pulses : UInt16)

inductive Operation where
  | start (program : Program) (isCleaning : Flag)
  | forceStop
  | resume
  | faultyDetectionToggle (isActive : Flag)
  | assign (setting : Setting)
  | flowStart (flow : Fin 6) (volume time : UInt16)
  | flowStop (flow : Fin 6)
  | flowPause (flow : Fin 6) (isPause : Flag)
  | deviceToggle (device : Fin 15) (isActive : Flag)
  | pulsesTotalSet (sensor : Fin 5) (pulses : UInt32)
  | deviceUpdate
  | sensorFlowUpdate
  | sensorPressureUpdate (readings : Fin 3 → UInt16)
  | controlFlowUpdate
  | irrigationUpdate
  | sensorInterrupt (sensor : Fin 5)

/-- The periodic calls of `loop()` and the interrupts: what runs without any command. -/
def Operation.Periodic : Operation → Prop
  | .deviceUpdate | .sensorFlowUpdate | .sensorPressureUpdate _ | .controlFlowUpdate
  | .irrigationUpdate | .sensorInterrupt _ => True
  | _ => False

namespace Controller

/-- A direct assignment of the network interface. -/
def assign (setting : Setting) (s : Controller) : Controller :=
  match setting with
  | .deliverVolume volume => { s with irrigation.deliverVolume := volume }
  | .deliverTime time => { s with irrigation.deliverTime := time }
  | .generatorWait time => { s with irrigation.timeGeneratorWait := time }
  | .programDuration time => { s with irrigation.timeProgramDuration := time }
  | .cleaningGroup3Duration time => { s with irrigation.timeCleaningGroup3Duration := time }
  | .cleaningGroup12Duration time => { s with irrigation.timeCleaningGroup12Duration := time }
  | .timeSwitchMinimum device time =>
      { s with
        deviceArray := Function.update s.deviceArray device
          { s.deviceArray device with timeSwitchMinimum := time } }
  | .pulsesPerLiter sensor pulses => s.sensorFlowPulsesPerLiterSet sensor pulses

/-- No setting switches a relay. -/
@[simp] theorem assign_isOn (setting : Setting) (device : Fin 15) (s : Controller) :
    (s.assign setting).IsOn device ↔ s.IsOn device := by
  cases setting with
  | timeSwitchMinimum changed time =>
      by_cases same : device = changed
      · subst same
        simp [IsOn, assign]
      · simp [IsOn, assign, same]
  | _ => exact Iff.rfl

/-- No setting starts a flow. -/
@[simp] theorem assign_flowActive (setting : Setting) (flow : Fin 6) (s : Controller) :
    (s.assign setting).FlowActive flow ↔ s.FlowActive flow := by
  cases setting <;> exact Iff.rfl

end Controller

section

variable [FlowArithmetic]

/-- The effect of one operation at real time `now`. -/
def Operation.run : Operation → Nat → Controller → Controller
  | .start program isCleaning, now, s => s.controlIrrigationTempStart now program isCleaning
  | .forceStop, now, s => s.controlIrrigationTempForceStop now
  | .resume, now, s => s.controlIrrigationTempResume now
  | .faultyDetectionToggle isActive, now, s =>
      s.controlIrrigationTempFaultyDetectionToggle now isActive
  | .assign setting, _, s => s.assign setting
  | .flowStart flow volume time, now, s => s.controlFlowStart now flow volume time
  | .flowStop flow, now, s => s.controlFlowStop now flow
  | .flowPause flow isPause, now, s => s.controlFlowPause now flow isPause
  | .deviceToggle device isActive, now, s => s.deviceToggle now device isActive
  | .pulsesTotalSet sensor pulses, _, s => s.sensorFlowPulsesTotalSet sensor pulses
  | .deviceUpdate, now, s => s.deviceUpdate now
  | .sensorFlowUpdate, now, s => s.sensorFlowUpdate now
  | .sensorPressureUpdate readings, now, s => s.sensorPressureUpdate now readings
  | .controlFlowUpdate, now, s => s.controlFlowUpdate now
  | .irrigationUpdate, now, s => s.controlIrrigationTempUpdate now
  | .sensorInterrupt sensor, _, s => s.sensorFlowInterrupt sensor

/-- The controller as a timed machine. -/
def controller : Machine Controller Operation where
  run := Operation.run

end

/-! ## Operations beside the machine -/

/-- The operations that run the irrigation machine; every other one leaves it as it is. -/
def Operation.DrivesMachine : Operation → Prop
  | .start _ _ | .forceStop | .resume | .irrigationUpdate => True
  | _ => False

/-- The irrigation variables agree, except for the settings. -/
structure MachineKept (before after : Irrigation) : Prop where
  program : after.program = before.program
  programCurrent : after.programCurrent = before.programCurrent
  status : after.status = before.status
  isCleaning : after.isCleaning = before.isCleaning
  isStopped : after.isStopped = before.isStopped
  timeProgramStart : after.timeProgramStart = before.timeProgramStart
  timeProgramStop : after.timeProgramStop = before.timeProgramStop
  timeGeneratorStart : after.timeGeneratorStart = before.timeGeneratorStart
  timeCleaningDuration : after.timeCleaningDuration = before.timeCleaningDuration

theorem MachineKept.of_eq {before after : Irrigation} (same : after = before) :
    MachineKept before after := by
  subst same
  exact ⟨rfl, rfl, rfl, rfl, rfl, rfl, rfl, rfl, rfl⟩

theorem machineKept [FlowArithmetic] {operation : Operation} (beside : ¬ operation.DrivesMachine)
    (now : Nat) (s : Controller) :
    MachineKept s.irrigation (operation.run now s).irrigation := by
  cases operation with
  | start | forceStop | resume | irrigationUpdate => exact absurd trivial beside
  | faultyDetectionToggle => exact ⟨rfl, rfl, rfl, rfl, rfl, rfl, rfl, rfl, rfl⟩
  | assign setting => cases setting <;> exact ⟨rfl, rfl, rfl, rfl, rfl, rfl, rfl, rfl, rfl⟩
  | flowStart | deviceToggle | pulsesTotalSet | sensorInterrupt => exact .of_eq rfl
  | flowStop flow => exact .of_eq (Controller.controlFlowStop_irrigation now flow s)
  | flowPause flow isPause =>
      exact .of_eq (Controller.controlFlowPause_irrigation now flow s isPause)
  | deviceUpdate => exact .of_eq (Controller.deviceUpdate_fields now s).2.2.1
  | sensorFlowUpdate => exact .of_eq (Controller.SensorsOnly.sensorFlowUpdate now s).irrigation
  | sensorPressureUpdate readings =>
      exact .of_eq (Controller.SensorsOnly.sensorPressureUpdate now readings s).irrigation
  | controlFlowUpdate => exact .of_eq (Controller.controlFlowUpdate_irrigation now s)

/-- The machine enters `READY` by the update that ends the preparation, and in no other way. -/
theorem run_enters_ready [FlowArithmetic] {operation : Operation} {now : Nat} {s : Controller}
    (elsewhere : s.irrigation.status ≠ .ready)
    (ready : (operation.run now s).irrigation.status = .ready) :
    operation = .irrigationUpdate ∧ s.irrigation.status = .preparing ∧
      ¬ s.GeneratorWaiting now := by
  by_cases drives : operation.DrivesMachine
  · cases operation with
    | start program isCleaning =>
        change (s.controlIrrigationTempStart now program isCleaning).irrigation.status = .ready
          at ready
        rw [Controller.start_of_not_ready now s program isCleaning elsewhere] at ready
        simp at ready
    | forceStop =>
        change (s.controlIrrigationTempForceStop now).irrigation.status = .ready at ready
        simp at ready
    | resume =>
        change (s.controlIrrigationTempResume now).irrigation.status = .ready at ready
        by_cases running : s.irrigation.isStopped = 0
        · rw [Controller.resume_of_not_stopped now s running] at ready
          exact absurd ready elsewhere
        · rw [Controller.resume_of_not_ready now s running elsewhere] at ready
          simp at ready
    | irrigationUpdate =>
        change (s.controlIrrigationTempUpdate now).irrigation.status = .ready at ready
        have step := s.updateStep now
        generalize s.controlIrrigationTempUpdate now = t at step ready
        cases step with
        | idle | warming | cooling => exact absurd ready elsewhere
        | begins preparing expired => exact ⟨rfl, preparing, expired⟩
        | runs status => exact absurd status elsewhere
        | stops => simp at ready
        | shuts => simp at ready
    | _ => exact drives.elim
  · exact absurd ((machineKept drives now s).status.symm.trans ready) elsewhere

/-- Outside `READY` only the end of a program leads to `FINISHING`. -/
theorem run_enters_finishing [FlowArithmetic] {operation : Operation} {now : Nat} {s : Controller}
    (elsewhere : s.irrigation.status ≠ .finishing)
    (finishing : (operation.run now s).irrigation.status = .finishing) :
    s.irrigation.status = .ready := by
  by_cases drives : operation.DrivesMachine
  · cases operation with
    | start program isCleaning =>
        change (s.controlIrrigationTempStart now program isCleaning).irrigation.status = .finishing
          at finishing
        by_cases ready : s.irrigation.status = .ready
        · exact ready
        · rw [Controller.start_of_not_ready now s program isCleaning ready] at finishing
          simp at finishing
    | forceStop =>
        change (s.controlIrrigationTempForceStop now).irrigation.status = .finishing at finishing
        simp at finishing
    | resume =>
        change (s.controlIrrigationTempResume now).irrigation.status = .finishing at finishing
        by_cases running : s.irrigation.isStopped = 0
        · rw [Controller.resume_of_not_stopped now s running] at finishing
          exact absurd finishing elsewhere
        · by_cases ready : s.irrigation.status = .ready
          · exact ready
          · rw [Controller.resume_of_not_ready now s running ready] at finishing
            simp at finishing
    | irrigationUpdate =>
        change (s.controlIrrigationTempUpdate now).irrigation.status = .finishing at finishing
        have step := s.updateStep now
        generalize s.controlIrrigationTempUpdate now = t at step finishing
        cases step with
        | idle | warming => exact absurd finishing elsewhere
        | begins => simp at finishing
        | runs status => exact status
        | stops => simp at finishing
        | cooling status => exact absurd status elsewhere
        | shuts => simp at finishing
    | _ => exact drives.elim
  · exact absurd ((machineKept drives now s).status.symm.trans finishing) elsewhere

/-- Beside the machine no stage is begun. -/
theorem stagesBegun_kept [FlowArithmetic] {operation : Operation}
    (beside : ¬ operation.DrivesMachine) (now : Nat) (s : Controller) :
    stagesBegun (operation.run now s).trace = stagesBegun s.trace := by
  cases operation with
  | start | forceStop | resume | irrigationUpdate => exact absurd trivial beside
  | assign setting => cases setting <;> rfl
  | faultyDetectionToggle | flowStart | pulsesTotalSet | sensorInterrupt => rfl
  | deviceToggle device isActive => exact s.deviceToggle_stagesBegun now device isActive
  | flowStop flow => exact s.controlFlowStop_stagesBegun now flow
  | flowPause flow isPause => exact s.controlFlowPause_stagesBegun now flow isPause
  | deviceUpdate => exact (Controller.deviceUpdate_fields now s).2.2.2.1
  | sensorFlowUpdate =>
      exact congrArg stagesBegun (Controller.SensorsOnly.sensorFlowUpdate now s).trace
  | sensorPressureUpdate readings =>
      exact congrArg stagesBegun (Controller.SensorsOnly.sensorPressureUpdate now readings s).trace
  | controlFlowUpdate => exact Controller.controlFlowUpdate_stagesBegun now s

/-! ## Operations without a command -/

section

variable [FlowArithmetic] {operation : Operation} (now : Nat) (s : Controller)

/-- The periodic calls beside the machine's own leave it alone, settings included. -/
theorem Operation.Periodic.irrigation (periodic : operation.Periodic)
    (beside : ¬ operation.DrivesMachine) : (operation.run now s).irrigation = s.irrigation := by
  cases operation with
  | deviceUpdate => exact (Controller.deviceUpdate_fields now s).2.2.1
  | sensorFlowUpdate => exact (Controller.SensorsOnly.sensorFlowUpdate now s).irrigation
  | sensorPressureUpdate readings =>
      exact (Controller.SensorsOnly.sensorPressureUpdate now readings s).irrigation
  | controlFlowUpdate => exact Controller.controlFlowUpdate_irrigation now s
  | sensorInterrupt => rfl
  | irrigationUpdate => exact absurd trivial beside
  | _ => exact periodic.elim

/-- A relay that no control flow drives is left alone too. -/
theorem Operation.Periodic.untouched {device : Fin 15} (periodic : operation.Periodic)
    (beside : ¬ operation.DrivesMachine) (undriven : ∀ flow, device ≠ controlFlowDevice flow)
    (pump : device ≠ 3) (water : device ≠ 9) :
    Controller.Untouched device s (operation.run now s) := by
  cases operation with
  | deviceUpdate => exact .deviceUpdate device now s
  | sensorFlowUpdate =>
      have sensors := Controller.SensorsOnly.sensorFlowUpdate now s
      exact .of_eq sensors.deviceArray sensors.trace
  | sensorPressureUpdate readings =>
      have sensors := Controller.SensorsOnly.sensorPressureUpdate now readings s
      exact .of_eq sensors.deviceArray sensors.trace
  | controlFlowUpdate => exact .controlFlowUpdate now (fun flow _ => undriven flow) pump water
  | sensorInterrupt => exact .of_eq rfl rfl
  | irrigationUpdate => exact absurd trivial beside
  | _ => exact periodic.elim

end

/-! ## Power-up -/

/-- The relay pins of `pins.h`, in the order of `device_array`. -/
def devicePin : Fin 15 → UInt8
  | 0 => 25
  | 1 => 24
  | 2 => 23
  | 3 => 22
  | 4 => 29
  | 5 => 28
  | 6 => 27
  | 7 => 32
  | 8 => 30
  | 9 => 31
  | 10 => 37
  | 11 => 36
  | 12 => 35
  | 13 => 34
  | 14 => 33

/-- `DEVICE_PIN_PUMP_CLICK_OFF` -/
def devicePinPumpClickOff : UInt8 := 26

/-- The minimum switching times of `device_init`, in tenths of a second. -/
def deviceTimeSwitchMinimum : Fin 15 → UInt8
  | 0 | 1 => 100
  | 2 | 3 | 4 | 5 => 50
  | 6 => 150
  | 7 | 8 | 9 => 5
  | 10 | 11 | 12 | 13 | 14 => 20

/-- The calibrations of `sensor_flow_init`. -/
def sensorPulsesPerLiter : Fin 5 → UInt16
  | 0 => 5880
  | 1 => 5715
  | 2 => 5715
  | 3 => 5880
  | 4 => 5880

/-- `delay(3000)` in `setup()`, before anything is initialised. -/
def setupTime : Nat := 3000

/-- The memory when `setup()` has run the initialisers of the controller. -/
def boot : Controller where
  deviceArray device :=
    { pin := devicePin device
      isActive := 0
      timeSwitchMinimum := deviceTimeSwitchMinimum device
      timeSwitchLast := 0
      deviceExtension := if device = 6 then some 0 else none }
  deviceExtensionArray _ :=
    { pin := devicePinPumpClickOff
      isHold := 0
      timeSwitchHoldMinimum := 5
      timeSwitchHoldLast := 0 }
  deviceExtendedArray _ := 6
  sensorFlowArray sensor :=
    { pulsesPerLiter := sensorPulsesPerLiter sensor, pulsesInterrupt := 0, pulsesTotal := 0 }
  sensorFlowTimeUpdateLast := 0
  sensorPressureArray _ := 0
  sensorPressureTimeUpdateLast := 0
  controlFlowArray _ :=
    { isActive := 0
      isPause := 0
      timeToDeliver := 0
      timeStart := 0
      timePause := 0
      pulsesToDeliver := 0
      pulsesLast := 0 }
  faultyDetectionStatus := .notDetected
  faultyDetectionTimeLast := 0
  irrigation :=
    { program := .group1
      programCurrent := .group1
      status := .finished
      isCleaning := 0
      isStopped := 0
      deliverVolume := 5000
      deliverTime := 720
      timeGeneratorWait := 5000
      timeProgramDuration := 900000
      timeCleaningGroup3Duration := 10000
      timeCleaningGroup12Duration := 3000
      timeProgramStart := 0
      timeProgramStop := 0
      timeGeneratorStart := 0
      isFaultyDetectionActive := 1
      timeCleaningDuration := 0 }
  trace :=
    -- `device_init` writes the click pump's OFF pin before its ON pin.
    ([25, 24, 23, 22, 29, 28, 26, 27, 32, 30, 31, 37, 36, 35, 34, 33].map
      fun pin => (setupTime, .digitalWrite pin deviceRelayOff)).reverse

@[simp] theorem boot_status : boot.irrigation.status = .finished := rfl

@[simp] theorem boot_isStopped : boot.irrigation.isStopped = 0 := rfl

@[simp] theorem boot_lastToggle (device : Fin 15) (on : Bool) :
    lastToggle device on boot.trace = none := rfl

@[simp] theorem boot_isOn (device : Fin 15) : ¬ boot.IsOn device := by
  simp [Controller.IsOn, boot]

@[simp] theorem boot_flowActive (flow : Fin 6) : ¬ boot.FlowActive flow := by
  simp [Controller.FlowActive, boot]

end BlueberryIrrigation
