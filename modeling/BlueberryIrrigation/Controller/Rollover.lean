import BlueberryIrrigation.Controller.Operation

/-!
# The clock's rollover cannot be seen

`shift` adds an offset, modulo 2^32, to every time that the controller keeps. Every operation
compares and rebuilds times by their differences only, so it commutes with `shift` when its own
reading of the clock is shifted too: no run depends on what `millis()` shows, nor on when it wraps.
-/

namespace BlueberryIrrigation

open Semantics

/-! ## Shifted times -/

section

variable (offset : Nat)

def Device.shift (device : Device) : Device :=
  { device with timeSwitchLast := device.timeSwitchLast + millis offset }

def DeviceExtension.shift (extension : DeviceExtension) : DeviceExtension :=
  { extension with timeSwitchHoldLast := extension.timeSwitchHoldLast + millis offset }

def ControlFlow.shift (flow : ControlFlow) : ControlFlow :=
  { flow with
    timeStart := flow.timeStart + millis offset
    timePause := flow.timePause + millis offset }

def Irrigation.shift (irrigation : Irrigation) : Irrigation :=
  { irrigation with
    timeProgramStart := irrigation.timeProgramStart + millis offset
    timeProgramStop := irrigation.timeProgramStop + millis offset
    timeGeneratorStart := irrigation.timeGeneratorStart + millis offset }

/-- Every time that is kept is later by the offset; what happened, happened that much later. -/
def Controller.shift (s : Controller) : Controller :=
  { s with
    deviceArray := Device.shift offset ∘ s.deviceArray
    deviceExtensionArray := DeviceExtension.shift offset ∘ s.deviceExtensionArray
    sensorFlowTimeUpdateLast := s.sensorFlowTimeUpdateLast + millis offset
    sensorPressureTimeUpdateLast := s.sensorPressureTimeUpdateLast + millis offset
    controlFlowArray := ControlFlow.shift offset ∘ s.controlFlowArray
    faultyDetectionTimeLast := s.faultyDetectionTimeLast + millis offset
    irrigation := s.irrigation.shift offset
    trace := s.trace.map fun event => (event.1 + offset, event.2) }

end

section

variable (offset : Nat) (irrigation : Irrigation)

@[simp] theorem Irrigation.shift_program :
    (irrigation.shift offset).program = irrigation.program := rfl

@[simp] theorem Irrigation.shift_programCurrent :
    (irrigation.shift offset).programCurrent = irrigation.programCurrent := rfl

@[simp] theorem Irrigation.shift_status :
    (irrigation.shift offset).status = irrigation.status := rfl

end

/-- The write to a relay pin that an event is. -/
def Event.pinWrite : Event → Option (UInt8 × UInt8)
  | .digitalWrite pin level => some (pin, level)
  | _ => none

/-- The writes to relay pins, newest first. -/
def pinWrites (trace : List (Nat × Event)) : List (UInt8 × UInt8) :=
  trace.filterMap fun event => event.2.pinWrite

/-- A shift does not touch what was written, nor in which order. -/
@[simp] theorem pinWrites_shift (offset : Nat) (s : Controller) :
    pinWrites (s.shift offset).trace = pinWrites s.trace := by
  unfold pinWrites
  rw [Controller.shift, List.filterMap_map]
  rfl

@[simp] theorem millis_add (now offset : Nat) :
    millis (now + offset) = millis now + millis offset :=
  Clock.reading_add now offset

/-- The difference of two shifted times is their difference. -/
@[simp] theorem shifted_sub (later earlier offset : UInt32) :
    later + offset - (earlier + offset) = later - earlier := by
  grind

/-- A shifted time that a wait is added to is the shifted sum. -/
theorem shifted_add (earlier wait offset : UInt32) :
    earlier + offset + wait = earlier + wait + offset := by
  grind

/-- A time rebuilt as so long ago is shifted with the clock. -/
theorem shifted_ago (later wait offset : UInt32) :
    later + offset - wait = later - wait + offset := by
  grind

namespace Controller

variable {offset : Nat} (now : Nat) (s : Controller)

/-! ## What does not look at a time -/

@[simp] theorem shift_isOn (device : Fin 15) : (s.shift offset).IsOn device ↔ s.IsOn device :=
  Iff.rfl

@[simp] theorem shift_flowActive (flow : Fin 6) :
    (s.shift offset).FlowActive flow ↔ s.FlowActive flow := Iff.rfl

@[simp] theorem shift_deviceArray (device : Fin 15) :
    (s.shift offset).deviceArray device = (s.deviceArray device).shift offset := rfl

@[simp] theorem shift_deviceExtensionArray (index : Fin 1) :
    (s.shift offset).deviceExtensionArray index = (s.deviceExtensionArray index).shift offset := rfl

@[simp] theorem shift_controlFlowArray (flow : Fin 6) :
    (s.shift offset).controlFlowArray flow = (s.controlFlowArray flow).shift offset := rfl

@[simp] theorem shift_irrigation : (s.shift offset).irrigation = s.irrigation.shift offset := rfl

@[simp] theorem shift_sensorFlowArray :
    (s.shift offset).sensorFlowArray = s.sensorFlowArray := rfl

@[simp] theorem shift_faultyDetectionStatus :
    (s.shift offset).faultyDetectionStatus = s.faultyDetectionStatus := rfl

/-! ## Relays -/

theorem shift_relayHold (device : Device) :
    (s.shift offset).relayHold (now + offset) (device.shift offset) =
      DeviceExtension.shift offset ∘ s.relayHold now device := by
  unfold relayHold
  cases extension : device.deviceExtension with
  | none => simp only [Device.shift, extension, shift]
  | some index =>
      simp only [Device.shift, extension, shift, Function.comp_update, millis_add]
      rfl

@[simp] theorem shift_deviceToggle (device : Fin 15) (isActive : Flag) :
    (s.shift offset).deviceToggle (now + offset) device isActive =
      (s.deviceToggle now device isActive).shift offset := by
  have writes : (s.shift offset).relayWrites ((s.deviceArray device).shift offset) isActive =
      s.relayWrites (s.deviceArray device) isActive := rfl
  unfold deviceToggle
  simp only [shift_deviceArray, writes, shift_relayHold]
  simp only [shift, Function.comp_update, millis_add, List.map_cons, List.map_append,
    List.map_map]
  rfl

@[simp] theorem shift_passed (device : Fin 15) :
    (s.shift offset).deviceIsTimeSwitchMinimumPassed (now + offset) device =
      s.deviceIsTimeSwitchMinimumPassed now device := by
  simp [deviceIsTimeSwitchMinimumPassed, Device.shift]

@[simp] theorem shift_controlSafetyDevicesStop :
    (s.shift offset).controlSafetyDevicesStop (now + offset) =
      (s.controlSafetyDevicesStop now).shift offset := by
  unfold controlSafetyDevicesStop
  induction List.finRange 15 with
  | nil => rfl
  | cons device rest ih => rw [List.foldr_cons, ih, shift_deviceToggle, List.foldr_cons]

@[simp] theorem shift_deviceUpdate :
    (s.shift offset).deviceUpdate (now + offset) = (s.deviceUpdate now).shift offset := by
  have release : ∀ index, (s.shift offset).deviceRelease (now + offset) index =
      (s.deviceRelease now index).shift offset := by
    intro index
    unfold deviceRelease
    simp only [shift_deviceExtensionArray, DeviceExtension.shift, millis_add, shifted_sub]
    split
    · rfl
    · split
      · rfl
      · simp only [shift, Function.comp_update]
        rfl
  exact release 0

/-! ## Sensors -/

@[simp] theorem shift_setSensor (sensor : Fin 5) (value : SensorFlow) :
    (s.shift offset).setSensor sensor value = (s.setSensor sensor value).shift offset := rfl

@[simp] theorem shift_pulsesTotalSet (sensor : Fin 5) (pulses : UInt32) :
    (s.shift offset).sensorFlowPulsesTotalSet sensor pulses =
      (s.sensorFlowPulsesTotalSet sensor pulses).shift offset := rfl

@[simp] theorem shift_sensorFlowUpdate :
    (s.shift offset).sensorFlowUpdate (now + offset) = (s.sensorFlowUpdate now).shift offset := by
  have flushed : ∀ (sensors : List (Fin 5)) (t : Controller),
      sensors.foldl (fun s sensor => s.sensorFlowFlush sensor) (t.shift offset) =
        (sensors.foldl (fun s sensor => s.sensorFlowFlush sensor) t).shift offset := by
    intro sensors
    induction sensors with
    | nil => exact fun _ => rfl
    | cons sensor rest ih => exact fun t => ih (t.sensorFlowFlush sensor)
  unfold sensorFlowUpdate
  rw [flushed]
  simp only [shift, millis_add, shifted_sub]
  split <;> rfl

@[simp] theorem shift_sensorPressureUpdate (readings : Fin 3 → UInt16) :
    (s.shift offset).sensorPressureUpdate (now + offset) readings =
      (s.sensorPressureUpdate now readings).shift offset := by
  unfold sensorPressureUpdate
  simp only [shift, millis_add, shifted_sub]
  split <;> rfl

/-! ## Control flows -/

@[simp] theorem shift_setFlow (flow : Fin 6) (value : ControlFlow) :
    (s.shift offset).setFlow flow (value.shift offset) = (s.setFlow flow value).shift offset := by
  simp only [setFlow, shift, Function.comp_update]

section

variable (flow : Fin 6)

@[simp] theorem shift_controlFlowStart [FlowArithmetic] (volume time : UInt16) :
    (s.shift offset).controlFlowStart (now + offset) flow volume time =
      (s.controlFlowStart now flow volume time).shift offset := by
  unfold controlFlowStart
  simp only [shift, setFlow, setSensor, Function.comp_update, millis_add]
  rfl

@[simp] theorem shift_controlFlowStop :
    (s.shift offset).controlFlowStop (now + offset) flow =
      (s.controlFlowStop now flow).shift offset := by
  have stopped : ∀ t : Controller,
      (t.shift offset).setFlow flow { (s.shift offset).controlFlowArray flow with
        isActive := 0, isPause := 0 } =
      (t.setFlow flow { s.controlFlowArray flow with isActive := 0, isPause := 0 }).shift offset :=
    fun t => shift_setFlow t flow { s.controlFlowArray flow with isActive := 0, isPause := 0 }
  unfold controlFlowStop
  simp only [shift_deviceToggle, stopped, shift_flowActive]
  split
  · split <;> rfl
  · rfl

@[simp] theorem shift_controlFlowPause (isPause : Flag) :
    (s.shift offset).controlFlowPause (now + offset) flow isPause =
      (s.controlFlowPause now flow isPause).shift offset := by
  unfold controlFlowPause
  simp only [shift_deviceToggle]
  split
  · simp only [setFlow, shift, Function.comp_update, millis_add]
    rfl
  · simp only [setFlow, shift, Function.comp_update, millis_add]
    simp [ControlFlow.shift, shifted_add]

@[simp] theorem shift_flowDue :
    (s.shift offset).FlowDue (now + offset) flow ↔ s.FlowDue now flow := by
  simp [FlowDue, ControlFlow.shift]

@[simp] theorem shift_controlFlowRegulate [FlowArithmetic] :
    (s.shift offset).controlFlowRegulate (now + offset) flow =
      (s.controlFlowRegulate now flow).shift offset := by
  unfold controlFlowRegulate
  simp only [shift_flowDue, shift_passed, shift_isOn, shift_controlFlowStop, shift_deviceToggle,
    shift_controlFlowArray, shift_sensorFlowArray, ControlFlow.shift, millis_add, shifted_sub,
    apply_ite (shift offset)]

end

@[simp] theorem shift_controlFlowRegulateAll [FlowArithmetic] :
    (s.shift offset).controlFlowRegulateAll (now + offset) =
      (s.controlFlowRegulateAll now).shift offset := by
  unfold controlFlowRegulateAll
  induction List.finRange 6 generalizing s with
  | nil => rfl
  | cons flow rest ih => rw [List.foldl_cons, shift_controlFlowRegulate, ih, List.foldl_cons]

@[simp] theorem shift_controlFlowSupplementPump :
    (s.shift offset).controlFlowSupplementPump (now + offset) =
      (s.controlFlowSupplementPump now).shift offset := by
  unfold controlFlowSupplementPump
  simp only [shift_flowActive, shift_isOn, shift_passed, shift_deviceToggle,
    apply_ite (shift offset)]

@[simp] theorem shift_controlFlowWaterValve :
    (s.shift offset).controlFlowWaterValve (now + offset) =
      (s.controlFlowWaterValve now).shift offset := by
  unfold controlFlowWaterValve
  simp only [shift_flowActive, shift_isOn, shift_passed, shift_deviceToggle,
    apply_ite (shift offset)]

@[simp] theorem shift_controlFlowDetect (flow : Fin 6) :
    (s.shift offset).controlFlowDetect flow = (s.controlFlowDetect flow).shift offset := by
  have counted (total : UInt32) (status : FaultyDetectionStatus) :
      { (s.shift offset).setFlow flow
          { (s.controlFlowArray flow).shift offset with pulsesLast := total } with
        faultyDetectionStatus := status } =
      shift offset { s.setFlow flow { s.controlFlowArray flow with pulsesLast := total } with
        faultyDetectionStatus := status } := by
    simp only [setFlow, shift, Function.comp_update]
    rfl
  unfold controlFlowDetect
  simp only [shift_controlFlowArray, shift_sensorFlowArray, shift_faultyDetectionStatus, counted]
  by_cases idle : (s.controlFlowArray flow).isActive = 0 ∨ (s.controlFlowArray flow).isPause ≠ 0
  · simp only [ControlFlow.shift, idle, ↓reduceIte]
  · simp only [ControlFlow.shift, idle, ↓reduceIte]
    -- Only the garden flow is not counted; a dry line is a fault in both cases.
    by_cases garden : flow = 5
    · simp only [garden, ↓reduceIte, apply_ite (shift offset)]
      rfl
    · simp only [garden, ↓reduceIte, apply_ite (shift offset)]
      rfl

@[simp] theorem shift_controlFlowDetection :
    (s.shift offset).controlFlowDetection (now + offset) =
      (s.controlFlowDetection now).shift offset := by
  have detected : ∀ (flows : List (Fin 6)) (t : Controller),
      flows.foldl (fun s flow => s.controlFlowDetect flow) (t.shift offset) =
        (flows.foldl (fun s flow => s.controlFlowDetect flow) t).shift offset := by
    intro flows
    induction flows with
    | nil => exact fun _ => rfl
    | cons flow rest ih =>
        intro t
        rw [List.foldl_cons, shift_controlFlowDetect, ih, List.foldl_cons]
  have window : ∀ t : Controller,
      { t.shift offset with faultyDetectionTimeLast := millis (now + offset) } =
        shift offset { t with faultyDetectionTimeLast := millis now } := by
    intro t
    rw [millis_add]
    rfl
  have age : millis (now + offset) - (s.shift offset).faultyDetectionTimeLast =
      millis now - s.faultyDetectionTimeLast := by
    rw [millis_add]
    exact shifted_sub _ _ _
  unfold controlFlowDetection
  dsimp only
  rw [detected, window, age, apply_ite (shift offset)]

@[simp] theorem shift_controlFlowUpdate [FlowArithmetic] :
    (s.shift offset).controlFlowUpdate (now + offset) =
      (s.controlFlowUpdate now).shift offset := by
  simp only [controlFlowUpdate, shift_controlFlowRegulateAll, shift_controlFlowSupplementPump,
    shift_controlFlowWaterValve, shift_controlFlowDetection]

/-! ## The irrigation machine -/

/-- What is assigned to the irrigation variables is shifted when the assignment is. -/
theorem shift_withIrrigation {changed change : Irrigation → Irrigation}
    (shifted : changed (s.irrigation.shift offset) = (change s.irrigation).shift offset) :
    (s.shift offset).withIrrigation changed = (s.withIrrigation change).shift offset := by
  simp only [withIrrigation, shift_irrigation, shifted]
  rfl

@[simp] theorem shift_clearFault :
    (s.shift offset).clearFault (now + offset) = (s.clearFault now).shift offset := by
  simp only [clearFault, millis_add]
  rfl

@[simp] theorem shift_controlIrrigationTempForceStop :
    (s.shift offset).controlIrrigationTempForceStop (now + offset) =
      (s.controlIrrigationTempForceStop now).shift offset := by
  unfold controlIrrigationTempForceStop
  dsimp only
  rw [shift_controlSafetyDevicesStop, shift_controlFlowStop, shift_controlFlowStop,
    shift_controlFlowStop]
  generalize (((s.controlSafetyDevicesStop now).controlFlowStop now 1).controlFlowStop now
    2).controlFlowStop now 5 = stopped
  apply shift_withIrrigation
  simp only [Irrigation.shift, millis_add]
  rfl

@[simp] theorem shift_prepareGenerator :
    (s.shift offset).prepareGenerator (now + offset) = (s.prepareGenerator now).shift offset := by
  unfold prepareGenerator
  rw [shift_deviceToggle]
  apply shift_withIrrigation
  simp only [Irrigation.shift, millis_add]

@[simp] theorem shift_startAssign (program : Program) (isCleaning : Flag) :
    (s.shift offset).startAssign program isCleaning =
      (s.startAssign program isCleaning).shift offset := rfl

@[simp] theorem shift_beginStage (stage : Program) :
    (s.shift offset).beginStage (now + offset) stage = (s.beginStage now stage).shift offset := by
  have recorded : (s.shift offset).record (now + offset) (.stage stage) =
      (s.record now (.stage stage)).shift offset := rfl
  unfold beginStage
  rw [recorded]
  apply shift_withIrrigation
  simp only [Irrigation.shift, millis_add]

@[simp] theorem shift_withIrrigation_program (program : Program) :
    (s.shift offset).withIrrigation (fun irrigation => { irrigation with program := program }) =
      (s.withIrrigation fun irrigation => { irrigation with program := program }).shift offset :=
  rfl

section

variable [FlowArithmetic]

@[simp] theorem shift_beginGroup (valve : Fin 15) (group : Program) :
    (s.shift offset).beginGroup (now + offset) valve group =
      (s.beginGroup now valve group).shift offset := by
  unfold beginGroup
  simp only [shift_deviceToggle, shift_irrigation, Irrigation.shift, shift_controlFlowStart,
    shift_pulsesTotalSet]
  split <;> rw [shift_beginStage]

@[simp] theorem shift_controlIrrigationTempStart (program : Program) (isCleaning : Flag) :
    (s.shift offset).controlIrrigationTempStart (now + offset) program isCleaning =
      (s.controlIrrigationTempStart now program isCleaning).shift offset := by
  unfold controlIrrigationTempStart
  simp only [shift_startAssign, shift_prepareGenerator, apply_ite (shift offset)]
  congr 1
  cases program with
  | group1 | group2 => exact shift_beginGroup now _ _ _
  | both => simp only [shift_beginGroup, shift_withIrrigation_program]
  | cleaning => simp only [beginCleaning, shift_deviceToggle, shift_beginStage]
  | garden =>
      simp only [beginGarden, shift_irrigation, Irrigation.shift, shift_controlFlowStart,
        shift_beginStage]
  | unknown => rfl

end

@[simp] theorem shift_restoreProgramStart :
    (s.shift offset).restoreProgramStart (now + offset) =
      (s.restoreProgramStart now).shift offset := by
  unfold restoreProgramStart
  apply shift_withIrrigation
  simp only [Irrigation.shift, millis_add, shifted_sub]
  rw [shifted_ago]

@[simp] theorem shift_reviveFlow (flow : Fin 6) :
    (s.shift offset).reviveFlow flow = (s.reviveFlow flow).shift offset :=
  shift_setFlow s flow { s.controlFlowArray flow with
    isActive := 1
    timeStart := s.irrigation.timeProgramStart }

@[simp] theorem shift_resumeGroup (valve : Fin 15) :
    (s.shift offset).resumeGroup (now + offset) valve =
      (s.resumeGroup now valve).shift offset := by
  unfold resumeGroup
  simp only [shift_restoreProgramStart, shift_deviceToggle, shift_reviveFlow, shift_clearFault,
    shift_irrigation, Irrigation.shift, apply_ite (shift offset)]

@[simp] theorem shift_controlIrrigationTempResume :
    (s.shift offset).controlIrrigationTempResume (now + offset) =
      (s.controlIrrigationTempResume now).shift offset := by
  have resumed : (s.shift offset).withIrrigation (fun irrigation =>
        { irrigation with isStopped := 0 }) =
      (s.withIrrigation fun irrigation => { irrigation with isStopped := 0 }).shift offset := rfl
  unfold controlIrrigationTempResume
  dsimp only
  rw [resumed, shift_prepareGenerator, apply_ite (shift offset), apply_ite (shift offset)]
  congr 2
  rw [shift_irrigation, Irrigation.shift_programCurrent]
  cases s.irrigation.programCurrent with
  | group1 | group2 => exact shift_resumeGroup now _ _
  | cleaning =>
      rw [shift_deviceToggle]
      apply shift_withIrrigation
      simp only [Irrigation.shift, millis_add]
  | garden => simp only [shift_restoreProgramStart, shift_reviveFlow]
  | both | unknown => rfl

/-! ## The update -/

@[simp] theorem shift_isFaulty : (s.shift offset).IsFaulty ↔ s.IsFaulty := Iff.rfl

@[simp] theorem shift_generatorWaiting :
    (s.shift offset).GeneratorWaiting (now + offset) ↔ s.GeneratorWaiting now := by
  simp only [GeneratorWaiting, shift_irrigation, Irrigation.shift, millis_add, shifted_sub]

@[simp] theorem shift_stageRunning (duration : UInt32) :
    (s.shift offset).StageRunning (now + offset) duration ↔ s.StageRunning now duration := by
  simp only [StageRunning, shift_irrigation, Irrigation.shift, millis_add, shifted_sub]

@[simp] theorem shift_finishProgram :
    (s.shift offset).finishProgram (now + offset) = (s.finishProgram now).shift offset := by
  unfold finishProgram
  rw [shift_deviceToggle]
  apply shift_withIrrigation
  simp only [Irrigation.shift, millis_add]

@[simp] theorem shift_updateCleaning :
    (s.shift offset).updateCleaning (now + offset) = (s.updateCleaning now).shift offset := by
  unfold updateCleaning
  simp only [shift_stageRunning, shift_isOn, shift_deviceToggle, shift_irrigation,
    Irrigation.shift, apply_ite (shift offset)]
  congr 2
  · apply shift_withIrrigation
    simp only [Irrigation.shift, millis_add]
  · congr 1
    · apply shift_withIrrigation
      simp only [Irrigation.shift, millis_add]
    · apply shift_withIrrigation
      simp only [Irrigation.shift, millis_add]

@[simp] theorem shift_updateGarden :
    (s.shift offset).updateGarden (now + offset) = (s.updateGarden now).shift offset := by
  unfold updateGarden
  simp only [shift_stageRunning, shift_irrigation, Irrigation.shift, shift_finishProgram,
    apply_ite (shift offset)]

@[simp] theorem shift_shutDown :
    (s.shift offset).shutDown (now + offset) = (s.shutDown now).shift offset := by
  unfold shutDown
  rw [shift_deviceToggle]
  rfl

@[simp] theorem shift_beginPumping :
    (s.shift offset).beginPumping (now + offset) = (s.beginPumping now).shift offset := by
  unfold beginPumping
  rw [shift_deviceToggle]
  rfl

section

variable [FlowArithmetic]

@[simp] theorem shift_cleanOrFinish (isCleaning : Flag) :
    (s.shift offset).cleanOrFinish (now + offset) isCleaning =
      (s.cleanOrFinish now isCleaning).shift offset := by
  unfold cleanOrFinish
  simp only [shift_irrigation, Irrigation.shift, shift_controlIrrigationTempStart,
    shift_finishProgram, apply_ite (shift offset)]

@[simp] theorem shift_updateGroup (valve : Fin 15) :
    (s.shift offset).updateGroup (now + offset) valve =
      (s.updateGroup now valve).shift offset := by
  unfold updateGroup
  simp only [shift_stageRunning, shift_irrigation, Irrigation.shift, shift_deviceToggle,
    shift_cleanOrFinish, apply_ite (shift offset)]

@[simp] theorem shift_updateBoth :
    (s.shift offset).updateBoth (now + offset) = (s.updateBoth now).shift offset := by
  unfold updateBoth
  simp only [shift_stageRunning, shift_isOn, shift_irrigation, Irrigation.shift,
    shift_deviceToggle, shift_controlIrrigationTempStart, shift_withIrrigation_program,
    shift_cleanOrFinish, apply_ite (shift offset)]

@[simp] theorem shift_updateProgram :
    (s.shift offset).updateProgram (now + offset) = (s.updateProgram now).shift offset := by
  unfold updateProgram
  rw [shift_irrigation, Irrigation.shift_program]
  cases s.irrigation.program with
  | group1 | group2 => exact shift_updateGroup now _ _
  | both => exact shift_updateBoth now s
  | cleaning => exact shift_updateCleaning now s
  | garden => exact shift_updateGarden now s
  | unknown => rfl

@[simp] theorem shift_beginProgram :
    (s.shift offset).beginProgram (now + offset) = (s.beginProgram now).shift offset := by
  unfold beginProgram
  simp only [shift_irrigation, Irrigation.shift, shift_beginPumping,
    shift_controlIrrigationTempStart, shift_controlIrrigationTempResume, apply_ite (shift offset)]

@[simp] theorem shift_controlIrrigationTempUpdate :
    (s.shift offset).controlIrrigationTempUpdate (now + offset) =
      (s.controlIrrigationTempUpdate now).shift offset := by
  unfold controlIrrigationTempUpdate
  rw [shift_irrigation, Irrigation.shift_status]
  cases s.irrigation.status with
  | finished => rfl
  | preparing =>
      simp only [shift_generatorWaiting, shift_beginProgram, apply_ite (shift offset)]
  | ready =>
      simp only [shift_isFaulty, shift_controlIrrigationTempForceStop, shift_updateProgram,
        apply_ite (shift offset)]
  | finishing =>
      simp only [shift_isFaulty, shift_controlIrrigationTempForceStop, shift_generatorWaiting,
        shift_shutDown, apply_ite (shift offset)]

end

end Controller

/-! ## Every operation and every run -/

section

variable [FlowArithmetic]

/-- Whatever the operation, shifted times in give shifted times out. -/
theorem Operation.run_shift (operation : Operation) (now offset : Nat) (s : Controller) :
    operation.run (now + offset) (s.shift offset) = (operation.run now s).shift offset := by
  cases operation with
  | start program isCleaning =>
      exact s.shift_controlIrrigationTempStart now program isCleaning
  | forceStop => exact s.shift_controlIrrigationTempForceStop now
  | resume => exact s.shift_controlIrrigationTempResume now
  | faultyDetectionToggle isActive =>
      exact Controller.shift_clearFault now
        (s.withIrrigation fun irrigation => { irrigation with isFaultyDetectionActive := isActive })
  | assign setting =>
      cases setting with
      | timeSwitchMinimum device time =>
          simp only [Operation.run, Controller.assign, Controller.shift, Function.comp_update]
          rfl
      | _ => rfl
  | flowStart flow volume time => exact s.shift_controlFlowStart now flow volume time
  | flowStop flow => exact s.shift_controlFlowStop now flow
  | flowPause flow isPause => exact s.shift_controlFlowPause now flow isPause
  | deviceToggle device isActive => exact s.shift_deviceToggle now device isActive
  | pulsesTotalSet sensor pulses => rfl
  | deviceUpdate => exact s.shift_deviceUpdate now
  | sensorFlowUpdate => exact s.shift_sensorFlowUpdate now
  | sensorPressureUpdate readings => exact s.shift_sensorPressureUpdate now readings
  | controlFlowUpdate => exact s.shift_controlFlowUpdate now
  | irrigationUpdate => exact s.shift_controlIrrigationTempUpdate now
  | sensorInterrupt sensor => rfl

/-- The clock's rollover is unobservable. One operation on shifted times, run that much later,
writes the same levels to the same pins in the same order and leaves the shifted result; so
does a whole run, whatever its operations are. -/
theorem rollover_unobservable (offset : Nat) :
    (∀ (operation : Operation) (now : Nat) (s : Controller),
      operation.run (now + offset) (s.shift offset) = (operation.run now s).shift offset ∧
        pinWrites (operation.run (now + offset) (s.shift offset)).trace =
          pinWrites (operation.run now s).trace) ∧
      ∀ (start : Controller) (history : List (Step Operation)),
        controller.after (start.shift offset) (Machine.delayed offset history) =
            (controller.after start history).shift offset ∧
          pinWrites (controller.after (start.shift offset)
              (Machine.delayed offset history)).trace =
            pinWrites (controller.after start history).trace := by
  constructor
  · intro operation now s
    have same := operation.run_shift now offset s
    exact ⟨same, by rw [same, pinWrites_shift]⟩
  · intro start history
    have same : controller.after (start.shift offset) (Machine.delayed offset history) =
        (controller.after start history).shift offset :=
      controller.after_delayed (fun operation now s => operation.run_shift now offset s) start
        history
    exact ⟨same, by rw [same, pinWrites_shift]⟩

end

end BlueberryIrrigation
