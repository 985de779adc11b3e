import BlueberryIrrigation.Interface.Pass
import BlueberryIrrigation.Semantics.Register

/-!
# The settings in runs of the loop

Some of the controller's variables are settings: an interface assigns them, and everything else
only reads them. `Settings` is the machine that knows nothing but these variables, and what a
command does to it is its assignment. The controller refines it: no start, stop or resume, no
stage of a program, no fault and no relay changes a setting, whenever it comes. So in a run of
`loop()` each of them is a register, which holds what the last command for it has said.
-/

namespace BlueberryIrrigation

open Semantics

/-- The variables that the interfaces assign. -/
@[ext] structure Settings where
  deliverVolume : UInt16
  deliverTime : UInt16
  timeGeneratorWait : UInt32
  timeProgramDuration : UInt32
  timeCleaningGroup3Duration : UInt32
  timeCleaningGroup12Duration : UInt32
  isFaultyDetectionActive : Flag
  timeSwitchMinimum : Fin 15 → UInt8
  pulsesPerLiter : Fin 5 → UInt16

namespace Settings

/-- A direct assignment. -/
def assign (settings : Settings) : Setting → Settings
  | .deliverVolume volume => { settings with deliverVolume := volume }
  | .deliverTime time => { settings with deliverTime := time }
  | .generatorWait time => { settings with timeGeneratorWait := time }
  | .programDuration time => { settings with timeProgramDuration := time }
  | .cleaningGroup3Duration time => { settings with timeCleaningGroup3Duration := time }
  | .cleaningGroup12Duration time => { settings with timeCleaningGroup12Duration := time }
  | .timeSwitchMinimum device time =>
      { settings with
        timeSwitchMinimum := Function.update settings.timeSwitchMinimum device time }
  | .pulsesPerLiter sensor pulses =>
      { settings with pulsesPerLiter := Function.update settings.pulsesPerLiter sensor pulses }

/-- What is left of an operation when only the settings are seen. -/
def obey (operation : Operation) (settings : Settings) : Settings :=
  match operation with
  | .assign setting => settings.assign setting
  | .faultyDetectionToggle isActive => { settings with isFaultyDetectionActive := isActive }
  | _ => settings

end Settings

/-- One variable of the settings. -/
inductive SettingName where
  | deliverVolume
  | deliverTime
  | timeGeneratorWait
  | timeProgramDuration
  | timeCleaningGroup3Duration
  | timeCleaningGroup12Duration
  | isFaultyDetectionActive
  | timeSwitchMinimum (device : Fin 15)
  | pulsesPerLiter (sensor : Fin 5)

namespace SettingName

/-- What the variable holds. -/
def read (settings : Settings) : SettingName → Nat
  | deliverVolume => settings.deliverVolume.toNat
  | deliverTime => settings.deliverTime.toNat
  | timeGeneratorWait => settings.timeGeneratorWait.toNat
  | timeProgramDuration => settings.timeProgramDuration.toNat
  | timeCleaningGroup3Duration => settings.timeCleaningGroup3Duration.toNat
  | timeCleaningGroup12Duration => settings.timeCleaningGroup12Duration.toNat
  | isFaultyDetectionActive => settings.isFaultyDetectionActive.toNat
  | timeSwitchMinimum device => (settings.timeSwitchMinimum device).toNat
  | pulsesPerLiter sensor => (settings.pulsesPerLiter sensor).toNat

/-- What a command assigns to the variable. -/
def assigned : SettingName → Operation → Option Nat
  | deliverVolume, .assign (.deliverVolume volume) => some volume.toNat
  | deliverTime, .assign (.deliverTime time) => some time.toNat
  | timeGeneratorWait, .assign (.generatorWait time) => some time.toNat
  | timeProgramDuration, .assign (.programDuration time) => some time.toNat
  | timeCleaningGroup3Duration, .assign (.cleaningGroup3Duration time) => some time.toNat
  | timeCleaningGroup12Duration, .assign (.cleaningGroup12Duration time) => some time.toNat
  | isFaultyDetectionActive, .faultyDetectionToggle isActive => some isActive.toNat
  | timeSwitchMinimum device, .assign (.timeSwitchMinimum changed time) =>
      if changed = device then some time.toNat else none
  | pulsesPerLiter sensor, .assign (.pulsesPerLiter changed pulses) =>
      if changed = sensor then some pulses.toNat else none
  | _, _ => none

/-- The variables are registers of the machine of the settings. -/
theorem read_obey (name : SettingName) (settings : Settings) (operation : Operation) :
    name.read (settings.obey operation) =
      (name.assigned operation).getD (name.read settings) := by
  cases operation with
  | assign setting =>
      cases setting with
      | timeSwitchMinimum changed time =>
          cases name with
          | timeSwitchMinimum device =>
              by_cases own : changed = device
              · subst own
                simp [read, assigned, Settings.obey, Settings.assign]
              · simp [read, assigned, Settings.obey, Settings.assign, own, Ne.symm own]
          | _ => rfl
      | pulsesPerLiter changed pulses =>
          cases name with
          | pulsesPerLiter sensor =>
              by_cases own : changed = sensor
              · subst own
                simp [read, assigned, Settings.obey, Settings.assign]
              · simp [read, assigned, Settings.obey, Settings.assign, own, Ne.symm own]
          | _ => rfl
      | _ => cases name <;> rfl
  | faultyDetectionToggle isActive => cases name <;> rfl
  | _ => cases name <;> rfl

/-- So a variable holds what the last assignment to it has said. -/
theorem read_obeyed (name : SettingName) (settings : Settings) (operations : List Operation) :
    name.read (operations.foldl (fun settings operation => settings.obey operation) settings) =
      (Register.last name.assigned operations).getD (name.read settings) := by
  rw [← Register.run_eq_last]
  induction operations generalizing settings with
  | nil => rfl
  | cons operation rest ih => rw [List.foldl_cons, ih, read_obey, Register.run_cons]

end SettingName

namespace Controller

/-- The settings that the controller holds. -/
def settings (s : Controller) : Settings where
  deliverVolume := s.irrigation.deliverVolume
  deliverTime := s.irrigation.deliverTime
  timeGeneratorWait := s.irrigation.timeGeneratorWait
  timeProgramDuration := s.irrigation.timeProgramDuration
  timeCleaningGroup3Duration := s.irrigation.timeCleaningGroup3Duration
  timeCleaningGroup12Duration := s.irrigation.timeCleaningGroup12Duration
  isFaultyDetectionActive := s.irrigation.isFaultyDetectionActive
  timeSwitchMinimum device := (s.deviceArray device).timeSwitchMinimum
  pulsesPerLiter sensor := (s.sensorFlowArray sensor).pulsesPerLiter

variable (now : Nat) {s t : Controller}

/-! ## Relays and sensors -/

@[simp] theorem deviceToggle_settings (device : Fin 15) (isActive : Flag) :
    (s.deviceToggle now device isActive).settings = s.settings := by
  ext other
  case timeSwitchMinimum =>
    by_cases own : other = device
    · subst own
      simp [settings, deviceToggle]
    · simp [settings, deviceToggle, own]
  all_goals rfl

@[simp] theorem deviceUpdate_settings : (s.deviceUpdate now).settings = s.settings := by
  unfold deviceUpdate
  refine List.foldlRecOn (motive := fun t : Controller => t.settings = s.settings) _ _ rfl ?_
  intro t held index _
  unfold deviceRelease
  dsimp only
  split
  · exact held
  · split <;> exact held

@[simp] theorem controlSafetyDevicesStop_settings :
    (s.controlSafetyDevicesStop now).settings = s.settings := by
  unfold controlSafetyDevicesStop
  induction List.finRange 15 with
  | nil => rfl
  | cons device rest ih => rw [List.foldr_cons, deviceToggle_settings, ih]

/-- A sensor that keeps its calibration keeps the settings. -/
theorem setSensor_settings {sensor : Fin 5} {value : SensorFlow}
    (same : value.pulsesPerLiter = (s.sensorFlowArray sensor).pulsesPerLiter) :
    (s.setSensor sensor value).settings = s.settings := by
  ext other
  case pulsesPerLiter =>
    by_cases own : other = sensor
    · subst own
      simpa [settings, setSensor] using congrArg UInt16.toNat same
    · simp [settings, setSensor, own]
  all_goals rfl

@[simp] theorem sensorFlowInterrupt_settings (sensor : Fin 5) :
    (s.sensorFlowInterrupt sensor).settings = s.settings := setSensor_settings rfl

@[simp] theorem sensorFlowPulsesTotalSet_settings (sensor : Fin 5) (pulses : UInt32) :
    (s.sensorFlowPulsesTotalSet sensor pulses).settings = s.settings := setSensor_settings rfl

@[simp] theorem sensorFlowUpdate_settings : (s.sensorFlowUpdate now).settings = s.settings := by
  by_cases waiting : millis now - s.sensorFlowTimeUpdateLast < sensorFlowUpdateInterval
  · unfold sensorFlowUpdate
    rw [if_pos waiting]
  · rw [sensorFlowUpdate_eq waiting]
    rfl

@[simp] theorem sensorPressureUpdate_settings (readings : Fin 3 → UInt16) :
    (s.sensorPressureUpdate now readings).settings = s.settings := by
  unfold sensorPressureUpdate
  split <;> rfl

/-- An assignment to variables of the machine that are no settings. -/
theorem withIrrigation_settings {change : Irrigation → Irrigation}
    (kept : ∀ t : Controller, (t.withIrrigation change).settings = t.settings)
    (same : s.settings = t.settings) : (s.withIrrigation change).settings = t.settings :=
  (kept s).trans same

/-! ## Control flows -/

@[simp] theorem setFlow_settings (flow : Fin 6) (value : ControlFlow) :
    (s.setFlow flow value).settings = s.settings := rfl

@[simp] theorem controlFlowStop_settings (flow : Fin 6) :
    (s.controlFlowStop now flow).settings = s.settings := by
  have stopped : ((s.deviceToggle now (controlFlowDevice flow) 0).setFlow flow
      { s.controlFlowArray flow with isActive := 0, isPause := 0 }).settings = s.settings := by
    rw [setFlow_settings, deviceToggle_settings]
  unfold controlFlowStop
  dsimp only
  split
  · split
    · rw [deviceToggle_settings, deviceToggle_settings, stopped]
    · exact stopped
  · exact stopped

@[simp] theorem controlFlowPause_settings (flow : Fin 6) (isPause : Flag) :
    (s.controlFlowPause now flow isPause).settings = s.settings := by
  unfold controlFlowPause
  dsimp only
  split
  · rw [setFlow_settings, deviceToggle_settings]
  · rfl

theorem controlFlowDetect_settings (flow : Fin 6) :
    (s.controlFlowDetect flow).settings = s.settings := by
  unfold controlFlowDetect
  dsimp only
  split
  · rfl
  · split <;> split <;> rfl

theorem controlFlowDetection_settings : (s.controlFlowDetection now).settings = s.settings := by
  have all : ((List.finRange 6).foldl (fun s flow => s.controlFlowDetect flow) s).settings =
      s.settings :=
    List.foldlRecOn (motive := fun t : Controller => t.settings = s.settings) _ _ rfl
      fun t held flow _ => (controlFlowDetect_settings flow).trans held
  unfold controlFlowDetection
  generalize (List.finRange 6).foldl (fun s flow => s.controlFlowDetect flow) s = t at all
  split
  · exact all
  · rfl

section

variable [FlowArithmetic]

@[simp] theorem controlFlowStart_settings (flow : Fin 6) (volume time : UInt16) :
    (s.controlFlowStart now flow volume time).settings = s.settings := by
  have started (t : Controller) (same : t.sensorFlowArray = s.sensorFlowArray)
      (kept : t.settings = s.settings) :
      (t.setSensor (controlFlowSensor flow)
        { s.sensorFlowArray (controlFlowSensor flow) with pulsesTotal := 0 }).settings =
        s.settings :=
    (setSensor_settings (by rw [same])).trans kept
  exact started (s.setFlow flow _) rfl rfl

@[simp] theorem controlFlowUpdate_settings :
    (s.controlFlowUpdate now).settings = s.settings := by
  have regulated : (s.controlFlowRegulateAll now).settings = s.settings := by
    refine controlFlowRegulateAll_turns now (fun t => t.settings = s.settings)
      (fun flow t held => ?_) rfl
    rcases controlFlowRegulate_cases now flow t with same | ⟨-, -, stopped⟩ |
      ⟨-, -, isActive, toggled⟩
    · rwa [same]
    · rwa [stopped, controlFlowStop_settings]
    · rwa [toggled, deviceToggle_settings]
  unfold controlFlowUpdate
  rw [controlFlowDetection_settings]
  generalize s.controlFlowRegulateAll now = t at regulated ⊢
  have pumped : (t.controlFlowSupplementPump now).settings = s.settings := by
    rcases controlFlowSupplementPump_cases now t with same | ⟨-, toggled⟩
    · rwa [same]
    · rwa [toggled, deviceToggle_settings]
  generalize t.controlFlowSupplementPump now = u at pumped ⊢
  rcases controlFlowWaterValve_cases now u with same | ⟨-, isActive, toggled⟩
  · rwa [same]
  · rwa [toggled, deviceToggle_settings]

end

/-! ## The irrigation machine -/

@[simp] theorem startAssign_settings (program : Program) (isCleaning : Flag) :
    (s.startAssign program isCleaning).settings = s.settings := rfl

@[simp] theorem beginStage_settings (stage : Program) :
    (s.beginStage now stage).settings = s.settings := rfl

@[simp] theorem forceStop_settings :
    (s.controlIrrigationTempForceStop now).settings = s.settings := by
  unfold controlIrrigationTempForceStop
  apply withIrrigation_settings
  · exact fun _ => rfl
  · simp only [controlFlowStop_settings, controlSafetyDevicesStop_settings]

@[simp] theorem prepareGenerator_settings : (s.prepareGenerator now).settings = s.settings :=
  withIrrigation_settings (fun _ => rfl) (deviceToggle_settings now 0 1)

@[simp] theorem finishProgram_settings : (s.finishProgram now).settings = s.settings :=
  withIrrigation_settings (fun _ => rfl) (deviceToggle_settings now 1 0)

theorem resumeGroup_settings (valve : Fin 15) :
    (s.resumeGroup now valve).settings = s.settings := by
  have opened : (((s.restoreProgramStart now).deviceToggle now 2 1).deviceToggle now valve
      1).settings = s.settings := by
    rw [deviceToggle_settings, deviceToggle_settings]
    rfl
  unfold resumeGroup
  dsimp only
  generalize ((s.restoreProgramStart now).deviceToggle now 2 1).deviceToggle now valve 1 = t
    at opened ⊢
  split <;> exact opened

@[simp] theorem resume_settings :
    (s.controlIrrigationTempResume now).settings = s.settings := by
  unfold controlIrrigationTempResume
  split
  · rfl
  · split
    · exact prepareGenerator_settings now
    · have resumed : (s.withIrrigation fun irrigation =>
          { irrigation with isStopped := 0 }).settings = s.settings := rfl
      cases s.irrigation.programCurrent with
      | group1 => exact (resumeGroup_settings now 10).trans resumed
      | group2 => exact (resumeGroup_settings now 11).trans resumed
      | cleaning =>
          apply withIrrigation_settings
          · exact fun _ => rfl
          · exact (deviceToggle_settings now 12 1).trans resumed
      | garden | both | unknown => exact resumed

section

variable [FlowArithmetic]

theorem beginGroup_settings (valve : Fin 15) (group : Program) :
    (s.beginGroup now valve group).settings = s.settings := by
  have opened : ((s.deviceToggle now 2 1).deviceToggle now valve 1).settings = s.settings := by
    simp
  unfold beginGroup
  dsimp only
  split
  · rw [beginStage_settings, sensorFlowPulsesTotalSet_settings, controlFlowStart_settings,
      controlFlowStart_settings, opened]
  · rw [beginStage_settings, opened]

@[simp] theorem start_settings (program : Program) (isCleaning : Flag) :
    (s.controlIrrigationTempStart now program isCleaning).settings = s.settings := by
  unfold controlIrrigationTempStart
  dsimp only
  split
  · rw [prepareGenerator_settings, startAssign_settings]
  · cases program with
    | group1 => exact beginGroup_settings now 10 .group1
    | group2 => exact beginGroup_settings now 11 .group2
    | both =>
        apply withIrrigation_settings
        · exact fun _ => rfl
        · exact beginGroup_settings now 10 .group1
    | cleaning => exact (beginStage_settings now .cleaning).trans (deviceToggle_settings now 12 1)
    | garden =>
        exact (beginStage_settings now .garden).trans (controlFlowStart_settings now 5 0 _)
    | unknown excess => exact startAssign_settings (.unknown excess) isCleaning

theorem cleanOrFinish_settings (isCleaning : Flag) :
    (s.cleanOrFinish now isCleaning).settings = s.settings := by
  unfold cleanOrFinish
  split
  · exact start_settings now .cleaning isCleaning
  · exact finishProgram_settings now

/-- No turn of a program changes a setting. -/
theorem updateProgram_settings : (s.updateProgram now).settings = s.settings := by
  have turn := programTurn now s
  generalize s.updateProgram now = t at turn ⊢
  cases turn with
  | waits | endless => rfl
  | groupOver valve | bothOver =>
      rw [cleanOrFinish_settings, deviceToggle_settings, deviceToggle_settings]
  | bothNext =>
      apply withIrrigation_settings
      · exact fun _ => rfl
      · rw [start_settings, deviceToggle_settings]
  | washFirst | washSecond | washOver =>
      apply withIrrigation_settings
      · exact fun _ => rfl
      · rw [deviceToggle_settings, deviceToggle_settings]
  | gardenOver => exact finishProgram_settings now

@[simp] theorem irrigationUpdate_settings :
    (s.controlIrrigationTempUpdate now).settings = s.settings := by
  have pumping : (s.beginPumping now).settings = s.settings :=
    withIrrigation_settings (fun _ => rfl) (deviceToggle_settings now 1 1)
  have step := updateStep now s
  generalize s.controlIrrigationTempUpdate now = t at step ⊢
  cases step with
  | idle | warming | cooling => rfl
  | begins =>
      unfold beginProgram
      split
      · rw [start_settings, pumping]
      · rw [resume_settings, pumping]
  | runs => exact updateProgram_settings now
  | stops => exact forceStop_settings now
  | shuts => exact withIrrigation_settings (fun _ => rfl) (deviceToggle_settings now 0 0)

end

theorem assign_settings (setting : Setting) :
    (s.assign setting).settings = s.settings.assign setting := by
  cases setting with
  | timeSwitchMinimum device time =>
      ext other
      case timeSwitchMinimum =>
        by_cases own : other = device
        · subst own
          simp [settings, assign, Settings.assign]
        · simp [settings, assign, Settings.assign, own]
      all_goals rfl
  | pulsesPerLiter sensor pulses =>
      ext other
      case pulsesPerLiter =>
        by_cases own : other = sensor
        · subst own
          simp [settings, assign, Settings.assign, sensorFlowPulsesPerLiterSet, setSensor]
        · simp [settings, assign, Settings.assign, sensorFlowPulsesPerLiterSet, setSensor, own]
      all_goals rfl
  | _ => rfl

end Controller

/-- An operation does to the settings what the machine of the settings does. -/
@[simp] theorem Operation.run_settings [FlowArithmetic] (operation : Operation) (now : Nat)
    (s : Controller) : (operation.run now s).settings = s.settings.obey operation := by
  cases operation with
  | assign setting => exact s.assign_settings setting
  | faultyDetectionToggle isActive => rfl
  | start program isCleaning => exact Controller.start_settings now program isCleaning
  | forceStop => exact Controller.forceStop_settings now
  | resume => exact Controller.resume_settings now
  | flowStart flow volume time => exact Controller.controlFlowStart_settings now flow volume time
  | flowStop flow => exact Controller.controlFlowStop_settings now flow
  | flowPause flow isPause => exact Controller.controlFlowPause_settings now flow isPause
  | deviceToggle device isActive => exact Controller.deviceToggle_settings now device isActive
  | pulsesTotalSet sensor pulses =>
      exact Controller.sensorFlowPulsesTotalSet_settings sensor pulses
  | deviceUpdate => exact Controller.deviceUpdate_settings now
  | sensorFlowUpdate => exact Controller.sensorFlowUpdate_settings now
  | sensorPressureUpdate readings => exact Controller.sensorPressureUpdate_settings now readings
  | controlFlowUpdate => exact Controller.controlFlowUpdate_settings now
  | irrigationUpdate => exact Controller.irrigationUpdate_settings now
  | sensorInterrupt sensor => exact Controller.sensorFlowInterrupt_settings sensor

/-! ## Runs of the loop -/

theorem Controller.obey_settings [FlowArithmetic] (now : Nat) (command : Option Operation)
    (s : Controller) : (s.obey now command).settings =
      command.toList.foldl (fun settings operation => settings.obey operation) s.settings := by
  cases command with
  | none => rfl
  | some operation => exact operation.run_settings now s

theorem Moment.interrupt_settings (moment : Moment) (s : Controller) :
    (moment.interrupt s).settings = s.settings := by
  unfold interrupt
  exact List.foldlRecOn (motive := fun t : Controller => t.settings = s.settings) _ _ rfl
    fun t held sensor _ => (Controller.sensorFlowInterrupt_settings sensor).trans held

namespace System

variable [FlowArithmetic]

/-- The commands of an iteration, in their order: the network's, then the line that is typed. -/
def iterationCommands (input : LoopInput) (s : System) : List Operation :=
  let command := s.networkCommand input
  let served := input.interfaceSerial.interrupt
    ((s.controller.atDispatch input).obey input.interface.now command)
  command.toList ++ (input.serial.operation served).toList

/-- The commands of a run, in their order. -/
def commands (start : System) : List LoopInput → List Operation
  | [] => []
  | input :: prior =>
      commands start prior ++
        match start.after prior with
        | .ok s => s.iterationCommands input
        | .error _ => []

/-- Of an iteration the settings see its commands. -/
theorem loop_settings (input : LoopInput) (s : System) :
    Memory.Allows (s.loop input) fun after => after.controller.settings =
      (s.iterationCommands input).foldl (fun settings operation => settings.obey operation)
        s.controller.settings := by
  refine (loop_pass input s).mono fun after reached => ?_
  have dispatched : (s.controller.atDispatch input).settings = s.controller.settings := by
    simp only [Controller.atDispatch, Controller.atIrrigation, Controller.atControlFlow,
      Moment.interrupt_settings, Controller.irrigationUpdate_settings,
      Controller.controlFlowUpdate_settings, Controller.sensorPressureUpdate_settings,
      Controller.sensorFlowUpdate_settings, Controller.deviceUpdate_settings]
  rw [reached]
  unfold Controller.pass iterationCommands
  rw [Controller.obey_settings, Moment.interrupt_settings, Controller.obey_settings, dispatched,
    List.foldl_append]

theorem after_settings (start : System) (inputs : List LoopInput) :
    Memory.Allows (start.after inputs) fun s => s.controller.settings =
      (start.commands inputs).foldl (fun settings operation => settings.obey operation)
        start.controller.settings := by
  induction inputs with
  | nil => exact (Memory.allows_ok start).mpr rfl
  | cons input prior ih =>
      rw [after, Memory.allows_bind]
      intro s ran
      refine (loop_settings input s).mono fun next reached => ?_
      rw [commands, ran, List.foldl_append, ← ih s ran]
      exact reached

/-- In every run of `loop()` each setting holds what the last command for it has said, and before
the first one what `setup()` has left there. Nothing else changes it. -/
theorem settings_as_commanded (now : Nat) (answers : ChipAnswers) (inputs : List LoopInput)
    (name : SettingName) :
    Memory.Allows ((setup now answers).after inputs) fun s =>
      name.read s.controller.settings =
        (Register.last name.assigned ((setup now answers).commands inputs)).getD
          (name.read boot.settings) := by
  refine (after_settings (setup now answers) inputs).mono fun s reached => ?_
  rw [reached, name.read_obeyed]
  rfl

end System
end BlueberryIrrigation
