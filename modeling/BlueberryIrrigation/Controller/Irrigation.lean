import BlueberryIrrigation.Controller.ControlFlow

/-!
# The irrigation machine (`control_irrigation_temp.cpp`)

Four statuses and five programs share one generator, one well pump and the zone valves.
Which stage of a program is running is not stored: it is read back from the relays of
the group valves. Branches that the source repeats for the two groups are one function
of the group's valve.
-/

namespace BlueberryIrrigation.Controller

/-- Assignments to `control_irrigation_temp_*` variables. -/
def withIrrigation (change : Irrigation → Irrigation) (s : Controller) : Controller :=
  { s with irrigation := change s.irrigation }

/-- `control_safety_devices_stop` and the flow stops, then what is to be resumed: a stop
that interrupts nothing running leaves the old answer. -/
def controlIrrigationTempForceStop (now : Nat) (s : Controller) : Controller :=
  let stopped :=
    (((s.controlSafetyDevicesStop now).controlFlowStop now 1).controlFlowStop now 2).controlFlowStop
      now 5
  stopped.withIrrigation fun irrigation =>
    { irrigation with
      timeProgramStop := millis now
      isStopped :=
        if irrigation.status ≠ .preparing ∧ irrigation.isStopped = 0 then
          if irrigation.isFaultyDetectionActive ≠ 0 ∧ s.faultyDetectionStatus ≠ .notDetected then
            s.faultyDetectionStatus.number
          else FaultyDetectionStatus.stoppedByUser.number
        else irrigation.isStopped
      status := .finished }

/-- The generator goes on and its wait begins, for a start as for a resume. -/
def prepareGenerator (now : Nat) (s : Controller) : Controller :=
  (s.deviceToggle now 0 1).withIrrigation fun irrigation =>
    { irrigation with timeGeneratorStart := millis now, status := .preparing }

/-! ## Start -/

/-- The assignments every start makes before it looks at the status. -/
def startAssign (program : Program) (isCleaning : Flag) (s : Controller) : Controller :=
  s.withIrrigation fun irrigation =>
    { irrigation with
      program := program
      programCurrent := program
      isCleaning := isCleaning
      timeCleaningDuration := irrigation.timeCleaningGroup3Duration
      isStopped := 0 }

/-- `control_irrigation_temp_time_program_start = millis()`, by which a stage is begun. -/
def beginStage (now : Nat) (stage : Program) (s : Controller) : Controller :=
  (s.record now (.stage stage)).withIrrigation fun irrigation =>
    { irrigation with timeProgramStart := millis now }

/-- The start branch of a group: acid pump and group valve on, both supplement flows
started unless the volume is 1, and the water sensor's total cleared with them. -/
def beginGroup [FlowArithmetic] (now : Nat) (valve : Fin 15) (group : Program)
    (s : Controller) : Controller :=
  let opened := (s.deviceToggle now 2 1).deviceToggle now valve 1
  let volume := s.irrigation.deliverVolume
  let time := s.irrigation.deliverTime
  let flowing :=
    if volume ≠ 1 then
      let started := (opened.controlFlowStart now 1 volume time).controlFlowStart now 2 volume time
      started.sensorFlowPulsesTotalSet (controlFlowSensor 3) 0
    else opened
  flowing.beginStage now group

/-- The start branch of the cleaning program. -/
def beginCleaning (now : Nat) (s : Controller) : Controller :=
  (s.deviceToggle now 12 1).beginStage now .cleaning

/-- The start branch of the garden program. The duration goes to the garden flow in whole
seconds, narrowed to 16 bits. -/
def beginGarden [FlowArithmetic] (now : Nat) (s : Controller) : Controller :=
  let seconds := (s.irrigation.timeProgramDuration / 1000).toUInt16
  (s.controlFlowStart now 5 0 seconds).beginStage now .garden

/-- `control_irrigation_temp_start(program, is_cleaning)`. Outside `READY` it only prepares
the generator. `BOTH` calls the function again for its first group, still in `READY`. -/
def controlIrrigationTempStart [FlowArithmetic] (now : Nat) (program : Program)
    (isCleaning : Flag) (s : Controller) : Controller :=
  let assigned := s.startAssign program isCleaning
  if s.irrigation.status ≠ .ready then assigned.prepareGenerator now
  else
    match program with
    | .group1 => assigned.beginGroup now 10 .group1
    | .group2 => assigned.beginGroup now 11 .group2
    | .both =>
        ((assigned.startAssign .group1 isCleaning).beginGroup now 10 .group1).withIrrigation
          fun irrigation => { irrigation with program := .both }
    | .cleaning => assigned.beginCleaning now
    | .garden => assigned.beginGarden now
    | .unknown _ => assigned

/-! ## Resume -/

/-- `time_program_start = millis() - (time_program_stop - time_program_start)` -/
def restoreProgramStart (now : Nat) (s : Controller) : Controller :=
  s.withIrrigation fun irrigation =>
    { irrigation with
      timeProgramStart :=
        millis now - (irrigation.timeProgramStop - irrigation.timeProgramStart) }

/-- A flow is switched active again under the restored start time. -/
def reviveFlow (flow : Fin 6) (s : Controller) : Controller :=
  s.setFlow flow { s.controlFlowArray flow with
    isActive := 1
    timeStart := s.irrigation.timeProgramStart }

/-- The latched fault is forgotten and a new fault window begins. -/
def clearFault (now : Nat) (s : Controller) : Controller :=
  { s with faultyDetectionStatus := .notDetected, faultyDetectionTimeLast := millis now }

/-- The resume branch of a group. -/
def resumeGroup (now : Nat) (valve : Fin 15) (s : Controller) : Controller :=
  let opened := ((s.restoreProgramStart now).deviceToggle now 2 1).deviceToggle now valve 1
  if s.irrigation.deliverVolume ≠ 1 then
    ((opened.reviveFlow 1).reviveFlow 2).clearFault now
  else opened

/-- `control_irrigation_temp_resume()` -/
def controlIrrigationTempResume (now : Nat) (s : Controller) : Controller :=
  if s.irrigation.isStopped = 0 then s
  else if s.irrigation.status ≠ .ready then s.prepareGenerator now
  else
    let resumed := s.withIrrigation fun irrigation => { irrigation with isStopped := 0 }
    match s.irrigation.programCurrent with
    | .group1 => resumed.resumeGroup now 10
    | .group2 => resumed.resumeGroup now 11
    | .cleaning =>
        (resumed.deviceToggle now 12 1).withIrrigation fun irrigation =>
          { irrigation with
            timeCleaningDuration := irrigation.timeCleaningGroup3Duration
            timeProgramStart := millis now }
    | .garden => (resumed.restoreProgramStart now).reviveFlow 5
    | .both => resumed
    | .unknown _ => resumed

/-- `control_irrigation_temp_faulty_detection_toggle(is_active)` -/
def controlIrrigationTempFaultyDetectionToggle (now : Nat) (isActive : Flag)
    (s : Controller) : Controller :=
  (s.withIrrigation fun irrigation =>
    { irrigation with isFaultyDetectionActive := isActive }).clearFault now

/-! ## Update -/

/-- The condition under which a running program is stopped by fault detection. -/
def IsFaulty (s : Controller) : Prop :=
  s.irrigation.isFaultyDetectionActive ≠ 0 ∧ s.faultyDetectionStatus ≠ .notDetected

instance (s : Controller) : Decidable s.IsFaulty := inferInstanceAs (Decidable (_ ∧ _))

/-- `millis() - time_generator_start < time_generator_wait` -/
def GeneratorWaiting (now : Nat) (s : Controller) : Prop :=
  millis now - s.irrigation.timeGeneratorStart < s.irrigation.timeGeneratorWait

instance (now : Nat) (s : Controller) : Decidable (s.GeneratorWaiting now) :=
  inferInstanceAs (Decidable (_ < _))

/-- `millis() - time_program_start < duration` -/
def StageRunning (now : Nat) (duration : UInt32) (s : Controller) : Prop :=
  millis now - s.irrigation.timeProgramStart < duration

instance (now : Nat) (duration : UInt32) (s : Controller) :
    Decidable (s.StageRunning now duration) := inferInstanceAs (Decidable (_ < _))

/-- The last stage is over: the well pump goes off and the generator cools down. -/
def finishProgram (now : Nat) (s : Controller) : Controller :=
  (s.deviceToggle now 1 0).withIrrigation fun irrigation =>
    { irrigation with timeGeneratorStart := millis now, status := .finishing }

/-- After the irrigation stages, the cleaning program or the end. -/
def cleanOrFinish [FlowArithmetic] (now : Nat) (isCleaning : Flag) (s : Controller) :
    Controller :=
  if s.irrigation.isCleaning ≠ 0 then s.controlIrrigationTempStart now .cleaning isCleaning
  else s.finishProgram now

/-- The update branch of a group. -/
def updateGroup [FlowArithmetic] (now : Nat) (valve : Fin 15) (s : Controller) : Controller :=
  if s.StageRunning now s.irrigation.timeProgramDuration then s
  else ((s.deviceToggle now 2 0).deviceToggle now valve 0).cleanOrFinish now 1

/-- The update branch of `BOTH`: an open valve 10 means that the first group is running. -/
def updateBoth [FlowArithmetic] (now : Nat) (s : Controller) : Controller :=
  if s.StageRunning now s.irrigation.timeProgramDuration then s
  else if s.IsOn 10 then
    ((s.deviceToggle now 10 0).controlIrrigationTempStart now .group2
      s.irrigation.isCleaning).withIrrigation fun irrigation => { irrigation with program := .both }
  else ((s.deviceToggle now 2 0).deviceToggle now 11 0).cleanOrFinish now s.irrigation.isCleaning

/-- The update branch of the cleaning program: group 3, then group 1, then group 2. -/
def updateCleaning (now : Nat) (s : Controller) : Controller :=
  if s.StageRunning now s.irrigation.timeCleaningDuration then s
  else if s.IsOn 10 then
    ((s.deviceToggle now 10 0).deviceToggle now 11 1).withIrrigation fun irrigation =>
      { irrigation with timeProgramStart := millis now }
  else if s.IsOn 11 then
    ((s.deviceToggle now 1 0).deviceToggle now 11 0).withIrrigation fun irrigation =>
      { irrigation with
        timeGeneratorStart := millis now
        timeCleaningDuration := irrigation.timeCleaningGroup3Duration
        status := .finishing }
  else
    ((s.deviceToggle now 12 0).deviceToggle now 10 1).withIrrigation fun irrigation =>
      { irrigation with
        timeProgramStart := millis now
        timeCleaningDuration := irrigation.timeCleaningGroup12Duration }

/-- The update branch of the garden program. -/
def updateGarden (now : Nat) (s : Controller) : Controller :=
  if s.StageRunning now s.irrigation.timeProgramDuration then s else s.finishProgram now

/-- The part of `control_irrigation_temp_update` that runs the program in `READY`. -/
def updateProgram [FlowArithmetic] (now : Nat) (s : Controller) : Controller :=
  match s.irrigation.program with
  | .group1 => s.updateGroup now 10
  | .group2 => s.updateGroup now 11
  | .both => s.updateBoth now
  | .cleaning => s.updateCleaning now
  | .garden => s.updateGarden now
  | .unknown _ => s

/-- The well pump goes on. -/
def beginPumping (now : Nat) (s : Controller) : Controller :=
  (s.deviceToggle now 1 1).withIrrigation fun irrigation => { irrigation with status := .ready }

/-- The generator is ready: the pump goes on and the program starts or resumes. -/
def beginProgram [FlowArithmetic] (now : Nat) (s : Controller) : Controller :=
  if s.irrigation.isStopped = 0 then
    (s.beginPumping now).controlIrrigationTempStart now s.irrigation.program
      s.irrigation.isCleaning
  else (s.beginPumping now).controlIrrigationTempResume now

/-- The generator has cooled down and goes off. -/
def shutDown (now : Nat) (s : Controller) : Controller :=
  (s.deviceToggle now 0 0).withIrrigation fun irrigation => { irrigation with status := .finished }

/-- `control_irrigation_temp_update()` -/
def controlIrrigationTempUpdate [FlowArithmetic] (now : Nat) (s : Controller) : Controller :=
  match s.irrigation.status with
  | .finished => s
  | .preparing => if s.GeneratorWaiting now then s else s.beginProgram now
  | .ready =>
      if s.IsFaulty then s.controlIrrigationTempForceStop now else s.updateProgram now
  | .finishing =>
      if s.IsFaulty then s.controlIrrigationTempForceStop now
      else if s.GeneratorWaiting now then s
      else s.shutDown now

end BlueberryIrrigation.Controller
