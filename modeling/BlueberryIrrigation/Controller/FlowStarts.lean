import BlueberryIrrigation.Controller.Operation

/-!
# Which operations start a flow

`control_flow_start` is called by a serial command and by the start branches of the irrigation
programs. `Operation.flowsStarted` lists the flows that an operation starts, and
`Operation.sensorsCleared` the sensors whose totals it sets to zero on the way. Every other flow
keeps its target and its limit, and every other total stays.
-/

namespace BlueberryIrrigation

open Semantics

namespace Program

/-- The flows that the start branch of a program calls `control_flow_start` for. -/
def startedFlows (s : Controller) : Program → List (Fin 6)
  | .group1 | .group2 | .both => if s.irrigation.deliverVolume ≠ 1 then [1, 2] else []
  | .garden => [5]
  | .cleaning | .unknown _ => []

/-- The sensors whose totals the start branch of a program sets to zero. -/
def clearedSensors (s : Controller) : Program → List (Fin 5)
  | .group1 | .group2 | .both => if s.irrigation.deliverVolume ≠ 1 then [1, 2, 3] else []
  | .garden => [0]
  | .cleaning | .unknown _ => []

/-- A started flow's own total is among them. -/
theorem sensor_cleared {s : Controller} {program : Program} {flow : Fin 6}
    (started : flow ∈ program.startedFlows s) :
    controlFlowSensor flow ∈ program.clearedSensors s := by
  have group : flow ∈ (if s.irrigation.deliverVolume ≠ 1 then [1, 2] else []) →
      controlFlowSensor flow ∈
        (if s.irrigation.deliverVolume ≠ 1 then [1, 2, 3] else [] : List (Fin 5)) := by
    intro listed
    split at listed
    · rename_i volume
      rw [if_pos volume]
      simp only [List.mem_cons, List.not_mem_nil, or_false] at listed
      rcases listed with rfl | rfl <;> decide
    · exact absurd listed List.not_mem_nil
  cases program with
  | group1 | group2 | both => exact group started
  | garden =>
      obtain rfl := List.mem_singleton.mp started
      exact List.mem_singleton.mpr rfl
  | cleaning | unknown => exact absurd started List.not_mem_nil

end Program

namespace Controller

/-- The record of a flow after `control_flow_start`. -/
def startedFlow [FlowArithmetic] (now : Nat) (flow : Fin 6) (volume time : UInt16)
    (s : Controller) : ControlFlow :=
  { s.controlFlowArray flow with
    pulsesLast := 0
    pulsesToDeliver := FlowArithmetic.pulsesToDeliver
      (s.sensorFlowArray (controlFlowSensor flow)).pulsesPerLiter volume
    timeToDeliver := time
    timeStart := millis now
    isActive := 1
    isPause := 0 }

/-- The sensor with its total at zero, if it is one of these. -/
def clearedSensor (sensors : List (Fin 5)) (sensor : Fin 5) (s : Controller) : SensorFlow :=
  { s.sensorFlowArray sensor with
    pulsesTotal := if sensor ∈ sensors then 0 else (s.sensorFlowArray sensor).pulsesTotal }

section

variable (now : Nat) (s : Controller)

variable [FlowArithmetic]

theorem controlFlowStart_controlFlowArray (flow other : Fin 6) (volume time : UInt16) :
    (s.controlFlowStart now flow volume time).controlFlowArray other =
      if other = flow then s.startedFlow now flow volume time else s.controlFlowArray other := by
  by_cases own : other = flow
  · subst own
    simp [controlFlowStart, setFlow, setSensor, startedFlow]
  · simp [controlFlowStart, setFlow, setSensor, own]

theorem controlFlowStart_sensorFlowArray (flow : Fin 6) (volume time : UInt16) (sensor : Fin 5) :
    (s.controlFlowStart now flow volume time).sensorFlowArray sensor =
      s.clearedSensor [controlFlowSensor flow] sensor := by
  by_cases own : sensor = controlFlowSensor flow
  · subst own
    simp [controlFlowStart, setFlow, setSensor, clearedSensor]
  · simp [controlFlowStart, setFlow, setSensor, clearedSensor, own]

/-- A group starts both supplement flows, unless the volume is 1. -/
theorem beginGroup_controlFlowArray (valve : Fin 15) (group : Program) (flow : Fin 6) :
    (s.beginGroup now valve group).controlFlowArray flow =
      if s.irrigation.deliverVolume ≠ 1 ∧ (flow = 1 ∨ flow = 2) then
        s.startedFlow now flow s.irrigation.deliverVolume s.irrigation.deliverTime
      else s.controlFlowArray flow := by
  unfold beginGroup
  dsimp only
  split
  · rename_i volume
    have flows : ∀ (t : Controller) (total : UInt32),
        ((t.sensorFlowPulsesTotalSet (controlFlowSensor 3) total).beginStage now
          group).controlFlowArray = t.controlFlowArray := fun _ _ => rfl
    rw [flows, controlFlowStart_controlFlowArray]
    by_cases second : flow = 2
    · subst second
      rw [if_pos rfl, if_pos ⟨volume, .inr rfl⟩]
      rfl
    · rw [if_neg second, controlFlowStart_controlFlowArray]
      by_cases first : flow = 1
      · subst first
        rw [if_pos rfl, if_pos ⟨volume, .inl rfl⟩]
        rfl
      · rw [if_neg first, if_neg (by simp [first, second])]
        rfl
  · rename_i volume
    rw [if_neg fun started => volume started.1]
    rfl

theorem beginGroup_sensorFlowArray (valve : Fin 15) (group : Program) (sensor : Fin 5) :
    (s.beginGroup now valve group).sensorFlowArray sensor =
      s.clearedSensor (if s.irrigation.deliverVolume ≠ 1 then [1, 2, 3] else []) sensor := by
  unfold beginGroup
  dsimp only
  split
  · have distinct : sensor = 0 ∨ sensor = 1 ∨ sensor = 2 ∨ sensor = 3 ∨ sensor = 4 := by
      revert sensor
      decide
    rcases distinct with rfl | rfl | rfl | rfl | rfl <;> rfl
  · rfl

/-- What a start in `READY` leaves of every flow. -/
theorem start_ready_controlFlowArray (program : Program) (isCleaning : Flag)
    (ready : s.irrigation.status = .ready) (flow : Fin 6) :
    (s.controlIrrigationTempStart now program isCleaning).controlFlowArray flow =
      if flow ∈ program.startedFlows s then
        if program = .garden then
          s.startedFlow now flow 0 (s.irrigation.timeProgramDuration / 1000).toUInt16
        else s.startedFlow now flow s.irrigation.deliverVolume s.irrigation.deliverTime
      else s.controlFlowArray flow := by
  have group (assigned : Controller) (valve : Fin 15) (stage : Program)
      (flows : assigned.controlFlowArray = s.controlFlowArray)
      (sensors : assigned.sensorFlowArray = s.sensorFlowArray)
      (volume : assigned.irrigation.deliverVolume = s.irrigation.deliverVolume)
      (time : assigned.irrigation.deliverTime = s.irrigation.deliverTime) :
      (assigned.beginGroup now valve stage).controlFlowArray flow =
        if flow ∈ Program.group1.startedFlows s then
          s.startedFlow now flow s.irrigation.deliverVolume s.irrigation.deliverTime
        else s.controlFlowArray flow := by
    rw [beginGroup_controlFlowArray, volume, time, flows, startedFlow, startedFlow, flows, sensors,
      Program.startedFlows]
    by_cases started : s.irrigation.deliverVolume ≠ 1 <;> simp [started]
  unfold controlIrrigationTempStart
  rw [if_neg (by simp [ready])]
  cases program with
  | group1 => exact group (s.startAssign .group1 isCleaning) 10 .group1 rfl rfl rfl rfl
  | group2 => exact group (s.startAssign .group2 isCleaning) 11 .group2 rfl rfl rfl rfl
  | both =>
      exact group ((s.startAssign .both isCleaning).startAssign .group1 isCleaning) 10 .group1 rfl
        rfl rfl rfl
  | garden =>
      change
        ((s.startAssign .garden isCleaning).controlFlowStart now 5 0 _).controlFlowArray flow = _
      rw [controlFlowStart_controlFlowArray, if_pos rfl]
      simp only [Program.startedFlows, List.mem_singleton]
      by_cases own : flow = 5
      · subst own
        rfl
      · rw [if_neg own, if_neg own]
        rfl
  | cleaning | unknown => rfl

/-- What it leaves of every sensor. -/
theorem start_ready_sensorFlowArray (program : Program) (isCleaning : Flag)
    (ready : s.irrigation.status = .ready) (sensor : Fin 5) :
    (s.controlIrrigationTempStart now program isCleaning).sensorFlowArray sensor =
      s.clearedSensor (program.clearedSensors s) sensor := by
  unfold controlIrrigationTempStart
  rw [if_neg (by simp [ready])]
  cases program with
  | group1 =>
      exact beginGroup_sensorFlowArray now (s.startAssign .group1 isCleaning) 10 .group1 sensor
  | group2 =>
      exact beginGroup_sensorFlowArray now (s.startAssign .group2 isCleaning) 11 .group2 sensor
  | both =>
      exact beginGroup_sensorFlowArray now
        ((s.startAssign .both isCleaning).startAssign .group1 isCleaning) 10 .group1 sensor
  | garden =>
      exact controlFlowStart_sensorFlowArray now (s.startAssign .garden isCleaning) 5 0 _ sensor
  | cleaning | unknown => rfl

end

end Controller

/-! ## Operations -/

namespace Operation

/-- The program whose start branch an operation runs in `READY`. The cleaning program, which ends a
group, has no flows and is left out. -/
def begunProgram (now : Nat) (s : Controller) : Operation → Option Program
  | .start program _ => if s.irrigation.status = .ready then some program else none
  | .irrigationUpdate =>
      match s.irrigation.status with
      | .preparing =>
          if s.GeneratorWaiting now ∨ s.irrigation.isStopped ≠ 0 then none
          else some s.irrigation.program
      | .ready =>
          if ¬ s.IsFaulty ∧ s.irrigation.program = .both ∧
              ¬ s.StageRunning now s.irrigation.timeProgramDuration ∧ s.IsOn 10 then
            some .group2
          else none
      | _ => none
  | _ => none

/-- The flows that an operation calls `control_flow_start` for. -/
def flowsStarted (now : Nat) (s : Controller) : Operation → List (Fin 6)
  | .flowStart flow _ _ => [flow]
  | operation => (operation.begunProgram now s).elim [] fun program => program.startedFlows s

/-- The sensors whose totals an operation sets to zero. -/
def sensorsCleared (now : Nat) (s : Controller) : Operation → List (Fin 5)
  | .flowStart flow _ _ => [controlFlowSensor flow]
  | operation => (operation.begunProgram now s).elim [] fun program => program.clearedSensors s

/-- The operations that count pulses or write a sensor's variables. -/
def WritesSensor : Operation → Prop
  | .sensorFlowUpdate | .sensorInterrupt _ | .pulsesTotalSet _ _
  | .assign (.pulsesPerLiter _ _) => True
  | _ => False

/-- A started flow's own total is cleared. -/
theorem sensor_cleared {operation : Operation} {now : Nat} {s : Controller} {flow : Fin 6}
    (started : flow ∈ operation.flowsStarted now s) :
    controlFlowSensor flow ∈ operation.sensorsCleared now s := by
  have begun (program : Option Program)
      (listed : flow ∈ program.elim [] fun program => program.startedFlows s) :
      controlFlowSensor flow ∈ program.elim [] fun program => program.clearedSensors s := by
    cases program with
    | none => exact absurd listed List.not_mem_nil
    | some begun => exact Program.sensor_cleared listed
  cases operation with
  | flowStart flow' volume time =>
      obtain rfl := List.mem_singleton.mp started
      exact List.mem_singleton.mpr rfl
  | start program isCleaning => exact begun ((start program isCleaning).begunProgram now s) started
  | irrigationUpdate => exact begun (irrigationUpdate.begunProgram now s) started
  | _ => exact absurd started List.not_mem_nil

end Operation

namespace Controller

/-- The flow has the target, the limit and the window that it had. -/
structure KeepsRecord (flow : Fin 6) (before after : Controller) : Prop where
  target : (after.controlFlowArray flow).pulsesToDeliver =
    (before.controlFlowArray flow).pulsesToDeliver
  limit : (after.controlFlowArray flow).timeToDeliver =
    (before.controlFlowArray flow).timeToDeliver
  last : (after.controlFlowArray flow).pulsesLast = (before.controlFlowArray flow).pulsesLast

namespace KeepsRecord

variable {flow : Fin 6} {first second third : Controller} {now : Nat} {s : Controller}

theorem of_eq (same : second.controlFlowArray flow = first.controlFlowArray flow) :
    KeepsRecord flow first second := by
  constructor <;> rw [same]

theorem trans (before : KeepsRecord flow first second) (after : KeepsRecord flow second third) :
    KeepsRecord flow first third :=
  ⟨after.target.trans before.target, after.limit.trans before.limit, after.last.trans before.last⟩

/-- Another record of a flow with the same three fields. -/
theorem setFlow {other : Fin 6} {value : ControlFlow}
    (target : value.pulsesToDeliver = (s.controlFlowArray other).pulsesToDeliver)
    (limit : value.timeToDeliver = (s.controlFlowArray other).timeToDeliver)
    (last : value.pulsesLast = (s.controlFlowArray other).pulsesLast) :
    KeepsRecord flow s (s.setFlow other value) := by
  by_cases own : flow = other
  · subst own
    constructor <;> simpa [Controller.setFlow]
  · constructor <;> simp [Controller.setFlow, own]

theorem withIrrigation (change : Irrigation → Irrigation) :
    KeepsRecord flow s (s.withIrrigation change) := .of_eq rfl

theorem controlFlowStop (other : Fin 6) : KeepsRecord flow s (s.controlFlowStop now other) := by
  by_cases own : flow = other
  · subst own
    constructor <;> simp
  · constructor <;> simp [own]

theorem controlFlowPause (other : Fin 6) (isPause : Flag) :
    KeepsRecord flow s (s.controlFlowPause now other isPause) := by
  unfold Controller.controlFlowPause
  dsimp only
  split
  · have toggled : KeepsRecord flow s (s.deviceToggle now (controlFlowDevice other) 0) := .of_eq rfl
    exact toggled.trans (.setFlow rfl rfl rfl)
  · exact .setFlow rfl rfl rfl

theorem reviveFlow (other : Fin 6) : KeepsRecord flow s (s.reviveFlow other) :=
  .setFlow rfl rfl rfl

theorem forceStop : KeepsRecord flow s (s.controlIrrigationTempForceStop now) := by
  have stopped : KeepsRecord flow s (s.controlSafetyDevicesStop now) := .of_eq (by simp)
  unfold controlIrrigationTempForceStop
  exact (((stopped.trans (.controlFlowStop 1)).trans (.controlFlowStop 2)).trans
    (.controlFlowStop 5)).trans (.withIrrigation _)

theorem resumeGroup (valve : Fin 15) : KeepsRecord flow s (s.resumeGroup now valve) := by
  have opened : KeepsRecord flow s
      (((s.restoreProgramStart now).deviceToggle now 2 1).deviceToggle now valve 1) := .of_eq rfl
  unfold Controller.resumeGroup
  dsimp only
  split
  · exact ((opened.trans (.reviveFlow 1)).trans (.reviveFlow 2)).trans (.of_eq rfl)
  · exact opened

/-- A resume starts no flow anew. -/
theorem resume : KeepsRecord flow s (s.controlIrrigationTempResume now) := by
  unfold controlIrrigationTempResume
  split
  · exact .of_eq rfl
  · split
    · exact .of_eq rfl
    · have resumed : KeepsRecord flow s
          (s.withIrrigation fun irrigation => { irrigation with isStopped := 0 }) := .of_eq rfl
      cases s.irrigation.programCurrent with
      | group1 => exact resumed.trans (.resumeGroup 10)
      | group2 => exact resumed.trans (.resumeGroup 11)
      | garden =>
          have restored : KeepsRecord flow s ((s.withIrrigation fun irrigation =>
              { irrigation with isStopped := 0 }).restoreProgramStart now) := .of_eq rfl
          exact restored.trans (.reviveFlow 5)
      | cleaning | both | unknown => exact .of_eq rfl

end KeepsRecord

/-- What an operation leaves of a flow. -/
inductive FlowOutcome [FlowArithmetic] (now : Nat) (started : List (Fin 6)) (flow : Fin 6)
    (before after : Controller) : Prop where
  | starts (listed : flow ∈ started) (volume time : UInt16)
      (record : after.controlFlowArray flow = before.startedFlow now flow volume time)
  | keeps (spared : flow ∉ started) (record : KeepsRecord flow before after)

section

variable [FlowArithmetic] (now : Nat) (s : Controller)

/-- Only the flows and the sensors matter. -/
theorem FlowOutcome.congr {now : Nat} {started : List (Fin 6)} {flow : Fin 6}
    {first second t : Controller} (outcome : FlowOutcome now started flow first second)
    (flows : first.controlFlowArray = s.controlFlowArray)
    (sensors : first.sensorFlowArray = s.sensorFlowArray)
    (after : second.controlFlowArray = t.controlFlowArray) :
    FlowOutcome now started flow s t := by
  cases outcome with
  | starts listed volume time record =>
      rw [startedFlow, flows, sensors, after] at record
      exact .starts listed volume time record
  | keeps spared record =>
      obtain ⟨target, limit, last⟩ := record
      rw [flows, after] at target limit last
      exact .keeps spared ⟨target, limit, last⟩

/-- A start in `READY` starts the flows of its program. -/
theorem FlowOutcome.start (program : Program) (isCleaning : Flag)
    (ready : s.irrigation.status = .ready) (flow : Fin 6) :
    FlowOutcome now (program.startedFlows s) flow s
      (s.controlIrrigationTempStart now program isCleaning) := by
  have record := start_ready_controlFlowArray now s program isCleaning ready flow
  split at record
  · rename_i listed
    split at record
    · exact .starts listed _ _ record
    · exact .starts listed _ _ record
  · rename_i spared
    exact .keeps spared (.of_eq record)

theorem cleanOrFinish_controlFlowArray (isCleaning : Flag) (ready : s.irrigation.status = .ready)
    (flow : Fin 6) : (s.cleanOrFinish now isCleaning).controlFlowArray flow =
      s.controlFlowArray flow := by
  unfold cleanOrFinish
  split
  · rw [start_ready_controlFlowArray now s .cleaning isCleaning ready]
    rfl
  · rfl

theorem cleanOrFinish_sensorFlowArray (isCleaning : Flag) (ready : s.irrigation.status = .ready)
    (sensor : Fin 5) : (s.cleanOrFinish now isCleaning).sensorFlowArray sensor =
      s.sensorFlowArray sensor := by
  unfold cleanOrFinish
  split
  · rw [start_ready_sensorFlowArray now s .cleaning isCleaning ready]
    rfl
  · rfl

end

end Controller

/-! ## What operations leave of flows and sensors -/

section

open Controller

variable [FlowArithmetic] (now : Nat) (s : Controller)

/-- `control_irrigation_temp_update` starts the flows of the program that it begins, and clears
their sensors. -/
theorem update_outcome (flow : Fin 6) (sensor : Fin 5) :
    FlowOutcome now (Operation.irrigationUpdate.flowsStarted now s) flow s
        (s.controlIrrigationTempUpdate now) ∧
      (s.controlIrrigationTempUpdate now).sensorFlowArray sensor =
        s.clearedSensor (Operation.irrigationUpdate.sensorsCleared now s) sensor := by
  have beside {t : Controller} (none : Operation.irrigationUpdate.begunProgram now s = none)
      (record : KeepsRecord flow s t)
      (sensors : t.sensorFlowArray sensor = s.sensorFlowArray sensor) :
      FlowOutcome now (Operation.irrigationUpdate.flowsStarted now s) flow s t ∧
        t.sensorFlowArray sensor =
          s.clearedSensor (Operation.irrigationUpdate.sensorsCleared now s) sensor := by
    simp only [Operation.flowsStarted, Operation.sensorsCleared, none, Option.elim_none]
    exact ⟨.keeps List.not_mem_nil record, sensors⟩
  have begun {program : Program} {t : Controller}
      (some : Operation.irrigationUpdate.begunProgram now s = some program)
      (outcome : FlowOutcome now (program.startedFlows s) flow s t)
      (sensors : t.sensorFlowArray sensor = s.clearedSensor (program.clearedSensors s) sensor) :
      FlowOutcome now (Operation.irrigationUpdate.flowsStarted now s) flow s t ∧
        t.sensorFlowArray sensor =
          s.clearedSensor (Operation.irrigationUpdate.sensorsCleared now s) sensor := by
    simp only [Operation.flowsStarted, Operation.sensorsCleared, some, Option.elim_some]
    exact ⟨outcome, sensors⟩
  have step := updateStep now s
  generalize s.controlIrrigationTempUpdate now = t at step ⊢
  cases step with
  | idle status => exact beside (by simp [Operation.begunProgram, status]) (.of_eq rfl) rfl
  | warming status waiting =>
      exact beside (by simp [Operation.begunProgram, status, waiting]) (.of_eq rfl) rfl
  | cooling status => exact beside (by simp [Operation.begunProgram, status]) (.of_eq rfl) rfl
  | shuts status => exact beside (by simp [Operation.begunProgram, status]) (.of_eq rfl) rfl
  | stops status faulty =>
      have none : Operation.irrigationUpdate.begunProgram now s = none := by
        rcases status with status | status <;> simp [Operation.begunProgram, status, faulty]
      refine beside none .forceStop ?_
      simp [controlIrrigationTempForceStop]
  | begins status expired =>
      unfold beginProgram
      split
      · rename_i running
        have program : Operation.irrigationUpdate.begunProgram now s =
            some s.irrigation.program := by
          simp [Operation.begunProgram, status, expired, running]
        refine begun program ?_ ?_
        · exact (FlowOutcome.start now (s.beginPumping now) _ _ rfl flow).congr s rfl rfl rfl
        · exact start_ready_sensorFlowArray now (s.beginPumping now) _ _ rfl sensor
      · rename_i stopped
        have none : Operation.irrigationUpdate.begunProgram now s = none := by
          simp [Operation.begunProgram, status, stopped]
        have pumping : KeepsRecord flow s (s.beginPumping now) := .of_eq rfl
        exact beside none (pumping.trans .resume) (by rw [resume_sensorFlowArray]; rfl)
  | runs status sound =>
      have turn := programTurn now s
      generalize s.updateProgram now = u at turn ⊢
      have other (next : ¬ (s.irrigation.program = .both ∧
          ¬ s.StageRunning now s.irrigation.timeProgramDuration ∧ s.IsOn 10)) :
          Operation.irrigationUpdate.begunProgram now s = none := by
        simp only [Operation.begunProgram, status]
        exact if_neg fun met => next met.2
      cases turn with
      | waits running =>
          refine beside (other fun met => running ?_) (.of_eq rfl) rfl
          unfold StageOver stageDuration
          rw [met.1]
          exact met.2.1
      | endless program =>
          refine beside (other fun met => program ?_) (.of_eq rfl) rfl
          rw [met.1]
          trivial
      | groupOver valve expired group =>
          refine beside (other fun met => ?_) (.of_eq ?_) ?_
          · rcases group with ⟨program, -⟩ | ⟨program, -⟩
            · exact Program.noConfusion (program.symm.trans met.1)
            · exact Program.noConfusion (program.symm.trans met.1)
          · exact cleanOrFinish_controlFlowArray now
              ((s.deviceToggle now 2 0).deviceToggle now valve 0) 1 status flow
          · exact cleanOrFinish_sensorFlowArray now
              ((s.deviceToggle now 2 0).deviceToggle now valve 0) 1 status sensor
      | bothNext expired program first =>
          have past : ¬ s.StageRunning now s.irrigation.timeProgramDuration := by
            unfold StageOver stageDuration at expired
            rwa [program] at expired
          have begins : Operation.irrigationUpdate.begunProgram now s = some .group2 := by
            simp only [Operation.begunProgram, status]
            exact if_pos ⟨sound, program, past, first⟩
          refine begun begins ?_ ?_
          · exact (FlowOutcome.start now (s.deviceToggle now 10 0) .group2 _ status flow).congr s
              rfl rfl rfl
          · exact start_ready_sensorFlowArray now (s.deviceToggle now 10 0) .group2 _ status sensor
      | bothOver expired program second =>
          refine beside (other fun met => second met.2.2) (.of_eq ?_) ?_
          · exact cleanOrFinish_controlFlowArray now
              ((s.deviceToggle now 2 0).deviceToggle now 11 0) _ status flow
          · exact cleanOrFinish_sensorFlowArray now
              ((s.deviceToggle now 2 0).deviceToggle now 11 0) _ status sensor
      | washFirst expired program | washSecond expired program | washOver expired program =>
          exact beside (other fun met => Program.noConfusion (program.symm.trans met.1))
            (.of_eq rfl) rfl
      | gardenOver expired program =>
          exact beside (other fun met => Program.noConfusion (program.symm.trans met.1))
            (.of_eq rfl) rfl

/-- `control_irrigation_temp_start` starts the flows of its program in `READY`, and nothing
elsewhere. -/
theorem start_outcome (program : Program) (isCleaning : Flag) (flow : Fin 6) (sensor : Fin 5) :
    FlowOutcome now ((Operation.start program isCleaning).flowsStarted now s) flow s
        (s.controlIrrigationTempStart now program isCleaning) ∧
      (s.controlIrrigationTempStart now program isCleaning).sensorFlowArray sensor =
        s.clearedSensor ((Operation.start program isCleaning).sensorsCleared now s) sensor := by
  simp only [Operation.flowsStarted, Operation.sensorsCleared, Operation.begunProgram]
  by_cases ready : s.irrigation.status = .ready
  · rw [if_pos ready]
    exact ⟨.start now s program isCleaning ready flow,
      start_ready_sensorFlowArray now s program isCleaning ready sensor⟩
  · rw [if_neg ready, start_of_not_ready now s program isCleaning ready]
    exact ⟨.keeps List.not_mem_nil (.of_eq rfl), rfl⟩

/-- Every operation but `control_flow_update`, which takes windows, starts a flow or leaves its
record. -/
theorem run_outcome {operation : Operation} (other : operation ≠ .controlFlowUpdate)
    (flow : Fin 6) :
    FlowOutcome now (operation.flowsStarted now s) flow s (operation.run now s) := by
  have keeps {t : Controller} (record : KeepsRecord flow s t) : FlowOutcome now [] flow s t :=
    .keeps List.not_mem_nil record
  cases operation with
  | start program isCleaning => exact (start_outcome now s program isCleaning flow 0).1
  | irrigationUpdate => exact (update_outcome now s flow 0).1
  | flowStart started volume time =>
      have record := controlFlowStart_controlFlowArray now s started flow volume time
      by_cases own : flow = started
      · subst own
        exact .starts List.mem_cons_self volume time (record.trans (if_pos rfl))
      · exact .keeps (by simpa [Operation.flowsStarted] using own)
          (.of_eq (record.trans (if_neg own)))
  | forceStop => exact keeps .forceStop
  | resume => exact keeps .resume
  | flowStop stopped => exact keeps (.controlFlowStop stopped)
  | flowPause paused isPause => exact keeps (.controlFlowPause paused isPause)
  | assign setting => cases setting <;> exact keeps (.of_eq rfl)
  | faultyDetectionToggle | deviceToggle | pulsesTotalSet | sensorInterrupt =>
      exact keeps (.of_eq rfl)
  | deviceUpdate => exact keeps (.of_eq (by rw [← (deviceUpdate_fields now s).2.1]; rfl))
  | sensorFlowUpdate =>
      exact keeps (.of_eq (by rw [← (SensorsOnly.sensorFlowUpdate now s).controlFlowArray]; rfl))
  | sensorPressureUpdate readings =>
      exact keeps (.of_eq
        (by rw [← (SensorsOnly.sensorPressureUpdate now readings s).controlFlowArray]; rfl))
  | controlFlowUpdate => exact absurd rfl other

/-- No operation gives a flow that it does not start another target or limit. -/
theorem run_target {operation : Operation} {flow : Fin 6}
    (spared : flow ∉ operation.flowsStarted now s) :
    ((operation.run now s).controlFlowArray flow).pulsesToDeliver =
        (s.controlFlowArray flow).pulsesToDeliver ∧
      ((operation.run now s).controlFlowArray flow).timeToDeliver =
        (s.controlFlowArray flow).timeToDeliver := by
  by_cases update : operation = .controlFlowUpdate
  · subst update
    have schedule := SameSchedule.controlFlowUpdate now flow s
    exact ⟨schedule.target, schedule.limit⟩
  · cases run_outcome now s update flow with
    | starts listed => exact absurd listed spared
    | keeps _ record => exact ⟨record.target, record.limit⟩

/-- Apart from the counting of pulses and the writes to a sensor, an operation clears the sensors of
the flows that it starts, and leaves the others. -/
theorem run_sensorFlowArray {operation : Operation} (other : ¬ operation.WritesSensor)
    (sensor : Fin 5) :
    (operation.run now s).sensorFlowArray sensor =
      s.clearedSensor (operation.sensorsCleared now s) sensor := by
  cases operation with
  | start program isCleaning => exact (start_outcome now s program isCleaning 0 sensor).2
  | irrigationUpdate => exact (update_outcome now s 0 sensor).2
  | flowStart started volume time =>
      exact controlFlowStart_sensorFlowArray now s started volume time sensor
  | controlFlowUpdate =>
      exact congrFun (SameSchedule.controlFlowUpdate now 0 s).sensors sensor
  | forceStop =>
      change (s.controlIrrigationTempForceStop now).sensorFlowArray sensor = _
      simp [controlIrrigationTempForceStop]
      rfl
  | resume => exact congrFun (resume_sensorFlowArray now s) sensor
  | flowStop stopped => exact congrFun (controlFlowStop_sensorFlowArray now stopped s) sensor
  | flowPause paused isPause =>
      change (s.controlFlowPause now paused isPause).sensorFlowArray sensor = _
      unfold controlFlowPause
      dsimp only
      split <;> rfl
  | assign setting =>
      cases setting with
      | pulsesPerLiter => exact absurd trivial other
      | _ => rfl
  | faultyDetectionToggle | deviceToggle => rfl
  | deviceUpdate => exact congrFun (deviceUpdate_sensorFlowArray now s) sensor
  | sensorPressureUpdate readings =>
      exact congrFun (sensorPressureUpdate_sensorFlowArray now readings s) sensor
  | sensorFlowUpdate | sensorInterrupt | pulsesTotalSet => exact absurd trivial other

/-- The step starts the flow. -/
def StartsFlow (flow : Fin 6) (prior : List (Step Operation)) (step : Step Operation) : Prop :=
  flow ∈ step.operation.flowsStarted step.now (controller.after boot prior)

instance decidableStartsFlow (flow : Fin 6) (prior : List (Step Operation))
    (step : Step Operation) : Decidable (StartsFlow flow prior step) :=
  inferInstanceAs (Decidable (_ ∈ _))

end

end BlueberryIrrigation
