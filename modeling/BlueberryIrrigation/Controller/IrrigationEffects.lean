import BlueberryIrrigation.Controller.FlowEffects
import BlueberryIrrigation.Controller.Irrigation

/-!
# What the irrigation machine's functions do

For each function: the irrigation variables it leaves, the relays and flows it switches,
and the relays it leaves untouched. A start in `READY` and a resume in `READY` have one
closed description each, in terms of the relays a stage opens (`Program.opened`).
-/

namespace BlueberryIrrigation

/-- The stage a start in `READY` begins: `BOTH` begins with its first group. -/
def Program.firstStage : Program → Program
  | .both => .group1
  | program => program

/-- The relays that beginning a stage switches on. -/
def Program.opened : Program → List (Fin 15)
  | .group1 => [2, 10]
  | .group2 => [2, 11]
  | .cleaning => [12]
  | .both | .garden | .unknown _ => []

/-- The flows that run in a stage. -/
def Program.flows : Program → List (Fin 6)
  | .group1 | .group2 => [1, 2]
  | .garden => [5]
  | .cleaning | .both | .unknown _ => []

/-- The supplement flows run where the acid pump does, the garden flow in the garden stage. -/
theorem Program.mem_flows (stage : Program) (flow : Fin 6) :
    flow ∈ stage.flows ↔
      2 ∈ stage.opened ∧ (flow = 1 ∨ flow = 2) ∨ stage = .garden ∧ flow = 5 := by
  cases stage <;> simp [Program.flows, Program.opened]

/-- The relays a running program writes: the well pump, the acid pump and the group valves. -/
def programRelays : List (Fin 15) := [1, 2, 10, 11, 12]

namespace Controller

variable (now : Nat) (s : Controller)

/-! ## Assignments -/

section

variable (change : Irrigation → Irrigation)

@[simp] theorem withIrrigation_irrigation :
    (s.withIrrigation change).irrigation = change s.irrigation := rfl

@[simp] theorem withIrrigation_isOn (device : Fin 15) :
    (s.withIrrigation change).IsOn device ↔ s.IsOn device := Iff.rfl

@[simp] theorem withIrrigation_flowActive (flow : Fin 6) :
    (s.withIrrigation change).FlowActive flow ↔ s.FlowActive flow := Iff.rfl

@[simp] theorem withIrrigation_trace : (s.withIrrigation change).trace = s.trace := rfl

@[simp] theorem withIrrigation_sensorFlowArray :
    (s.withIrrigation change).sensorFlowArray = s.sensorFlowArray := rfl

@[simp] theorem withIrrigation_controlFlowArray :
    (s.withIrrigation change).controlFlowArray = s.controlFlowArray := rfl

@[simp] theorem withIrrigation_faultyDetectionStatus :
    (s.withIrrigation change).faultyDetectionStatus = s.faultyDetectionStatus := rfl

theorem Untouched.withIrrigation (device : Fin 15) :
    Untouched device s (s.withIrrigation change) := .of_eq rfl rfl

end

@[simp] theorem startAssign_irrigation (program : Program) (isCleaning : Flag) :
    (s.startAssign program isCleaning).irrigation =
      { s.irrigation with
        program := program
        programCurrent := program
        isCleaning := isCleaning
        timeCleaningDuration := s.irrigation.timeCleaningGroup3Duration
        isStopped := 0 } := rfl

@[simp] theorem startAssign_isOn (program : Program) (isCleaning : Flag) (device : Fin 15) :
    (s.startAssign program isCleaning).IsOn device ↔ s.IsOn device := Iff.rfl

@[simp] theorem startAssign_flowActive (program : Program) (isCleaning : Flag) (flow : Fin 6) :
    (s.startAssign program isCleaning).FlowActive flow ↔ s.FlowActive flow := Iff.rfl

@[simp] theorem beginStage_irrigation (stage : Program) :
    (s.beginStage now stage).irrigation =
      { s.irrigation with timeProgramStart := millis now } := rfl

@[simp] theorem beginStage_isOn (stage : Program) (device : Fin 15) :
    (s.beginStage now stage).IsOn device ↔ s.IsOn device := Iff.rfl

@[simp] theorem beginStage_flowActive (stage : Program) (flow : Fin 6) :
    (s.beginStage now stage).FlowActive flow ↔ s.FlowActive flow := Iff.rfl

@[simp] theorem beginStage_stagesBegun (stage : Program) :
    stagesBegun (s.beginStage now stage).trace = stagesBegun s.trace + 1 := rfl

theorem Untouched.beginStage (stage : Program) (device : Fin 15) :
    Untouched device s (s.beginStage now stage) := ⟨rfl, fun _ => rfl⟩

theorem Untouched.startAssign (program : Program) (isCleaning : Flag) (device : Fin 15) :
    Untouched device s (s.startAssign program isCleaning) := .of_eq rfl rfl

@[simp] theorem clearFault_irrigation : (s.clearFault now).irrigation = s.irrigation := rfl

@[simp] theorem clearFault_isOn (device : Fin 15) :
    (s.clearFault now).IsOn device ↔ s.IsOn device := Iff.rfl

@[simp] theorem clearFault_flowActive (flow : Fin 6) :
    (s.clearFault now).FlowActive flow ↔ s.FlowActive flow := Iff.rfl

/-! ## Preparing and finishing -/

@[simp] theorem prepareGenerator_irrigation :
    (s.prepareGenerator now).irrigation =
      { s.irrigation with timeGeneratorStart := millis now, status := .preparing } := rfl

@[simp] theorem prepareGenerator_isOn (device : Fin 15) :
    (s.prepareGenerator now).IsOn device ↔ device = 0 ∨ s.IsOn device := by
  by_cases same : device = 0 <;> simp [prepareGenerator, same]

@[simp] theorem prepareGenerator_flowActive (flow : Fin 6) :
    (s.prepareGenerator now).FlowActive flow ↔ s.FlowActive flow := Iff.rfl

@[simp] theorem prepareGenerator_lastToggle (device : Fin 15) (on : Bool) :
    lastToggle device on (s.prepareGenerator now).trace =
      if 0 = device ∧ on = true then some now else lastToggle device on s.trace := by
  simp [prepareGenerator, eq_comm]

@[simp] theorem beginPumping_irrigation :
    (s.beginPumping now).irrigation = { s.irrigation with status := .ready } := rfl

@[simp] theorem beginPumping_isOn (device : Fin 15) :
    (s.beginPumping now).IsOn device ↔ device = 1 ∨ s.IsOn device := by
  by_cases same : device = 1 <;> simp [beginPumping, same]

@[simp] theorem beginPumping_flowActive (flow : Fin 6) :
    (s.beginPumping now).FlowActive flow ↔ s.FlowActive flow := Iff.rfl

@[simp] theorem finishProgram_irrigation :
    (s.finishProgram now).irrigation =
      { s.irrigation with timeGeneratorStart := millis now, status := .finishing } := rfl

@[simp] theorem finishProgram_isOn (device : Fin 15) :
    (s.finishProgram now).IsOn device ↔ device ≠ 1 ∧ s.IsOn device := by
  by_cases same : device = 1 <;> simp [finishProgram, same]

@[simp] theorem finishProgram_flowActive (flow : Fin 6) :
    (s.finishProgram now).FlowActive flow ↔ s.FlowActive flow := Iff.rfl

@[simp] theorem finishProgram_lastToggle (device : Fin 15) (on : Bool) :
    lastToggle device on (s.finishProgram now).trace =
      if 1 = device ∧ on = false then some now else lastToggle device on s.trace := by
  cases on <;> simp [finishProgram]

@[simp] theorem prepareGenerator_stagesBegun :
    stagesBegun (s.prepareGenerator now).trace = stagesBegun s.trace := by
  simp [prepareGenerator]

@[simp] theorem beginPumping_stagesBegun :
    stagesBegun (s.beginPumping now).trace = stagesBegun s.trace := by
  simp [beginPumping]

@[simp] theorem finishProgram_stagesBegun :
    stagesBegun (s.finishProgram now).trace = stagesBegun s.trace := by
  simp [finishProgram]

/-! ## Start in `READY` -/

section Start

variable [FlowArithmetic]

/-- Outside `READY` a start is the assignments and the preparation of the generator. -/
theorem start_of_not_ready (program : Program) (isCleaning : Flag)
    (elsewhere : s.irrigation.status ≠ .ready) :
    s.controlIrrigationTempStart now program isCleaning =
      (s.startAssign program isCleaning).prepareGenerator now := if_pos elsewhere

@[simp] theorem beginGroup_irrigation (valve : Fin 15) (group : Program) :
    (s.beginGroup now valve group).irrigation =
      { s.irrigation with timeProgramStart := millis now } := by
  unfold beginGroup
  dsimp only
  split <;> rfl

@[simp] theorem beginGroup_isOn (valve : Fin 15) (group : Program) (device : Fin 15) :
    (s.beginGroup now valve group).IsOn device ↔ device = 2 ∨ device = valve ∨ s.IsOn device := by
  have opened : ((s.deviceToggle now 2 1).deviceToggle now valve 1).IsOn device ↔
      device = 2 ∨ device = valve ∨ s.IsOn device := by
    by_cases acid : device = 2 <;> by_cases own : device = valve <;> simp [acid, own]
  rw [← opened]
  unfold beginGroup
  dsimp only
  split <;> rfl

@[simp] theorem beginGroup_flowActive (valve : Fin 15) (group : Program) (flow : Fin 6) :
    (s.beginGroup now valve group).FlowActive flow ↔
      s.irrigation.deliverVolume ≠ 1 ∧ (flow = 1 ∨ flow = 2) ∨ s.FlowActive flow := by
  unfold beginGroup
  dsimp only
  rw [beginStage_flowActive]
  split
  · have started : ∀ t : Controller, ∀ total,
        (t.sensorFlowPulsesTotalSet (controlFlowSensor 3) total).FlowActive flow ↔
          t.FlowActive flow := fun _ _ => Iff.rfl
    rw [started, controlFlowStart_flowActive, controlFlowStart_flowActive,
      deviceToggle_flowActive, deviceToggle_flowActive]
    grind
  · simp_all

theorem Untouched.beginGroup {device : Fin 15} (valve : Fin 15) (group : Program)
    (acid : device ≠ 2) (own : device ≠ valve) :
    Untouched device s (s.beginGroup now valve group) := by
  have opened := (Untouched.deviceToggle acid now 1 s).trans (Untouched.deviceToggle own now 1 _)
  refine opened.trans ?_
  unfold Controller.beginGroup
  dsimp only
  split <;> exact ⟨rfl, fun _ => rfl⟩

/-- What a start in `READY` leaves in the irrigation variables. -/
theorem start_ready_irrigation (program : Program) (isCleaning : Flag)
    (ready : s.irrigation.status = .ready) :
    (s.controlIrrigationTempStart now program isCleaning).irrigation =
      { s.irrigation with
        program := program
        programCurrent := program.firstStage
        isCleaning := isCleaning
        isStopped := 0
        timeCleaningDuration := s.irrigation.timeCleaningGroup3Duration
        timeProgramStart :=
          if program.Known then millis now else s.irrigation.timeProgramStart } := by
  unfold controlIrrigationTempStart
  rw [if_neg (by simp [ready])]
  cases program with
  | group1 | group2 | both => simp [Program.firstStage, Program.Known]
  | cleaning | garden | unknown => rfl

/-- Which relays a start in `READY` leaves on. -/
theorem start_ready_isOn (program : Program) (isCleaning : Flag)
    (ready : s.irrigation.status = .ready) (device : Fin 15) :
    (s.controlIrrigationTempStart now program isCleaning).IsOn device ↔
      device ∈ program.firstStage.opened ∨ s.IsOn device := by
  unfold controlIrrigationTempStart
  rw [if_neg (by simp [ready])]
  cases program with
  | group1 | group2 | both => simp [Program.firstStage, Program.opened, or_assoc]
  | cleaning =>
      by_cases own : device = 12 <;>
        simp [Program.firstStage, Program.opened, beginCleaning, own]
  | garden => simp [Program.firstStage, Program.opened, beginGarden]
  | unknown => simp [Program.firstStage, Program.opened]

/-- Which flows a start in `READY` leaves active. -/
theorem start_ready_flowActive (program : Program) (isCleaning : Flag)
    (ready : s.irrigation.status = .ready) (flow : Fin 6) :
    (s.controlIrrigationTempStart now program isCleaning).FlowActive flow ↔
      (2 ∈ program.firstStage.opened ∧ s.irrigation.deliverVolume ≠ 1 ∧ (flow = 1 ∨ flow = 2)) ∨
        (program = .garden ∧ flow = 5) ∨ s.FlowActive flow := by
  unfold controlIrrigationTempStart
  rw [if_neg (by simp [ready])]
  cases program with
  | group1 | group2 | both => simp [Program.firstStage, Program.opened]
  | cleaning => simp [Program.firstStage, Program.opened, beginCleaning]
  | garden => simp [Program.firstStage, Program.opened, beginGarden]
  | unknown => simp [Program.firstStage, Program.opened]

@[simp] theorem beginGroup_stagesBegun (valve : Fin 15) (group : Program) :
    stagesBegun (s.beginGroup now valve group).trace = stagesBegun s.trace + 1 := by
  have opened : stagesBegun ((s.deviceToggle now 2 1).deviceToggle now valve 1).trace =
      stagesBegun s.trace := by simp
  rw [← opened]
  unfold beginGroup
  dsimp only
  split <;> rfl

/-- A start in `READY` begins one stage, unless the program byte has no enumerator. -/
theorem start_ready_stagesBegun (program : Program) (isCleaning : Flag)
    (ready : s.irrigation.status = .ready) :
    stagesBegun (s.controlIrrigationTempStart now program isCleaning).trace =
      stagesBegun s.trace + if program.Known then 1 else 0 := by
  unfold controlIrrigationTempStart
  rw [if_neg (by simp [ready])]
  cases program with
  | group1 | group2 | both => simp [Program.Known, startAssign]
  | cleaning => simp [Program.Known, startAssign, beginCleaning]
  | garden => rfl
  | unknown => rfl

/-- Both supplement flows run from the beginning of the group's stage. -/
theorem beginGroup_timeStart (valve : Fin 15) (group : Program)
    (volume : s.irrigation.deliverVolume ≠ 1) {flow : Fin 6} (supplement : flow = 1 ∨ flow = 2) :
    ((s.beginGroup now valve group).controlFlowArray flow).timeStart = millis now := by
  unfold beginGroup
  dsimp only
  rw [if_pos volume]
  rcases supplement with rfl | rfl
  · rfl
  · rfl

/-- The flows of the first stage run from its beginning. -/
theorem start_ready_timeStart (program : Program) (isCleaning : Flag)
    (ready : s.irrigation.status = .ready) (volume : s.irrigation.deliverVolume ≠ 1)
    {flow : Fin 6} (listed : flow ∈ program.firstStage.flows) :
    ((s.controlIrrigationTempStart now program isCleaning).controlFlowArray flow).timeStart =
      millis now := by
  have supplement : program.firstStage.flows = [1, 2] → flow = 1 ∨ flow = 2 := by
    intro flows
    simpa [flows] using listed
  unfold controlIrrigationTempStart
  rw [if_neg (by simp [ready])]
  cases program with
  | group1 =>
      exact beginGroup_timeStart now (s.startAssign .group1 isCleaning) 10 .group1 volume
        (supplement rfl)
  | group2 =>
      exact beginGroup_timeStart now (s.startAssign .group2 isCleaning) 11 .group2 volume
        (supplement rfl)
  | both =>
      exact beginGroup_timeStart now
        ((s.startAssign .both isCleaning).startAssign .group1 isCleaning) 10 .group1 volume
        (supplement rfl)
  | garden =>
      obtain rfl := List.mem_singleton.mp listed
      rfl
  | cleaning | unknown => exact absurd listed List.not_mem_nil

/-- A start in `READY` leaves every relay alone that its first stage does not open. -/
theorem Untouched.start_ready {device : Fin 15} (program : Program) (isCleaning : Flag)
    (ready : s.irrigation.status = .ready) (closed : device ∉ program.firstStage.opened) :
    Untouched device s (s.controlIrrigationTempStart now program isCleaning) := by
  have assigned := Untouched.startAssign s program isCleaning device
  unfold controlIrrigationTempStart
  rw [if_neg (by simp [ready])]
  cases program with
  | group1 | group2 =>
      simp only [Program.firstStage, Program.opened, List.mem_cons, not_or] at closed
      exact assigned.trans (.beginGroup now _ _ _ closed.1 closed.2.1)
  | both =>
      simp only [Program.firstStage, Program.opened, List.mem_cons, not_or] at closed
      exact ((assigned.trans (.startAssign _ .group1 isCleaning device)).trans
        (.beginGroup now _ 10 .group1 closed.1 closed.2.1)).trans (.withIrrigation _ _ device)
  | cleaning =>
      simp only [Program.firstStage, Program.opened, List.mem_singleton] at closed
      exact (assigned.trans (.deviceToggle closed now 1 _)).trans (.beginStage now _ _ device)
  | garden =>
      exact (assigned.trans (.controlFlowStart now 5 _ 0 _ device)).trans
        (.beginStage now _ _ device)
  | unknown => exact assigned

end Start

/-! ## Resume in `READY` -/

@[simp] theorem reviveFlow_irrigation (flow : Fin 6) :
    (s.reviveFlow flow).irrigation = s.irrigation := rfl

@[simp] theorem reviveFlow_isOn (flow : Fin 6) (device : Fin 15) :
    (s.reviveFlow flow).IsOn device ↔ s.IsOn device := Iff.rfl

@[simp] theorem reviveFlow_flowActive (flow other : Fin 6) :
    (s.reviveFlow flow).FlowActive other ↔ other = flow ∨ s.FlowActive other := by
  by_cases same : other = flow <;> simp [reviveFlow, same]

@[simp] theorem restoreProgramStart_irrigation :
    (s.restoreProgramStart now).irrigation =
      { s.irrigation with
        timeProgramStart :=
          millis now - (s.irrigation.timeProgramStop - s.irrigation.timeProgramStart) } := rfl

@[simp] theorem restoreProgramStart_isOn (device : Fin 15) :
    (s.restoreProgramStart now).IsOn device ↔ s.IsOn device := Iff.rfl

@[simp] theorem restoreProgramStart_flowActive (flow : Fin 6) :
    (s.restoreProgramStart now).FlowActive flow ↔ s.FlowActive flow := Iff.rfl

@[simp] theorem resumeGroup_irrigation (valve : Fin 15) :
    (s.resumeGroup now valve).irrigation =
      { s.irrigation with
        timeProgramStart :=
          millis now - (s.irrigation.timeProgramStop - s.irrigation.timeProgramStart) } := by
  unfold resumeGroup
  dsimp only
  split <;> rfl

@[simp] theorem resumeGroup_isOn (valve device : Fin 15) :
    (s.resumeGroup now valve).IsOn device ↔ device = 2 ∨ device = valve ∨ s.IsOn device := by
  unfold resumeGroup
  dsimp only
  by_cases acid : device = 2 <;> by_cases own : device = valve <;> split <;> simp [acid, own]

@[simp] theorem resumeGroup_flowActive (valve : Fin 15) (flow : Fin 6) :
    (s.resumeGroup now valve).FlowActive flow ↔
      s.irrigation.deliverVolume ≠ 1 ∧ (flow = 1 ∨ flow = 2) ∨ s.FlowActive flow := by
  unfold resumeGroup
  dsimp only
  split
  · simp only [clearFault_flowActive, reviveFlow_flowActive, deviceToggle_flowActive,
      restoreProgramStart_flowActive]
    grind
  · simp_all

theorem Untouched.resumeGroup {device : Fin 15} (valve : Fin 15) (acid : device ≠ 2)
    (own : device ≠ valve) : Untouched device s (s.resumeGroup now valve) := by
  have restored : Untouched device s (s.restoreProgramStart now) := .withIrrigation s _ device
  have opened := (restored.trans (.deviceToggle acid now 1 _)).trans (.deviceToggle own now 1 _)
  refine opened.trans ?_
  unfold Controller.resumeGroup
  dsimp only
  split <;> exact ⟨rfl, fun _ => rfl⟩

/-- Without anything stopped, a resume does nothing. -/
theorem resume_of_not_stopped (running : s.irrigation.isStopped = 0) :
    s.controlIrrigationTempResume now = s := if_pos running

/-- Outside `READY` a resume of a stopped program prepares the generator. -/
theorem resume_of_not_ready (stopped : s.irrigation.isStopped ≠ 0)
    (elsewhere : s.irrigation.status ≠ .ready) :
    s.controlIrrigationTempResume now = s.prepareGenerator now := by
  unfold controlIrrigationTempResume
  rw [if_neg stopped, if_pos elsewhere]

/-- What a resume in `READY` leaves in the irrigation variables. -/
theorem resume_ready_irrigation (stopped : s.irrigation.isStopped ≠ 0)
    (ready : s.irrigation.status = .ready) :
    (s.controlIrrigationTempResume now).irrigation =
      { s.irrigation with
        isStopped := 0
        timeCleaningDuration :=
          if s.irrigation.programCurrent = .cleaning then s.irrigation.timeCleaningGroup3Duration
          else s.irrigation.timeCleaningDuration
        timeProgramStart :=
          match s.irrigation.programCurrent with
          | .group1 | .group2 | .garden =>
              millis now - (s.irrigation.timeProgramStop - s.irrigation.timeProgramStart)
          | .cleaning => millis now
          | .both | .unknown _ => s.irrigation.timeProgramStart } := by
  unfold controlIrrigationTempResume
  rw [if_neg stopped, if_neg (by simp [ready])]
  cases current : s.irrigation.programCurrent <;> simp [current]

/-- Which relays a resume in `READY` leaves on. -/
theorem resume_ready_isOn (stopped : s.irrigation.isStopped ≠ 0)
    (ready : s.irrigation.status = .ready) (device : Fin 15) :
    (s.controlIrrigationTempResume now).IsOn device ↔
      device ∈ s.irrigation.programCurrent.opened ∨ s.IsOn device := by
  unfold controlIrrigationTempResume
  rw [if_neg stopped, if_neg (by simp [ready])]
  cases s.irrigation.programCurrent with
  | group1 | group2 => simp [Program.opened, or_assoc]
  | cleaning => by_cases own : device = 12 <;> simp [Program.opened, own]
  | garden | both | unknown => simp [Program.opened]

/-- Which flows a resume in `READY` leaves active. -/
theorem resume_ready_flowActive (stopped : s.irrigation.isStopped ≠ 0)
    (ready : s.irrigation.status = .ready) (flow : Fin 6) :
    (s.controlIrrigationTempResume now).FlowActive flow ↔
      (2 ∈ s.irrigation.programCurrent.opened ∧ s.irrigation.deliverVolume ≠ 1 ∧
          (flow = 1 ∨ flow = 2)) ∨
        (s.irrigation.programCurrent = .garden ∧ flow = 5) ∨ s.FlowActive flow := by
  unfold controlIrrigationTempResume
  rw [if_neg stopped, if_neg (by simp [ready])]
  cases s.irrigation.programCurrent <;> simp [Program.opened]

@[simp] theorem resume_sensorFlowArray :
    (s.controlIrrigationTempResume now).sensorFlowArray = s.sensorFlowArray := by
  unfold controlIrrigationTempResume
  split
  · rfl
  · split
    · rfl
    · cases s.irrigation.programCurrent with
      | group1 | group2 =>
          dsimp only
          unfold resumeGroup
          dsimp only
          split <;> rfl
      | _ => rfl

/-- A resumed group revives both supplement flows under the restored start. -/
theorem resumeGroup_controlFlowArray (valve : Fin 15) (volume : s.irrigation.deliverVolume ≠ 1)
    (flow : Fin 6) :
    (s.resumeGroup now valve).controlFlowArray flow =
      if flow = 1 ∨ flow = 2 then
        { s.controlFlowArray flow with
          isActive := 1
          timeStart := (s.resumeGroup now valve).irrigation.timeProgramStart }
      else s.controlFlowArray flow := by
  rw [resumeGroup_irrigation]
  unfold resumeGroup
  dsimp only
  rw [if_pos volume]
  by_cases first : flow = 1
  · subst first
    rfl
  · by_cases second : flow = 2
    · subst second
      rfl
    · have restored : (s.restoreProgramStart now).controlFlowArray = s.controlFlowArray := rfl
      simp [clearFault, reviveFlow, setFlow, first, second, restored]

/-- A resume in `READY` revives the flows of the stage under the restored start, and leaves every
other flow as it was. -/
theorem resume_ready_controlFlowArray (stopped : s.irrigation.isStopped ≠ 0)
    (ready : s.irrigation.status = .ready) (volume : s.irrigation.deliverVolume ≠ 1)
    (flow : Fin 6) :
    (s.controlIrrigationTempResume now).controlFlowArray flow =
      if flow ∈ s.irrigation.programCurrent.flows then
        { s.controlFlowArray flow with
          isActive := 1
          timeStart := (s.controlIrrigationTempResume now).irrigation.timeProgramStart }
      else s.controlFlowArray flow := by
  have supplement : flow ∈ ([1, 2] : List (Fin 6)) ↔ flow = 1 ∨ flow = 2 := by simp
  unfold controlIrrigationTempResume
  rw [if_neg stopped, if_neg (by simp [ready])]
  cases s.irrigation.programCurrent with
  | group1 =>
      simp only [Program.flows, supplement]
      exact resumeGroup_controlFlowArray now
        (s.withIrrigation fun irrigation => { irrigation with isStopped := 0 }) 10 volume flow
  | group2 =>
      simp only [Program.flows, supplement]
      exact resumeGroup_controlFlowArray now
        (s.withIrrigation fun irrigation => { irrigation with isStopped := 0 }) 11 volume flow
  | garden =>
      simp only [Program.flows, List.mem_singleton]
      by_cases own : flow = 5
      · subst own
        rfl
      · simp [reviveFlow, setFlow, restoreProgramStart, own]
  | cleaning | both | unknown => rfl

@[simp] theorem resumeGroup_stagesBegun (valve : Fin 15) :
    stagesBegun (s.resumeGroup now valve).trace = stagesBegun s.trace := by
  have opened : stagesBegun
      (((s.restoreProgramStart now).deviceToggle now 2 1).deviceToggle now valve 1).trace =
      stagesBegun s.trace := by simp [restoreProgramStart]
  rw [← opened]
  unfold resumeGroup
  dsimp only
  split <;> rfl

/-- A resume begins no stage. -/
theorem resume_stagesBegun :
    stagesBegun (s.controlIrrigationTempResume now).trace = stagesBegun s.trace := by
  unfold controlIrrigationTempResume
  split
  · rfl
  · split
    · simp
    · cases s.irrigation.programCurrent with
      | group1 | group2 => simp
      | cleaning => simp
      | garden | both | unknown => rfl

/-- A resume in `READY` leaves every relay alone that the resumed stage does not open. -/
theorem Untouched.resume_ready {device : Fin 15} (stopped : s.irrigation.isStopped ≠ 0)
    (ready : s.irrigation.status = .ready)
    (closed : device ∉ s.irrigation.programCurrent.opened) :
    Untouched device s (s.controlIrrigationTempResume now) := by
  unfold controlIrrigationTempResume
  rw [if_neg stopped, if_neg (by simp [ready])]
  dsimp only
  generalize s.irrigation.programCurrent = current at closed
  have resumed := Untouched.withIrrigation s
    (fun irrigation => { irrigation with isStopped := 0 }) device
  cases current with
  | group1 | group2 =>
      simp only [Program.opened, List.mem_cons, not_or] at closed
      exact resumed.trans (.resumeGroup now _ _ closed.1 closed.2.1)
  | cleaning =>
      simp only [Program.opened, List.mem_singleton] at closed
      exact (resumed.trans (.deviceToggle closed now 1 _)).trans (.withIrrigation _ _ device)
  | garden => exact resumed.trans (.of_eq rfl rfl)
  | both | unknown => exact resumed

/-! ## The program's relays -/

section Program

variable {device : Fin 15}

theorem Program.not_opened (outside : device ∉ programRelays) (program : Program) :
    device ∉ program.opened := by
  simp only [programRelays, List.mem_cons, not_or] at outside
  cases program <;> simp [Program.opened, outside]

theorem Untouched.finishProgram (pump : device ≠ 1) :
    Untouched device s (s.finishProgram now) :=
  (Untouched.deviceToggle pump now 0 s).trans (.withIrrigation _ _ device)

variable [FlowArithmetic]

theorem Untouched.cleanOrFinish (isCleaning : Flag) (ready : s.irrigation.status = .ready)
    (outside : device ∉ programRelays) : Untouched device s (s.cleanOrFinish now isCleaning) := by
  have pump : device ≠ 1 := fun same => outside (by simp [same, programRelays])
  unfold Controller.cleanOrFinish
  split
  · exact .start_ready now s .cleaning isCleaning ready (Program.not_opened outside _)
  · exact .finishProgram now s pump

/-- The end of the preparation writes the pump and the relays of the stage it begins. -/
theorem Untouched.beginProgram (outside : device ∉ programRelays) :
    Untouched device s (s.beginProgram now) := by
  have pump : device ≠ 1 := fun same => outside (by simp [same, programRelays])
  have pumping : Untouched device s (s.beginPumping now) :=
    (Untouched.deviceToggle pump now 1 s).trans (.withIrrigation _ _ device)
  unfold Controller.beginProgram
  split
  · exact pumping.trans (.start_ready now _ _ _ rfl (Program.not_opened outside _))
  · rename_i stopped
    exact pumping.trans (.resume_ready now _ stopped rfl (Program.not_opened outside _))

end Program

/-! ## The update -/

@[simp] theorem shutDown_irrigation :
    (s.shutDown now).irrigation = { s.irrigation with status := .finished } := rfl

@[simp] theorem shutDown_isOn (device : Fin 15) :
    (s.shutDown now).IsOn device ↔ device ≠ 0 ∧ s.IsOn device := by
  by_cases same : device = 0 <;> simp [shutDown, same]

@[simp] theorem shutDown_flowActive (flow : Fin 6) :
    (s.shutDown now).FlowActive flow ↔ s.FlowActive flow := Iff.rfl

@[simp] theorem shutDown_lastToggle (device : Fin 15) (on : Bool) :
    lastToggle device on (s.shutDown now).trace =
      if 0 = device ∧ on = false then some now else lastToggle device on s.trace := by
  cases on <;> simp [shutDown]

/-- The duration the current stage is compared with. -/
def stageDuration (s : Controller) : UInt32 :=
  match s.irrigation.program with
  | .cleaning => s.irrigation.timeCleaningDuration
  | _ => s.irrigation.timeProgramDuration

/-- The current stage's duration is over. -/
def StageOver (now : Nat) (s : Controller) : Prop := ¬ s.StageRunning now s.stageDuration

/-- What one turn of a running program does. -/
inductive ProgramTurn [FlowArithmetic] (now : Nat) (s : Controller) : Controller → Prop where
  | waits (running : ¬ s.StageOver now) : ProgramTurn now s s
  | endless (program : ¬ s.irrigation.program.Known) : ProgramTurn now s s
  | groupOver (valve : Fin 15) (expired : s.StageOver now)
      (group : s.irrigation.program = .group1 ∧ valve = 10 ∨
        s.irrigation.program = .group2 ∧ valve = 11) :
      ProgramTurn now s (((s.deviceToggle now 2 0).deviceToggle now valve 0).cleanOrFinish now 1)
  | bothNext (expired : s.StageOver now) (program : s.irrigation.program = .both)
      (first : s.IsOn 10) :
      ProgramTurn now s
        (((s.deviceToggle now 10 0).controlIrrigationTempStart now .group2
          s.irrigation.isCleaning).withIrrigation
            fun irrigation => { irrigation with program := .both })
  | bothOver (expired : s.StageOver now) (program : s.irrigation.program = .both)
      (second : ¬ s.IsOn 10) :
      ProgramTurn now s
        (((s.deviceToggle now 2 0).deviceToggle now 11 0).cleanOrFinish now
          s.irrigation.isCleaning)
  | washFirst (expired : s.StageOver now) (program : s.irrigation.program = .cleaning)
      (closed : ¬ s.IsOn 10 ∧ ¬ s.IsOn 11) :
      ProgramTurn now s
        (((s.deviceToggle now 12 0).deviceToggle now 10 1).withIrrigation fun irrigation =>
          { irrigation with
            timeProgramStart := millis now
            timeCleaningDuration := irrigation.timeCleaningGroup12Duration })
  | washSecond (expired : s.StageOver now) (program : s.irrigation.program = .cleaning)
      (first : s.IsOn 10) :
      ProgramTurn now s
        (((s.deviceToggle now 10 0).deviceToggle now 11 1).withIrrigation fun irrigation =>
          { irrigation with timeProgramStart := millis now })
  | washOver (expired : s.StageOver now) (program : s.irrigation.program = .cleaning)
      (second : ¬ s.IsOn 10 ∧ s.IsOn 11) :
      ProgramTurn now s
        (((s.deviceToggle now 1 0).deviceToggle now 11 0).withIrrigation fun irrigation =>
          { irrigation with
            timeGeneratorStart := millis now
            timeCleaningDuration := irrigation.timeCleaningGroup3Duration
            status := .finishing })
  | gardenOver (expired : s.StageOver now) (program : s.irrigation.program = .garden) :
      ProgramTurn now s (s.finishProgram now)

/-- While the stage's duration runs, a turn does nothing. -/
theorem updateProgram_of_running [FlowArithmetic] (still : ¬ s.StageOver now) :
    s.updateProgram now = s := by
  have running : s.StageRunning now s.stageDuration := not_not.mp still
  unfold stageDuration at running
  unfold updateProgram
  cases program : s.irrigation.program with
  | group1 | group2 | both | cleaning | garden =>
      rw [program] at running
      exact if_pos running
  | unknown => rfl

theorem programTurn [FlowArithmetic] : ProgramTurn now s (s.updateProgram now) := by
  by_cases expired : s.StageOver now
  · have past := expired
    unfold StageOver stageDuration at past
    unfold updateProgram
    cases program : s.irrigation.program with
    | group1 =>
        rw [program] at past
        dsimp only
        rw [updateGroup, if_neg past]
        exact .groupOver 10 expired (.inl ⟨program, rfl⟩)
    | group2 =>
        rw [program] at past
        dsimp only
        rw [updateGroup, if_neg past]
        exact .groupOver 11 expired (.inr ⟨program, rfl⟩)
    | both =>
        rw [program] at past
        dsimp only
        rw [updateBoth, if_neg past]
        by_cases first : s.IsOn 10
        · rw [if_pos first]
          exact .bothNext expired program first
        · rw [if_neg first]
          exact .bothOver expired program first
    | cleaning =>
        rw [program] at past
        dsimp only
        rw [updateCleaning, if_neg past]
        by_cases first : s.IsOn 10
        · rw [if_pos first]
          exact .washSecond expired program first
        · rw [if_neg first]
          by_cases second : s.IsOn 11
          · rw [if_pos second]
            exact .washOver expired program ⟨first, second⟩
          · rw [if_neg second]
            exact .washFirst expired program ⟨first, second⟩
    | garden =>
        rw [program] at past
        dsimp only
        rw [updateGarden, if_neg past]
        exact .gardenOver expired program
    | unknown excess => exact .endless (by simp [program, Program.Known])
  · rw [updateProgram_of_running now s expired]
    exact .waits expired

/-! ## What a turn leaves alone -/

/-- A running program writes the relays of the pump, the acid pump and the group valves, and
no other. -/
theorem Untouched.updateProgram [FlowArithmetic] {device : Fin 15}
    (ready : s.irrigation.status = .ready) (outside : device ∉ programRelays) :
    Untouched device s (s.updateProgram now) := by
  have toggled : ∀ (other : Fin 15) (isActive : Flag) (t : Controller), other ∈ programRelays →
      Untouched device t (t.deviceToggle now other isActive) := fun other isActive t inside =>
    .deviceToggle (fun same : device = other => outside (same ▸ inside)) now isActive t
  have turn := programTurn now s
  generalize s.updateProgram now = t at turn ⊢
  cases turn with
  | waits | endless => exact .refl device s
  | groupOver valve expired group =>
      have inside : valve ∈ programRelays := by
        rcases group with ⟨-, rfl⟩ | ⟨-, rfl⟩ <;> decide
      exact ((toggled 2 0 s (by decide)).trans (toggled valve 0 _ inside)).trans
        (.cleanOrFinish now _ 1 ready outside)
  | bothNext =>
      exact ((toggled 10 0 s (by decide)).trans
        (.start_ready now _ .group2 _ ready (Program.not_opened outside _))).trans
        (.withIrrigation _ _ device)
  | bothOver =>
      exact ((toggled 2 0 s (by decide)).trans (toggled 11 0 _ (by decide))).trans
        (.cleanOrFinish now _ _ ready outside)
  | washFirst =>
      exact ((toggled 12 0 s (by decide)).trans (toggled 10 1 _ (by decide))).trans
        (.withIrrigation _ _ device)
  | washSecond =>
      exact ((toggled 10 0 s (by decide)).trans (toggled 11 1 _ (by decide))).trans
        (.withIrrigation _ _ device)
  | washOver =>
      exact ((toggled 1 0 s (by decide)).trans (toggled 11 0 _ (by decide))).trans
        (.withIrrigation _ _ device)
  | gardenOver =>
      exact .finishProgram now s fun same => outside (by simp [same, programRelays])

/-! ## What a turn does to the power -/

/-- The turn that ends a program: the pump goes off and the cool-down begins. -/
structure TurnsOff (now : Nat) (before after : Controller) : Prop where
  status : after.irrigation.status = .finishing
  pump : ¬ after.IsOn 1
  off : lastToggle 1 false after.trace = some now
  start : after.irrigation.timeGeneratorStart = millis now
  generator : before.IsOn 0 → after.IsOn 0
  stopped : before.irrigation.isStopped = 0 → after.irrigation.isStopped = 0
  well : after.FlowActive 0 → before.FlowActive 0

/-- A turn that goes on with the program: nothing is switched off. -/
structure StaysReady (before after : Controller) : Prop where
  status : after.irrigation.status = .ready
  generator : before.IsOn 0 → after.IsOn 0
  pump : before.IsOn 1 → after.IsOn 1
  stopped : before.irrigation.isStopped = 0 → after.irrigation.isStopped = 0
  well : after.FlowActive 0 → before.FlowActive 0

/-- What one turn of a running program can do to the power. -/
def Turn (now : Nat) (before after : Controller) : Prop :=
  StaysReady before after ∨ TurnsOff now before after

/-- Switching other relays first makes no difference. -/
theorem Turn.after_toggle {now : Nat} {s t : Controller} {device : Fin 15} {isActive : Flag}
    (generator : device ≠ 0) (pump : device ≠ 1)
    (turn : Turn now (s.deviceToggle now device isActive) t) : Turn now s t := by
  have on : ∀ other : Fin 15, other ≠ device → s.IsOn other →
      (s.deviceToggle now device isActive).IsOn other := by
    intro other different on
    simp [different, on]
  rcases turn with ⟨status, zero, one, stopped, well⟩ |
    ⟨status, off, toggled, start, zero, stopped, well⟩
  · exact .inl ⟨status, zero ∘ on 0 (Ne.symm generator), one ∘ on 1 (Ne.symm pump), stopped, well⟩
  · exact .inr ⟨status, off, toggled, start, zero ∘ on 0 (Ne.symm generator), stopped, well⟩

section

variable [FlowArithmetic]

theorem StaysReady.start (program : Program) (isCleaning : Flag)
    (ready : s.irrigation.status = .ready) :
    StaysReady s (s.controlIrrigationTempStart now program isCleaning) where
  status := by
    rw [start_ready_irrigation _ _ _ _ ready]
    exact ready
  generator on := (start_ready_isOn _ _ _ _ ready 0).mpr (.inr on)
  pump on := (start_ready_isOn _ _ _ _ ready 1).mpr (.inr on)
  stopped _ := by rw [start_ready_irrigation _ _ _ _ ready]
  well := by
    rw [start_ready_flowActive _ _ _ _ ready]
    simp

theorem turn_cleanOrFinish (isCleaning : Flag) (ready : s.irrigation.status = .ready) :
    Turn now s (s.cleanOrFinish now isCleaning) := by
  unfold cleanOrFinish
  split
  · exact .inl (.start now s .cleaning isCleaning ready)
  · exact .inr ⟨rfl, by simp, by simp, rfl, by simp, by simp, by simp⟩

/-- Every turn either goes on with the program or turns the power down. -/
theorem turn_updateProgram (ready : s.irrigation.status = .ready) :
    Turn now s (s.updateProgram now) := by
  have turn := programTurn now s
  generalize s.updateProgram now = t at turn ⊢
  cases turn with
  | waits | endless => exact .inl ⟨ready, id, id, id, id⟩
  | groupOver valve _ group =>
      have other : valve ≠ 0 ∧ valve ≠ 1 := by
        rcases group with ⟨_, rfl⟩ | ⟨_, rfl⟩ <;> decide
      exact .after_toggle (by decide) (by decide)
        (.after_toggle other.1 other.2 (turn_cleanOrFinish now _ 1 ready))
  | bothNext =>
      obtain ⟨status, generator, pump, stopped, well⟩ :=
        StaysReady.start now (s.deviceToggle now 10 0) .group2 s.irrigation.isCleaning ready
      exact .after_toggle (by decide) (by decide) (.inl ⟨status, generator, pump, stopped, well⟩)
  | bothOver =>
      exact .after_toggle (by decide) (by decide)
        (.after_toggle (by decide) (by decide) (turn_cleanOrFinish now _ _ ready))
  | washFirst | washSecond => exact .inl ⟨ready, by simp, by simp, id, id⟩
  | washOver => exact .inr ⟨rfl, by simp, by simp, rfl, by simp, id, id⟩
  | gardenOver => exact .inr ⟨rfl, by simp, by simp, rfl, by simp, by simp, by simp⟩

end

/-- Cleaning or finishing moves no flow. -/
theorem cleanOrFinish_flowActive [FlowArithmetic] (isCleaning : Flag)
    (ready : s.irrigation.status = .ready) (flow : Fin 6) :
    (s.cleanOrFinish now isCleaning).FlowActive flow ↔ s.FlowActive flow := by
  unfold cleanOrFinish
  split
  · rw [start_ready_flowActive now s .cleaning isCleaning ready]
    simp [Program.firstStage, Program.opened]
  · simp

/-- A turn of the program starts the supplement flows of a second group at most, and ends no
flow. -/
theorem updateProgram_flowActive [FlowArithmetic] (ready : s.irrigation.status = .ready)
    (flow : Fin 6) :
    (s.FlowActive flow → (s.updateProgram now).FlowActive flow) ∧
      ((s.updateProgram now).FlowActive flow → flow = 1 ∨ flow = 2 ∨ s.FlowActive flow) := by
  have turn := programTurn now s
  generalize s.updateProgram now = t at turn ⊢
  cases turn with
  | waits | endless => exact ⟨id, fun active => .inr (.inr active)⟩
  | groupOver valve =>
      have kept := cleanOrFinish_flowActive now
        ((s.deviceToggle now 2 0).deviceToggle now valve 0) 1 ready flow
      exact ⟨kept.mpr, fun active => .inr (.inr (kept.mp active))⟩
  | bothNext =>
      have started := start_ready_flowActive now (s.deviceToggle now 10 0) .group2
        s.irrigation.isCleaning ready flow
      refine ⟨fun active => started.mpr (.inr (.inr active)), fun active => ?_⟩
      rcases started.mp active with ⟨_, _, first | second⟩ | ⟨garden, _⟩ | before
      · exact .inl first
      · exact .inr (.inl second)
      · exact absurd garden (by decide)
      · exact .inr (.inr before)
  | bothOver =>
      have kept := cleanOrFinish_flowActive now
        ((s.deviceToggle now 2 0).deviceToggle now 11 0) s.irrigation.isCleaning ready flow
      exact ⟨kept.mpr, fun active => .inr (.inr (kept.mp active))⟩
  | washFirst | washSecond | washOver | gardenOver =>
      exact ⟨id, fun active => .inr (.inr active)⟩

/-- The preparation ends in `READY`, by a start as by a resume. -/
@[simp] theorem beginProgram_status [FlowArithmetic] :
    (s.beginProgram now).irrigation.status = .ready := by
  unfold beginProgram
  split
  · rw [start_ready_irrigation now _ _ _ rfl]
    rfl
  · have stopped : (s.beginPumping now).irrigation.isStopped ≠ 0 := by assumption
    rw [resume_ready_irrigation now _ stopped rfl]
    rfl

@[simp] theorem shutDown_stagesBegun :
    stagesBegun (s.shutDown now).trace = stagesBegun s.trace := by
  simp [shutDown]

/-- The stage the end of the preparation begins or goes on with. -/
def stageToBegin (s : Controller) : Program :=
  if s.irrigation.isStopped = 0 then s.irrigation.program.firstStage
  else s.irrigation.programCurrent

theorem firstStage_garden (program : Program) :
    program.firstStage = .garden ↔ program = .garden := by
  cases program <;> simp [Program.firstStage]

/-- The pump and the relays of the stage go on, the rest is as it was. -/
theorem beginProgram_isOn [FlowArithmetic] (device : Fin 15) :
    (s.beginProgram now).IsOn device ↔
      device ∈ s.stageToBegin.opened ∨ device = 1 ∨ s.IsOn device := by
  unfold beginProgram stageToBegin
  split
  · rw [start_ready_isOn now (s.beginPumping now) _ _ rfl, beginPumping_isOn]
  · have stopped : (s.beginPumping now).irrigation.isStopped ≠ 0 := by assumption
    rw [resume_ready_isOn now (s.beginPumping now) stopped rfl, beginPumping_isOn]
    rfl

/-- The flows of the stage are active, the rest is as it was. -/
theorem beginProgram_flowActive [FlowArithmetic] (flow : Fin 6) :
    (s.beginProgram now).FlowActive flow ↔
      (2 ∈ s.stageToBegin.opened ∧ s.irrigation.deliverVolume ≠ 1 ∧ (flow = 1 ∨ flow = 2)) ∨
        (s.stageToBegin = .garden ∧ flow = 5) ∨ s.FlowActive flow := by
  unfold beginProgram stageToBegin
  split
  · rw [start_ready_flowActive now (s.beginPumping now) _ _ rfl, firstStage_garden]
    rfl
  · have stopped : (s.beginPumping now).irrigation.isStopped ≠ 0 := by assumption
    rw [resume_ready_flowActive now (s.beginPumping now) stopped rfl]
    rfl

@[simp] theorem beginProgram_programCurrent [FlowArithmetic] :
    (s.beginProgram now).irrigation.programCurrent = s.stageToBegin := by
  unfold beginProgram stageToBegin
  split
  · rw [start_ready_irrigation now (s.beginPumping now) _ _ rfl]
  · have stopped : (s.beginPumping now).irrigation.isStopped ≠ 0 := by assumption
    rw [resume_ready_irrigation now (s.beginPumping now) stopped rfl]
    rfl

/-- The flows of the stage run from the start that the program shows. -/
theorem beginProgram_timeStart [FlowArithmetic] (volume : s.irrigation.deliverVolume ≠ 1)
    {flow : Fin 6} (listed : flow ∈ s.stageToBegin.flows) :
    ((s.beginProgram now).controlFlowArray flow).timeStart =
      (s.beginProgram now).irrigation.timeProgramStart := by
  unfold stageToBegin at listed
  unfold beginProgram
  split at listed
  · rename_i running
    rw [if_pos running, start_ready_timeStart now (s.beginPumping now) _ _ rfl volume listed,
      start_ready_irrigation now (s.beginPumping now) _ _ rfl]
    cases program : s.irrigation.program with
    | unknown => simp [program, Program.firstStage, Program.flows] at listed
    | _ => rfl
  · rename_i stopped
    rw [if_neg stopped, resume_ready_controlFlowArray now (s.beginPumping now) stopped rfl volume]
    exact congrArg ControlFlow.timeStart (if_pos listed)

/-- The program is the one that was prepared. -/
theorem beginProgram_program [FlowArithmetic] :
    (s.beginProgram now).irrigation.program = s.irrigation.program := by
  unfold beginProgram
  split
  · rw [start_ready_irrigation now (s.beginPumping now) _ _ rfl]
  · have stopped : (s.beginPumping now).irrigation.isStopped ≠ 0 := by assumption
    rw [resume_ready_irrigation now (s.beginPumping now) stopped rfl]
    rfl

/-- What one call of `control_irrigation_temp_update` does. -/
inductive UpdateStep [FlowArithmetic] (now : Nat) (s : Controller) : Controller → Prop where
  | idle (status : s.irrigation.status = .finished) : UpdateStep now s s
  | warming (status : s.irrigation.status = .preparing) (waiting : s.GeneratorWaiting now) :
      UpdateStep now s s
  | begins (status : s.irrigation.status = .preparing) (expired : ¬ s.GeneratorWaiting now) :
      UpdateStep now s (s.beginProgram now)
  | runs (status : s.irrigation.status = .ready) (sound : ¬ s.IsFaulty) :
      UpdateStep now s (s.updateProgram now)
  | stops (status : s.irrigation.status = .ready ∨ s.irrigation.status = .finishing)
      (faulty : s.IsFaulty) : UpdateStep now s (s.controlIrrigationTempForceStop now)
  | cooling (status : s.irrigation.status = .finishing) (sound : ¬ s.IsFaulty)
      (waiting : s.GeneratorWaiting now) : UpdateStep now s s
  | shuts (status : s.irrigation.status = .finishing) (sound : ¬ s.IsFaulty)
      (expired : ¬ s.GeneratorWaiting now) : UpdateStep now s (s.shutDown now)

theorem updateStep [FlowArithmetic] : UpdateStep now s (s.controlIrrigationTempUpdate now) := by
  unfold controlIrrigationTempUpdate
  cases status : s.irrigation.status with
  | finished => exact .idle status
  | preparing =>
      by_cases waiting : s.GeneratorWaiting now
      · simpa [waiting] using UpdateStep.warming status waiting
      · simpa [waiting] using UpdateStep.begins status waiting
  | ready =>
      by_cases faulty : s.IsFaulty
      · simpa [faulty] using UpdateStep.stops (.inl status) faulty
      · simpa [faulty] using UpdateStep.runs status faulty
  | finishing =>
      by_cases faulty : s.IsFaulty
      · simpa [faulty] using UpdateStep.stops (.inr status) faulty
      · by_cases waiting : s.GeneratorWaiting now
        · simpa [faulty, waiting] using UpdateStep.cooling status faulty waiting
        · simpa [faulty, waiting] using UpdateStep.shuts status faulty waiting

/-- When the generator has been waited for, the program begins. -/
theorem update_begins [FlowArithmetic] (preparing : s.irrigation.status = .preparing)
    (expired : ¬ s.GeneratorWaiting now) :
    s.controlIrrigationTempUpdate now = s.beginProgram now := by
  unfold controlIrrigationTempUpdate
  rw [preparing]
  exact if_neg expired

/-! ## Stop -/

@[simp] theorem forceStop_irrigation :
    (s.controlIrrigationTempForceStop now).irrigation =
      { s.irrigation with
        timeProgramStop := millis now
        isStopped :=
          if s.irrigation.status ≠ .preparing ∧ s.irrigation.isStopped = 0 then
            if s.irrigation.isFaultyDetectionActive ≠ 0 ∧
                s.faultyDetectionStatus ≠ .notDetected then s.faultyDetectionStatus.number
            else FaultyDetectionStatus.stoppedByUser.number
          else s.irrigation.isStopped
        status := .finished } := by
  simp [controlIrrigationTempForceStop]

/-- After a stop outside `PREPARING` there is something to resume. -/
theorem forceStop_isStopped (elsewhere : s.irrigation.status ≠ .preparing) :
    (s.controlIrrigationTempForceStop now).irrigation.isStopped ≠ 0 := by
  rw [forceStop_irrigation]
  dsimp only
  split
  · split
    · rename_i detected
      exact mt (FaultyDetectionStatus.number_eq_zero _).mp detected.2
    · decide
  · rename_i kept
    exact fun running => kept ⟨elsewhere, running⟩

/-- After a stop all fifteen relays are off. -/
@[simp] theorem forceStop_isOn (device : Fin 15) :
    ¬ (s.controlIrrigationTempForceStop now).IsOn device := by
  simp only [controlIrrigationTempForceStop, withIrrigation_isOn]
  intro on
  have garden := (controlFlowStop_isOn now 5 _ on).2
  have second := (controlFlowStop_isOn now 2 _ garden).2
  exact controlSafetyDevicesStop_isOn now s device (controlFlowStop_isOn now 1 _ second).2

/-- A stop ends the flows 1, 2 and 5 and leaves the other flows as they are. -/
@[simp] theorem forceStop_flowActive (flow : Fin 6) :
    (s.controlIrrigationTempForceStop now).FlowActive flow ↔
      flow ≠ 1 ∧ flow ≠ 2 ∧ flow ≠ 5 ∧ s.FlowActive flow := by
  have kept : (s.controlSafetyDevicesStop now).FlowActive flow ↔ s.FlowActive flow := by
    unfold FlowActive
    rw [controlSafetyDevicesStop_controlFlowArray]
  simp only [controlIrrigationTempForceStop, withIrrigation_flowActive, controlFlowStop_flowActive,
    kept]
  grind

@[simp] theorem forceStop_stagesBegun :
    stagesBegun (s.controlIrrigationTempForceStop now).trace = stagesBegun s.trace := by
  simp [controlIrrigationTempForceStop]

/-- A stop switches nothing on. -/
@[simp] theorem forceStop_lastToggle_on (device : Fin 15) :
    lastToggle device true (s.controlIrrigationTempForceStop now).trace =
      lastToggle device true s.trace := by
  have toggled : ∀ (t : Controller) (flow : Fin 6),
      lastToggle device true (t.controlFlowStop now flow).trace =
        lastToggle device true t.trace := by
    intro t flow
    unfold controlFlowStop
    dsimp only
    split
    · split <;> simp [setFlow]
    · simp [setFlow]
  simp [controlIrrigationTempForceStop, toggled]

end Controller
end BlueberryIrrigation
