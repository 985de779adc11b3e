import BlueberryIrrigation.Delivery.Finish
import BlueberryIrrigation.Plan.Follows
import BlueberryIrrigation.Safety.Power

/-!
# What a running stage keeps up

A resume rebuilds a stage from the name of the program alone, so it can only restore what that name
determines. `StageInvariant` says which relays it determines, `FlowInvariant` that the flows of the
stage share its start and have ended only where they are still due. Both hold when every program
is started from rest.
-/

namespace BlueberryIrrigation

open Semantics Controller

/-- The operations of a run in which programs are started in `FINISHED` only, without manual
toggles, commands of single flows and changed settings. -/
def Operation.StartsAtRest (s : Controller) : Operation → Prop
  | .start program _ => program.Known ∧ s.irrigation.status = .finished
  | .deviceToggle _ _ | .flowStart _ _ _ | .flowStop _ | .flowPause _ _ | .pulsesTotalSet _ _
  | .assign _ => False
  | _ => True

section

variable {operation : Operation} {s : Controller}

theorem Operation.StartsAtRest.leavesPowerAlone (command : operation.StartsAtRest s) :
    operation.LeavesPowerAlone := by
  cases operation <;> first | exact trivial | exact command.elim

theorem Operation.StartsAtRest.leavesDeliveries (command : operation.StartsAtRest s) :
    operation.LeavesDeliveries s := by
  cases operation with
  | start => exact ⟨command.1, by simp [command.2]⟩
  | deviceToggle | flowStart | flowStop | flowPause => exact command.elim
  | _ => trivial

end

/-! ## Relays -/

/-- The relays of a stage are those its name opens. The cleaning passes from valve to valve. -/
structure StageInvariant (s : Controller) : Prop where
  known : s.irrigation.program.Known
  label : s.irrigation.program.Runs s.irrigation.programCurrent
  closed : s.irrigation.status ≠ .ready → ∀ device ∈ stageRelays, ¬ s.IsOn device
  opened : s.irrigation.status = .ready → s.irrigation.programCurrent ≠ .cleaning →
    ∀ device ∈ stageRelays, (s.IsOn device ↔ device ∈ s.irrigation.programCurrent.opened)
  washing : s.irrigation.status = .ready → s.irrigation.programCurrent = .cleaning →
    ¬ s.IsOn 2 ∧ ∃ zone, ∀ valve ∈ groupValves, s.IsOn valve → valve = zone

namespace StageInvariant

variable {now : Nat} {s t : Controller}

theorem boot : StageInvariant boot where
  known := trivial
  label := rfl
  closed := by simp
  opened := by simp
  washing := by simp

/-- Steps that leave the machine and the relays of the stages alone. -/
theorem frame (inv : StageInvariant s) (same : MachineKept s.irrigation t.irrigation)
    (relays : ∀ device ∈ stageRelays, (t.IsOn device ↔ s.IsOn device)) : StageInvariant t := by
  have valves : ∀ valve ∈ groupValves, (t.IsOn valve ↔ s.IsOn valve) :=
    fun valve listed => relays valve (List.mem_cons_of_mem 2 listed)
  constructor
  · rw [same.program]
    exact inv.known
  · rw [same.program, same.programCurrent]
    exact inv.label
  · rw [same.status]
    exact fun elsewhere device listed =>
      mt (relays device listed).mp (inv.closed elsewhere device listed)
  · rw [same.status, same.programCurrent]
    exact fun ready other device listed =>
      (relays device listed).trans (inv.opened ready other device listed)
  · rw [same.status, same.programCurrent]
    intro ready cleaning
    obtain ⟨acid, zone, only⟩ := inv.washing ready cleaning
    exact ⟨mt (relays 2 (by decide)).mp acid, zone,
      fun valve listed on => only valve listed ((valves valve listed).mp on)⟩

/-- Outside `READY` with every relay of the stages off. -/
theorem of_closed (known : s.irrigation.program.Known)
    (label : s.irrigation.program.Runs s.irrigation.programCurrent)
    (elsewhere : s.irrigation.status ≠ .ready) (closed : ∀ device ∈ stageRelays, ¬ s.IsOn device) :
    StageInvariant s where
  known := known
  label := label
  closed _ := closed
  opened ready := absurd ready elsewhere
  washing ready := absurd ready elsewhere

/-- In a stage of the cleaning program. -/
theorem of_washing (ready : s.irrigation.status = .ready)
    (program : s.irrigation.program = .cleaning)
    (current : s.irrigation.programCurrent = .cleaning) (acid : ¬ s.IsOn 2) (zone : Fin 15)
    (only : ∀ valve ∈ groupValves, s.IsOn valve → valve = zone) : StageInvariant s where
  known := by
    rw [program]
    trivial
  label := by
    rw [program]
    exact current
  closed elsewhere := absurd ready elsewhere
  opened _ other := absurd current other
  washing _ _ := ⟨acid, zone, only⟩

/-- In the stage whose relays have been opened. -/
theorem of_opened (known : s.irrigation.program.Known)
    (label : s.irrigation.program.Runs s.irrigation.programCurrent)
    (ready : s.irrigation.status = .ready)
    (relays : ∀ device ∈ stageRelays,
      (s.IsOn device ↔ device ∈ s.irrigation.programCurrent.opened)) : StageInvariant s where
  known := known
  label := label
  closed elsewhere := absurd ready elsewhere
  opened _ _ := relays
  washing _ cleaning := by
    rw [cleaning] at relays
    refine ⟨fun on => absurd ((relays 2 (by decide)).mp on) (by decide), 12, ?_⟩
    intro valve listed on
    exact List.mem_singleton.mp ((relays valve (List.mem_cons_of_mem 2 listed)).mp on)

theorem forceStop (inv : StageInvariant s) :
    StageInvariant (s.controlIrrigationTempForceStop now) :=
  of_closed (by simpa using inv.known) (by simpa using inv.label) (by simp) (by simp)

theorem prepareGenerator (inv : StageInvariant s) (elsewhere : s.irrigation.status ≠ .ready) :
    StageInvariant (s.prepareGenerator now) := by
  refine of_closed inv.known inv.label (by simp) fun device listed => ?_
  have other : device ≠ 0 := by
    rintro rfl
    exact absurd listed (by decide)
  simpa [other] using inv.closed elsewhere device listed

section

variable [FlowArithmetic]

/-- A program that begins in `READY` finds no relay on but those of its first stage. -/
theorem start_ready (program : Program) (isCleaning : Flag) (known : program.Known)
    (ready : s.irrigation.status = .ready)
    (free : ∀ device ∈ stageRelays, s.IsOn device → device ∈ program.firstStage.opened) :
    StageInvariant (s.controlIrrigationTempStart now program isCleaning) := by
  have irrigation := start_ready_irrigation now s program isCleaning ready
  apply of_opened
  · rw [irrigation]
    exact known
  · rw [irrigation]
    cases program <;> simp [Program.Runs, Program.firstStage]
  · rw [irrigation]
    exact ready
  · intro device listed
    rw [start_ready_isOn now s program isCleaning ready device, irrigation]
    exact or_iff_left_of_imp (free device listed)

omit [FlowArithmetic] in
/-- A resume opens the relays of the stage it goes on with. -/
theorem resume_ready (inv : StageInvariant s) (status : s.irrigation.status = .preparing)
    (pending : s.irrigation.isStopped ≠ 0) :
    StageInvariant ((s.beginPumping now).controlIrrigationTempResume now) := by
  have irrigation := resume_ready_irrigation now (s.beginPumping now) pending rfl
  apply of_opened
  · rw [irrigation]
    exact inv.known
  · rw [irrigation]
    exact inv.label
  · rw [irrigation]
    rfl
  · intro device listed
    have other : device ≠ 1 := by
      rintro rfl
      exact absurd listed (by decide)
    have off := inv.closed (by simp [status]) device listed
    rw [resume_ready_isOn now (s.beginPumping now) pending rfl device, irrigation]
    simp [other, off]

theorem beginProgram (inv : StageInvariant s) (status : s.irrigation.status = .preparing) :
    StageInvariant (s.beginProgram now) := by
  unfold Controller.beginProgram
  split
  · apply start_ready _ _ inv.known rfl
    intro device listed on
    have other : device ≠ 1 := by
      rintro rfl
      exact absurd listed (by decide)
    have before : s.IsOn device := by simpa [other] using on
    exact absurd before (inv.closed (by simp [status]) device listed)
  · exact inv.resume_ready status ‹_›

omit [FlowArithmetic] in
theorem finishProgram (known : s.irrigation.program.Known)
    (label : s.irrigation.program.Runs s.irrigation.programCurrent)
    (closed : ∀ device ∈ stageRelays, ¬ s.IsOn device) : StageInvariant (s.finishProgram now) :=
  of_closed known label (by simp) fun device listed on =>
    closed device listed ((finishProgram_isOn now s device).mp on).2

/-- With the stage's relays switched off, the cleaning or the end follows. -/
theorem cleanOrFinish (isCleaning : Flag) (known : s.irrigation.program.Known)
    (label : s.irrigation.program.Runs s.irrigation.programCurrent)
    (ready : s.irrigation.status = .ready) (closed : ∀ device ∈ stageRelays, ¬ s.IsOn device) :
    StageInvariant (s.cleanOrFinish now isCleaning) := by
  unfold Controller.cleanOrFinish
  split
  · exact start_ready .cleaning isCleaning trivial ready
      fun device listed on => absurd on (closed device listed)
  · exact finishProgram known label closed

omit [FlowArithmetic] in
/-- Switching off all that a stage has open. -/
theorem closed_after (inv : StageInvariant s) (ready : s.irrigation.status = .ready)
    (other : s.irrigation.programCurrent ≠ .cleaning) {valve : Fin 15}
    (own : ∀ device ∈ s.irrigation.programCurrent.opened, device = 2 ∨ device = valve) :
    ∀ device ∈ stageRelays, ¬ ((s.deviceToggle now 2 0).deviceToggle now valve 0).IsOn device := by
  intro device listed on
  simp only [deviceToggle_isOn] at on
  have opens := inv.opened ready other device listed
  have among := own device
  grind

omit [FlowArithmetic] in
/-- The stages of `BOTH` open the acid pump and the valves of its two groups. -/
theorem both_runs {current : Program} (runs : Program.both.Runs current) :
    current ≠ .cleaning ∧
      ∀ device ∈ current.opened, device = 2 ∨ device = 10 ∨ device = 11 := by
  rcases runs with rfl | rfl | rfl <;> simp [Program.opened]

omit [FlowArithmetic] in
/-- `BOTH` relabels its second group's program. -/
theorem relabel (inv : StageInvariant s) (group : s.irrigation.program = .group2) :
    StageInvariant (s.withIrrigation fun irrigation => { irrigation with program := .both }) where
  known := trivial
  label := by
    have current := inv.label
    rw [group] at current
    exact .inr (.inr current)
  closed := inv.closed
  opened := inv.opened
  washing := inv.washing

theorem updateProgram (inv : StageInvariant s) (ready : s.irrigation.status = .ready) :
    StageInvariant (s.updateProgram now) := by
  have label := inv.label
  have cleaning : s.irrigation.program = .cleaning → s.irrigation.programCurrent = .cleaning := by
    intro program
    rw [program] at label
    exact label
  have turn := programTurn now s
  generalize s.updateProgram now = t at turn ⊢
  cases turn with
  | waits | endless => exact inv
  | groupOver valve expired group =>
      refine cleanOrFinish 1 inv.known label ready ?_
      rcases group with ⟨program, rfl⟩ | ⟨program, rfl⟩
      · rw [program] at label
        have current : s.irrigation.programCurrent = .group1 := label
        exact inv.closed_after ready (by simp [current]) (by simp [current, Program.opened])
      · rw [program] at label
        have current : s.irrigation.programCurrent = .group2 := label
        exact inv.closed_after ready (by simp [current]) (by simp [current, Program.opened])
  | bothNext expired program first =>
      rw [program] at label
      obtain ⟨other, opens⟩ := both_runs label
      refine relabel ?_ ?_
      · refine start_ready .group2 _ trivial ready fun device listed on => ?_
        have before : device ≠ 10 ∧ s.IsOn device := by simpa using on
        have own := opens device ((inv.opened ready other device listed).mp before.2)
        have second : device = 2 ∨ device = 11 := by grind
        simpa [Program.firstStage, Program.opened] using second
      · rw [start_ready_irrigation now (s.deviceToggle now 10 0) .group2 _ ready]
  | bothOver expired program second =>
      refine cleanOrFinish _ inv.known label ready ?_
      rw [program] at label
      obtain ⟨other, opens⟩ := both_runs label
      refine inv.closed_after ready other fun device own => ?_
      rcases opens device own with acid | rfl | last
      · exact .inl acid
      · exact absurd ((inv.opened ready other 10 (by decide)).mpr own) second
      · exact .inr last
  | washFirst expired program closed =>
      have current := cleaning program
      obtain ⟨acid, zone, only⟩ := inv.washing ready current
      refine of_washing ready program current (by simpa using acid) 10 fun valve listed on => ?_
      simp only [withIrrigation_isOn, deviceToggle_isOn] at on
      simp only [groupValves, List.mem_cons, List.not_mem_nil, or_false] at listed
      grind
  | washSecond expired program first =>
      have current := cleaning program
      obtain ⟨acid, zone, only⟩ := inv.washing ready current
      have running := only 10 (by decide) first
      refine of_washing ready program current (by simpa using acid) 11 fun valve listed on => ?_
      simp only [withIrrigation_isOn, deviceToggle_isOn] at on
      have same := only valve listed
      grind
  | washOver expired program second =>
      have current := cleaning program
      obtain ⟨acid, zone, only⟩ := inv.washing ready current
      have running := only 11 (by decide) second.2
      refine of_closed inv.known label (by simp) fun device listed on => ?_
      simp only [withIrrigation_isOn, deviceToggle_isOn] at on
      rcases List.mem_cons.mp listed with rfl | valve
      · exact acid (by simpa using on)
      · have same := only device valve
        grind
  | gardenOver expired program =>
      rw [program] at label
      have current : s.irrigation.programCurrent = .garden := label
      refine finishProgram inv.known inv.label fun device listed on => ?_
      have opens := (inv.opened ready (by simp [current]) device listed).mp on
      simp [current, Program.opened] at opens

theorem update (inv : StageInvariant s) :
    StageInvariant (s.controlIrrigationTempUpdate now) := by
  have step := updateStep now s
  generalize s.controlIrrigationTempUpdate now = t at step ⊢
  cases step with
  | idle | warming | cooling => exact inv
  | begins preparing => exact inv.beginProgram preparing
  | runs ready => exact inv.updateProgram ready
  | stops => exact inv.forceStop
  | shuts finishing =>
      refine of_closed inv.known inv.label (by simp) fun device listed on => ?_
      exact inv.closed (by simp [finishing]) device listed ((shutDown_isOn now s device).mp on).2

theorem run {operation : Operation} (inv : StageInvariant s)
    (running : s.irrigation.status = .ready → s.irrigation.isStopped = 0)
    (command : operation.StartsAtRest s) : StageInvariant (operation.run now s) := by
  by_cases drives : operation.DrivesMachine
  · cases operation with
    | start program isCleaning =>
        obtain ⟨known, finished⟩ := command
        have elsewhere : s.irrigation.status ≠ .ready := by simp [finished]
        change StageInvariant (s.controlIrrigationTempStart now program isCleaning)
        rw [start_of_not_ready now s program isCleaning elsewhere]
        refine prepareGenerator ?_ elsewhere
        have label : program.Runs program := by
          cases program <;> simp [Program.Runs]
        exact of_closed known label elsewhere (inv.closed elsewhere)
    | forceStop => exact inv.forceStop
    | resume =>
        change StageInvariant (s.controlIrrigationTempResume now)
        by_cases idle : s.irrigation.isStopped = 0
        · rwa [resume_of_not_stopped now s idle]
        · have elsewhere := mt running idle
          rw [resume_of_not_ready now s idle elsewhere]
          exact inv.prepareGenerator elsewhere
    | irrigationUpdate => exact inv.update
    | _ => exact drives.elim
  · refine inv.frame (machineKept drives now s) fun device listed => ?_
    by_cases periodic : operation.Periodic
    · exact (periodic.stageRelay drives now s listed).isOn_iff
    · cases operation with
      | faultyDetectionToggle => exact Iff.rfl
      | start | forceStop | resume | irrigationUpdate => exact absurd trivial drives
      | deviceUpdate | sensorFlowUpdate | sensorPressureUpdate | controlFlowUpdate
      | sensorInterrupt => exact absurd trivial periodic
      | _ => exact command.elim

end

end StageInvariant

/-! ## Flows -/

namespace Controller

/-- From `clock` to `now` the elapsed time of the stage stays below the counter's period. -/
def StageFits (clock now : Nat) (s : Controller) : Prop :=
  (millis clock - s.irrigation.timeProgramStart).toNat + (now - clock) < Clock.period

instance decidableStageFits (clock now : Nat) (s : Controller) :
    Decidable (s.StageFits clock now) :=
  inferInstanceAs (Decidable (_ < _))

/-- The pulses that wait for `sensor_flow_update` fit into the total of every flow of the stage that
has ended and has a pulse target. -/
def TotalsFit (s : Controller) : Prop :=
  ∀ flow ∈ s.irrigation.programCurrent.flows, ¬ s.FlowActive flow →
    (s.controlFlowArray flow).pulsesToDeliver ≠ 0 →
    (s.sensorFlowArray (controlFlowSensor flow)).pulsesTotal.toNat +
      (s.sensorFlowArray (controlFlowSensor flow)).pulsesInterrupt.toNat < 2 ^ 32

instance decidableTotalsFit (s : Controller) : Decidable s.TotalsFit :=
  inferInstanceAs (Decidable (∀ flow ∈ s.irrigation.programCurrent.flows, _))

/-- More pulses do not make a flow less due. -/
theorem FlowDue.mono {now : Nat} {flow : Fin 6} {s t : Controller} (due : s.FlowDue now flow)
    (record : t.controlFlowArray = s.controlFlowArray)
    (grows : (s.controlFlowArray flow).pulsesToDeliver ≠ 0 →
      (s.sensorFlowArray (controlFlowSensor flow)).pulsesTotal ≤
        (t.sensorFlowArray (controlFlowSensor flow)).pulsesTotal) : t.FlowDue now flow := by
  unfold FlowDue
  rw [record]
  rcases due with ⟨target, delivered⟩ | expired
  · exact .inl ⟨target, UInt32.le_trans delivered (grows target)⟩
  · exact .inr expired

variable [FlowArithmetic] (now : Nat) (s : Controller)

theorem start_deliverVolume (program : Program) (isCleaning : Flag) :
    (s.controlIrrigationTempStart now program isCleaning).irrigation.deliverVolume =
      s.irrigation.deliverVolume := by
  by_cases ready : s.irrigation.status = .ready
  · rw [start_ready_irrigation now s program isCleaning ready]
  · rw [start_of_not_ready now s program isCleaning ready]
    rfl

omit [FlowArithmetic] in
theorem resume_deliverVolume :
    (s.controlIrrigationTempResume now).irrigation.deliverVolume =
      s.irrigation.deliverVolume := by
  by_cases running : s.irrigation.isStopped = 0
  · rw [resume_of_not_stopped now s running]
  · by_cases ready : s.irrigation.status = .ready
    · rw [resume_ready_irrigation now s running ready]
    · rw [resume_of_not_ready now s running ready]
      rfl

theorem beginProgram_deliverVolume :
    (s.beginProgram now).irrigation.deliverVolume = s.irrigation.deliverVolume := by
  unfold beginProgram
  split
  · exact start_deliverVolume now (s.beginPumping now) _ _
  · exact resume_deliverVolume now (s.beginPumping now)

end Controller

/-- The flows of a running stage share its start, and those that have ended are still due. -/
structure FlowInvariant (clock : Nat) (s : Controller) : Prop where
  volume : s.irrigation.deliverVolume ≠ 1
  start : s.irrigation.status = .ready → ∀ flow ∈ s.irrigation.programCurrent.flows,
    (s.controlFlowArray flow).timeStart = s.irrigation.timeProgramStart
  ended : s.irrigation.status = .ready → ∀ flow ∈ s.irrigation.programCurrent.flows,
    ¬ s.FlowActive flow → s.FlowDue clock flow

namespace FlowInvariant

variable {clock now : Nat} {s t : Controller}

theorem boot (clock : Nat) : FlowInvariant clock boot where
  volume := by decide
  start := by simp
  ended := by simp

/-- Without a stage that runs flows there is nothing to keep. -/
theorem of_idle (volume : s.irrigation.deliverVolume ≠ 1)
    (idle : s.irrigation.status = .ready → s.irrigation.programCurrent.flows = []) :
    FlowInvariant clock s where
  volume := volume
  start ready flow listed := absurd listed (by simp [idle ready])
  ended ready flow listed := absurd listed (by simp [idle ready])

theorem of_elsewhere (volume : s.irrigation.deliverVolume ≠ 1)
    (elsewhere : s.irrigation.status ≠ .ready) : FlowInvariant clock s :=
  of_idle volume fun ready => absurd ready elsewhere

/-- Steps of the clock alone. -/
theorem later (inv : FlowInvariant clock s) (ordered : clock ≤ now)
    (fits : s.irrigation.status = .ready → s.StageFits clock now) : FlowInvariant now s where
  volume := inv.volume
  start := inv.start
  ended ready flow listed inactive := by
    refine (inv.ended ready flow listed inactive).later ordered ?_
    rw [inv.start ready flow listed]
    exact fits ready

/-- Steps that leave the machine alone and end flows only when they are due. -/
theorem frame (inv : FlowInvariant now s) (same : MachineKept s.irrigation t.irrigation)
    (volume : t.irrigation.deliverVolume = s.irrigation.deliverVolume)
    (start : ∀ flow, (t.controlFlowArray flow).timeStart = (s.controlFlowArray flow).timeStart)
    (ended : s.irrigation.status = .ready → ∀ flow ∈ s.irrigation.programCurrent.flows,
      ¬ t.FlowActive flow → (¬ s.FlowActive flow → s.FlowDue now flow) → t.FlowDue now flow) :
    FlowInvariant now t := by
  constructor
  · rw [volume]
    exact inv.volume
  · rw [same.status, same.programCurrent, same.timeProgramStart]
    intro ready flow listed
    rw [start]
    exact inv.start ready flow listed
  · rw [same.status, same.programCurrent]
    exact fun ready flow listed inactive =>
      ended ready flow listed inactive (inv.ended ready flow listed)

section

variable [FlowArithmetic]

/-- A stage that begins runs all its flows from its start. -/
theorem start_ready (program : Program) (isCleaning : Flag) (known : program.Known)
    (ready : s.irrigation.status = .ready) (volume : s.irrigation.deliverVolume ≠ 1) :
    FlowInvariant now (s.controlIrrigationTempStart now program isCleaning) := by
  have irrigation := start_ready_irrigation now s program isCleaning ready
  constructor
  · rw [irrigation]
    exact volume
  · intro _ flow listed
    rw [irrigation] at listed
    rw [start_ready_timeStart now s program isCleaning ready volume listed, irrigation]
    exact (if_pos known).symm
  · intro _ flow listed inactive
    rw [irrigation] at listed
    refine absurd ((start_ready_flowActive now s program isCleaning ready flow).mpr ?_) inactive
    rcases (Program.mem_flows _ flow).mp listed with ⟨opens, supplement⟩ | ⟨garden, own⟩
    · exact .inl ⟨opens, volume, supplement⟩
    · exact .inr (.inl ⟨(firstStage_garden program).mp garden, own⟩)

theorem beginProgram (volume : s.irrigation.deliverVolume ≠ 1) :
    FlowInvariant now (s.beginProgram now) := by
  constructor
  · rwa [beginProgram_deliverVolume]
  · intro _ flow listed
    rw [beginProgram_programCurrent] at listed
    exact beginProgram_timeStart now s volume listed
  · intro _ flow listed inactive
    rw [beginProgram_programCurrent] at listed
    refine absurd ((beginProgram_flowActive now s flow).mpr ?_) inactive
    rcases (Program.mem_flows _ flow).mp listed with ⟨opens, supplement⟩ | garden
    · exact .inl ⟨opens, volume, supplement⟩
    · exact .inr (.inl garden)

theorem cleanOrFinish (isCleaning : Flag) (ready : s.irrigation.status = .ready)
    (volume : s.irrigation.deliverVolume ≠ 1) :
    FlowInvariant now (s.cleanOrFinish now isCleaning) := by
  unfold Controller.cleanOrFinish
  split
  · exact start_ready .cleaning isCleaning trivial ready volume
  · exact of_elsewhere volume (by simp)

theorem updateProgram (inv : FlowInvariant now s) (stage : StageInvariant s)
    (ready : s.irrigation.status = .ready) : FlowInvariant now (s.updateProgram now) := by
  have volume := inv.volume
  have cleaning : s.irrigation.program = .cleaning →
      s.irrigation.programCurrent.flows = [] := by
    intro program
    have label := stage.label
    rw [program] at label
    rw [show s.irrigation.programCurrent = .cleaning from label]
    rfl
  have turn := programTurn now s
  generalize s.updateProgram now = t at turn ⊢
  cases turn with
  | waits | endless => exact inv
  | groupOver valve => exact cleanOrFinish 1 ready volume
  | bothNext =>
      have second : FlowInvariant now ((s.deviceToggle now 10 0).controlIrrigationTempStart now
          .group2 s.irrigation.isCleaning) := start_ready .group2 _ trivial ready volume
      exact ⟨second.volume, second.start, second.ended⟩
  | bothOver => exact cleanOrFinish _ ready volume
  | washFirst _ program => exact of_idle volume fun _ => cleaning program
  | washSecond _ program => exact of_idle volume fun _ => cleaning program
  | washOver => exact of_elsewhere volume (by simp)
  | gardenOver => exact of_elsewhere volume (by simp)

theorem update (inv : FlowInvariant now s) (stage : StageInvariant s) :
    FlowInvariant now (s.controlIrrigationTempUpdate now) := by
  have step := updateStep now s
  generalize s.controlIrrigationTempUpdate now = t at step ⊢
  cases step with
  | idle | warming | cooling => exact inv
  | begins => exact beginProgram inv.volume
  | runs ready => exact inv.updateProgram stage ready
  | stops => exact of_elsewhere (by simpa using inv.volume) (by simp)
  | shuts => exact of_elsewhere inv.volume (by simp)

/-- `control_flow_update` ends a flow only when it is due. -/
theorem controlFlowUpdate (inv : FlowInvariant now s) (unpaused : Unpaused s) :
    FlowInvariant now (s.controlFlowUpdate now) := by
  have irrigation := controlFlowUpdate_irrigation now s
  have schedule := fun flow => SameSchedule.controlFlowUpdate now flow s
  refine inv.frame (.of_eq irrigation) (congrArg Irrigation.deliverVolume irrigation)
    (fun flow => (schedule flow).start) fun _ flow _ inactive before => ?_
  rw [(schedule flow).due_iff]
  rw [controlFlowUpdate_flowActive_iff now (unpaused flow)] at inactive
  by_cases active : s.FlowActive flow
  · exact not_not.mp fun notDue => inactive ⟨active, notDue⟩
  · exact before active

omit [FlowArithmetic] in
/-- Steps that write no flow, and no total but to add to it. -/
theorem counting (inv : FlowInvariant now s) (same : MachineKept s.irrigation t.irrigation)
    (volume : t.irrigation.deliverVolume = s.irrigation.deliverVolume)
    (flows : t.controlFlowArray = s.controlFlowArray)
    (totals : s.irrigation.status = .ready → ∀ flow ∈ s.irrigation.programCurrent.flows,
      ¬ s.FlowActive flow → (s.controlFlowArray flow).pulsesToDeliver ≠ 0 →
      (s.sensorFlowArray (controlFlowSensor flow)).pulsesTotal ≤
        (t.sensorFlowArray (controlFlowSensor flow)).pulsesTotal) : FlowInvariant now t := by
  refine inv.frame same volume (fun flow => by rw [flows]) ?_
  intro ready flow listed inactive before
  have ended : ¬ s.FlowActive flow := by
    unfold FlowActive at inactive ⊢
    rwa [flows] at inactive
  exact (before ended).mono flows (totals ready flow listed ended)

theorem run {operation : Operation} (inv : FlowInvariant clock s) (stage : StageInvariant s)
    (unpaused : Unpaused s) (running : s.irrigation.status = .ready → s.irrigation.isStopped = 0)
    (ordered : clock ≤ now) (fits : s.irrigation.status = .ready → s.StageFits clock now)
    (totals : operation = .sensorFlowUpdate → s.irrigation.status = .ready → s.TotalsFit)
    (command : operation.StartsAtRest s) : FlowInvariant now (operation.run now s) := by
  have inv := inv.later ordered fits
  have kept : ∀ (t : Controller) (sensor : Fin 5), t.sensorFlowArray = s.sensorFlowArray →
      (s.sensorFlowArray sensor).pulsesTotal ≤ (t.sensorFlowArray sensor).pulsesTotal := by
    intro t sensor same
    rw [same]
    exact UInt32.le_refl _
  cases operation with
  | start program isCleaning =>
      have elsewhere : s.irrigation.status ≠ .ready := by simp [command.2]
      change FlowInvariant now (s.controlIrrigationTempStart now program isCleaning)
      rw [start_of_not_ready now s program isCleaning elsewhere]
      exact of_elsewhere inv.volume (by simp)
  | forceStop =>
      change FlowInvariant now (s.controlIrrigationTempForceStop now)
      exact of_elsewhere (by simpa using inv.volume) (by simp)
  | resume =>
      change FlowInvariant now (s.controlIrrigationTempResume now)
      by_cases idle : s.irrigation.isStopped = 0
      · rwa [resume_of_not_stopped now s idle]
      · rw [resume_of_not_ready now s idle (mt running idle)]
        exact of_elsewhere inv.volume (by simp)
  | irrigationUpdate => exact inv.update stage
  | controlFlowUpdate => exact inv.controlFlowUpdate unpaused
  | faultyDetectionToggle =>
      exact inv.counting ⟨rfl, rfl, rfl, rfl, rfl, rfl, rfl, rfl, rfl⟩ rfl rfl
        fun _ _ _ _ _ => UInt32.le_refl _
  | deviceUpdate =>
      have irrigation := (deviceUpdate_fields now s).2.2.1
      exact inv.counting (.of_eq irrigation) (congrArg Irrigation.deliverVolume irrigation)
        (deviceUpdate_fields now s).2.1
        fun _ _ _ _ _ => kept _ _ (deviceUpdate_sensorFlowArray now s)
  | sensorFlowUpdate =>
      have sensors := SensorsOnly.sensorFlowUpdate now s
      exact inv.counting (.of_eq sensors.irrigation)
        (congrArg Irrigation.deliverVolume sensors.irrigation) sensors.controlFlowArray
        fun ready flow listed inactive target =>
          sensorFlowUpdate_grows now (totals rfl ready flow listed inactive target)
  | sensorPressureUpdate readings =>
      have sensors := SensorsOnly.sensorPressureUpdate now readings s
      exact inv.counting (.of_eq sensors.irrigation)
        (congrArg Irrigation.deliverVolume sensors.irrigation) sensors.controlFlowArray
        fun _ _ _ _ _ => kept _ _ (sensorPressureUpdate_sensorFlowArray now readings s)
  | sensorInterrupt sensor =>
      refine inv.counting (.of_eq rfl) rfl rfl fun _ flow _ _ _ => ?_
      rw [Operation.run, sensorFlowInterrupt_pulsesTotal]
      exact UInt32.le_refl _
  | deviceToggle | flowStart | flowStop | flowPause | pulsesTotalSet | assign => exact command.elim

end

end FlowInvariant

end BlueberryIrrigation
