import BlueberryIrrigation.Controller.FlowStarts
import BlueberryIrrigation.Controller.FlowWindows
import BlueberryIrrigation.Safety.Outlet

/-!
# The well pump keeps an outlet

In `READY` the pump runs, and what takes its water is a group valve or the garden valve. Every stage
of a known program but the garden's opens a group valve, and the turn that closes it opens the next
or switches the pump off. The garden's stage opens nothing itself: it rests on an active flow 5
without a pulse target, which opens valve 13 and closes it by a time limit of its own.
`OutletInvariant` says so of every state between two iterations.
-/

namespace BlueberryIrrigation

open Semantics Controller

/-- A command that leaves an outlet to the program it begins: START names a program, and RESUME does
not find `BOTH`, for which it has no branch. -/
def Operation.KeepsOutlet (s : Controller) : Operation → Prop
  | .start program _ => program.Known
  | .resume => s.irrigation.isStopped ≠ 0 → s.irrigation.programCurrent ≠ .both
  | _ => True

namespace Program

variable {program current : Program}

theorem Runs.known (runs : program.Runs current) (known : program.Known) : current.Known := by
  cases program with
  | both => rcases runs with rfl | rfl | rfl <;> trivial
  | group1 | group2 | cleaning | garden =>
      obtain rfl := runs
      exact known
  | unknown => exact known.elim

/-- The garden's stage is no other program's. -/
theorem Runs.garden (runs : program.Runs .garden) : program = .garden := by
  cases program with
  | both => simp [Runs] at runs
  | group1 | group2 | cleaning | garden | unknown => exact runs.symm

/-- Every stage but the garden's opens a group valve. -/
theorem opened_group {stage : Program} (known : stage.Known) (both : stage ≠ .both)
    (garden : stage ≠ .garden) : ∃ valve ∈ groupValves, valve ∈ stage.opened := by
  cases stage with
  | group1 => exact ⟨10, by decide, by decide⟩
  | group2 => exact ⟨11, by decide, by decide⟩
  | cleaning => exact ⟨12, by decide, by decide⟩
  | both => exact absurd rfl both
  | garden => exact absurd rfl garden
  | unknown => exact known.elim

end Program

namespace Controller

/-- The garden's program runs, and its flow with it from the same start. -/
structure GardenWaters (s : Controller) : Prop where
  program : s.irrigation.program = .garden
  active : s.FlowActive 5
  start : (s.controlFlowArray 5).timeStart = s.irrigation.timeProgramStart

/-- A group valve is open, or the garden flow has the garden valve to open. -/
def HasOutlet (s : Controller) : Prop :=
  (∃ valve ∈ groupValves, s.IsOn valve) ∨ s.GardenWaters

/-- What the outlets rest on: a known program, a stage of it, no resume of `BOTH` under way, and a
garden flow with no target but its time. -/
structure OutletBasis (s : Controller) : Prop where
  known : s.irrigation.program.Known
  label : s.irrigation.program.Runs s.irrigation.programCurrent
  resumable : s.irrigation.status = .preparing → s.irrigation.isStopped ≠ 0 →
    s.irrigation.programCurrent ≠ .both
  target : (s.controlFlowArray 5).pulsesToDeliver = 0
  unpaused : (s.controlFlowArray 5).isPause = 0

structure OutletInvariant (s : Controller) : Prop extends OutletBasis s where
  outlet : s.irrigation.status = .ready → s.HasOutlet

variable {now : Nat} {s t : Controller}

theorem OutletInvariant.boot : OutletInvariant boot where
  known := trivial
  label := rfl
  resumable := by simp
  target := rfl
  unpaused := rfl
  outlet := by simp

/-- With a group valve open nothing else is needed. -/
theorem OutletBasis.opened (basis : OutletBasis s) (valve : Fin 15) (listed : valve ∈ groupValves)
    (on : s.IsOn valve) : OutletInvariant s :=
  ⟨basis, fun _ => .inl ⟨valve, listed, on⟩⟩

/-- With the pump off no outlet is needed. -/
theorem OutletBasis.elsewhere (basis : OutletBasis s) (elsewhere : s.irrigation.status ≠ .ready) :
    OutletInvariant s :=
  ⟨basis, fun ready => absurd ready elsewhere⟩

/-! ## Frames -/

/-- Steps beside the machine that leave the garden flow its target and unpaused. -/
theorem OutletBasis.frame (basis : OutletBasis s) (same : MachineKept s.irrigation t.irrigation)
    (target : (t.controlFlowArray 5).pulsesToDeliver = (s.controlFlowArray 5).pulsesToDeliver)
    (unpaused : (t.controlFlowArray 5).isPause = 0) : OutletBasis t where
  known := by
    rw [same.program]
    exact basis.known
  label := by
    rw [same.program, same.programCurrent]
    exact basis.label
  resumable := by
    rw [same.status, same.isStopped, same.programCurrent]
    exact basis.resumable
  target := target.trans basis.target
  unpaused := unpaused

theorem OutletInvariant.frame (inv : OutletInvariant s)
    (same : MachineKept s.irrigation t.irrigation)
    (flows : t.controlFlowArray = s.controlFlowArray)
    (relays : ∀ device, t.IsOn device ↔ s.IsOn device) : OutletInvariant t := by
  refine ⟨inv.toOutletBasis.frame same (by rw [flows]) ?_, fun ready => ?_⟩
  · rw [flows]
    exact inv.unpaused
  · rw [same.status] at ready
    rcases inv.outlet ready with ⟨valve, listed, on⟩ | ⟨program, active, start⟩
    · exact .inl ⟨valve, listed, (relays valve).mpr on⟩
    · refine .inr ⟨same.program.trans program, ?_, ?_⟩
      · unfold FlowActive
        rwa [flows]
      · rw [flows, same.timeProgramStart]
        exact start

theorem OutletInvariant.readings (inv : OutletInvariant s) (readings : ReadingsOnly s t) :
    OutletInvariant t :=
  inv.frame (.of_eq readings.irrigation) readings.controlFlowArray readings.isOn_iff

/-! ## The garden's stage -/

/-- The garden's program runs and no group valve is open. -/
structure GardenAlone (s : Controller) : Prop where
  status : s.irrigation.status = .ready
  program : s.irrigation.program = .garden
  groups : ∀ valve ∈ groupValves, ¬ s.IsOn valve

/-- Valve 13 is open or may open until flow 5 is due, and by then the program's duration is over. -/
structure GardenKept (input : LoopInput) (s : Controller) : Prop where
  valve : ¬ s.FlowDue input.controlFlow.now 5 →
    s.IsOn 13 ∨ s.deviceIsTimeSwitchMinimumPassed input.controlFlow.now 13 = true
  limit : s.FlowDue input.controlFlow.now 5 →
    ¬ s.StageRunning input.irrigation.now s.irrigation.timeProgramDuration

/-- A duration that is not longer than the limit of flow 5 is over when the flow is due. -/
theorem GardenWaters.limit {input : LoopInput} (waters : s.GardenWaters)
    (target : (s.controlFlowArray 5).pulsesToDeliver = 0)
    (covered : (s.controlFlowArray 5).timeToDeliver ≠ 0 →
      s.irrigation.timeProgramDuration ≤ (s.controlFlowArray 5).timeToDeliver.toUInt32 * 1000)
    (passing : millis input.controlFlow.now - s.irrigation.timeProgramStart ≤
      millis input.irrigation.now - s.irrigation.timeProgramStart)
    (due : s.FlowDue input.controlFlow.now 5) :
    ¬ s.StageRunning input.irrigation.now s.irrigation.timeProgramDuration := by
  obtain ⟨limited, reached⟩ := due.resolve_left fun delivered => delivered.1 target
  rw [waters.start] at reached
  have expired := UInt32.le_trans (covered limited) reached
  exact UInt32.not_lt.mpr (UInt32.le_trans expired passing)

/-- A flow without a pulse target is due by its time alone. -/
theorem gardenDue_iff (readings : ReadingsOnly s t)
    (target : (s.controlFlowArray 5).pulsesToDeliver = 0) :
    t.FlowDue now 5 ↔ s.FlowDue now 5 := by
  unfold FlowDue
  simp only [readings.controlFlowArray, target, ne_eq, not_true_eq_false, false_and, false_or]

/-- The stage of the garden's program is over by its duration. -/
theorem gardenOver_iff (program : s.irrigation.program = .garden) :
    s.StageOver now ↔ ¬ s.StageRunning now s.irrigation.timeProgramDuration := by
  unfold StageOver stageDuration
  rw [program]

/-- The same variables tell the same stage. -/
theorem stageOver_congr (same : t.irrigation = s.irrigation) :
    t.StageOver now ↔ s.StageOver now := by
  unfold StageOver StageRunning stageDuration
  rw [same]

/-! ## Stop, resume and start -/

theorem OutletBasis.forceStop (basis : OutletBasis s) :
    OutletInvariant (s.controlIrrigationTempForceStop now) := by
  have record : KeepsRecord 5 s (s.controlIrrigationTempForceStop now) := .forceStop
  have stopped : OutletBasis (s.controlIrrigationTempForceStop now) :=
    { known := by simpa using basis.known
      label := by simpa using basis.label
      resumable := by simp
      target := record.target.trans basis.target
      unpaused := by simp [controlIrrigationTempForceStop] }
  exact stopped.elsewhere (by simp)

theorem OutletBasis.prepareGenerator (basis : OutletBasis s)
    (resumable : s.irrigation.isStopped ≠ 0 → s.irrigation.programCurrent ≠ .both) :
    OutletInvariant (s.prepareGenerator now) := by
  have prepared : OutletBasis (s.prepareGenerator now) :=
    { basis with resumable := fun _ => resumable }
  exact prepared.elsewhere (by simp)

/-- A resume pauses no flow. -/
theorem resume_isPause (now : Nat) (s : Controller) :
    ((s.controlIrrigationTempResume now).controlFlowArray 5).isPause =
      (s.controlFlowArray 5).isPause := by
  unfold controlIrrigationTempResume
  split
  · rfl
  · split
    · rfl
    · cases s.irrigation.programCurrent with
      | group1 | group2 =>
          dsimp only
          unfold resumeGroup
          dsimp only
          split <;> rfl
      | cleaning | garden | both | unknown => rfl

/-- The resumed garden flow runs from the restored start of its program. -/
theorem resume_garden (stopped : s.irrigation.isStopped ≠ 0) (ready : s.irrigation.status = .ready)
    (current : s.irrigation.programCurrent = .garden) :
    ((s.controlIrrigationTempResume now).controlFlowArray 5).timeStart =
      (s.controlIrrigationTempResume now).irrigation.timeProgramStart := by
  unfold controlIrrigationTempResume
  rw [if_neg stopped, if_neg (by simp [ready]), current]
  rfl

/-- A resume in `READY` has an outlet, unless it finds `BOTH`. -/
theorem OutletBasis.resume_ready (basis : OutletBasis s) (ready : s.irrigation.status = .ready)
    (stopped : s.irrigation.isStopped ≠ 0) (named : s.irrigation.programCurrent ≠ .both) :
    OutletInvariant (s.controlIrrigationTempResume now) := by
  have irrigation := resume_ready_irrigation now s stopped ready
  have record : KeepsRecord 5 s (s.controlIrrigationTempResume now) := .resume
  have resumed : OutletBasis (s.controlIrrigationTempResume now) :=
    { known := by
        rw [irrigation]
        exact basis.known
      label := by
        rw [irrigation]
        exact basis.label
      resumable := by simp [irrigation, ready]
      target := record.target.trans basis.target
      unpaused := (resume_isPause now s).trans basis.unpaused }
  by_cases current : s.irrigation.programCurrent = .garden
  · refine ⟨resumed, fun _ => .inr ⟨?_, ?_, resume_garden stopped ready current⟩⟩
    · have runs := basis.label
      rw [current] at runs
      rw [irrigation]
      exact runs.garden
    · exact (resume_ready_flowActive now s stopped ready 5).mpr (.inr (.inl ⟨current, rfl⟩))
  · obtain ⟨valve, listed, opens⟩ :=
      Program.opened_group (basis.label.known basis.known) named current
    exact resumed.opened valve listed ((resume_ready_isOn now s stopped ready valve).mpr (.inl opens))

variable [FlowArithmetic]

/-- Of the programs only the garden's starts flow 5, and without a volume. -/
theorem start_gardenFlow (now : Nat) (s : Controller) (program : Program) (isCleaning : Flag)
    (ready : s.irrigation.status = .ready) :
    (s.controlIrrigationTempStart now program isCleaning).controlFlowArray 5 =
      if program = .garden then
        s.startedFlow now 5 0 (s.irrigation.timeProgramDuration / 1000).toUInt16
      else s.controlFlowArray 5 := by
  rw [start_ready_controlFlowArray now s program isCleaning ready]
  cases program with
  | group1 | group2 | both =>
      simp only [Program.startedFlows]
      split <;> rfl
  | cleaning | garden | unknown => rfl

section

variable (nothing : ∀ pulsesPerLiter, FlowArithmetic.pulsesToDeliver pulsesPerLiter 0 = 0)

include nothing

/-- A start in `READY` has an outlet if it names a program. -/
theorem OutletBasis.start_ready (basis : OutletBasis s) (program : Program) (isCleaning : Flag)
    (named : program.Known) (ready : s.irrigation.status = .ready) :
    OutletInvariant (s.controlIrrigationTempStart now program isCleaning) := by
  have irrigation := start_ready_irrigation now s program isCleaning ready
  have record := start_gardenFlow now s program isCleaning ready
  have label : program.Runs program.firstStage := by
    cases program <;> simp [Program.Runs, Program.firstStage]
  have started : OutletBasis (s.controlIrrigationTempStart now program isCleaning) := by
    refine ⟨?_, ?_, ?_, ?_, ?_⟩
    · rwa [irrigation]
    · rwa [irrigation]
    · simp [irrigation]
    · rw [record]
      split
      · exact nothing _
      · exact basis.target
    · rw [record]
      split
      · rfl
      · exact basis.unpaused
  by_cases garden : program = .garden
  · subst garden
    refine ⟨started, fun _ => .inr ⟨?_, ?_, ?_⟩⟩
    · rw [irrigation]
    · exact (start_ready_flowActive now s .garden isCleaning ready 5).mpr (.inr (.inl ⟨rfl, rfl⟩))
    · rw [record, irrigation]
      rfl
  · have stage : program.firstStage.Known ∧ program.firstStage ≠ .both ∧
        program.firstStage ≠ .garden := by
      cases program <;> simp_all [Program.firstStage, Program.Known]
    obtain ⟨valve, listed, opens⟩ := Program.opened_group stage.1 stage.2.1 stage.2.2
    exact started.opened valve listed
      ((start_ready_isOn now s program isCleaning ready valve).mpr (.inl opens))

/-! ## The update -/

omit nothing [FlowArithmetic] in
theorem OutletBasis.deviceToggle (basis : OutletBasis s) (device : Fin 15) (isActive : Flag) :
    OutletBasis (s.deviceToggle now device isActive) :=
  basis.frame (.of_eq rfl) rfl basis.unpaused

/-- Behind the last stage the cleaning begins or the pump goes off. -/
theorem OutletBasis.cleanOrFinish (basis : OutletBasis s) (isCleaning : Flag)
    (ready : s.irrigation.status = .ready) : OutletInvariant (s.cleanOrFinish now isCleaning) := by
  unfold Controller.cleanOrFinish
  split
  · exact basis.start_ready nothing .cleaning isCleaning trivial ready
  · have finished : OutletBasis (s.finishProgram now) := { basis with resumable := by simp }
    exact finished.elsewhere (by simp)

/-- A turn that finds an outlet, or the garden's duration over, leaves an outlet or the pump off. -/
theorem OutletBasis.updateProgram (basis : OutletBasis s) (ready : s.irrigation.status = .ready)
    (outlet : s.HasOutlet ∨ s.irrigation.program = .garden ∧ s.StageOver now) :
    OutletInvariant (s.updateProgram now) := by
  have turn := programTurn now s
  generalize s.updateProgram now = t at turn ⊢
  cases turn with
  | waits running => exact ⟨basis, fun _ => outlet.resolve_right fun expired => running expired.2⟩
  | endless unknown => exact absurd basis.known unknown
  | groupOver valve =>
      exact ((basis.deviceToggle 2 0).deviceToggle valve 0).cleanOrFinish nothing 1 ready
  | bothNext _ program =>
      have closed : OutletBasis (s.deviceToggle now 10 0) := basis.deviceToggle 10 0
      have next : OutletInvariant ((s.deviceToggle now 10 0).controlIrrigationTempStart now .group2
          s.irrigation.isCleaning) :=
        closed.start_ready nothing .group2 s.irrigation.isCleaning trivial ready
      have irrigation := start_ready_irrigation now (s.deviceToggle now 10 0) .group2
        s.irrigation.isCleaning ready
      have named : OutletBasis (((s.deviceToggle now 10 0).controlIrrigationTempStart now .group2
          s.irrigation.isCleaning).withIrrigation fun irrigation =>
            { irrigation with program := .both }) :=
        { next.toOutletBasis with
          known := trivial
          label := .inr (.inr (by simp [irrigation, Program.firstStage])) }
      exact named.opened 11 (by decide)
        ((start_ready_isOn now (s.deviceToggle now 10 0) .group2 _ ready 11).mpr
          (.inl (by decide)))
  | bothOver =>
      exact ((basis.deviceToggle 2 0).deviceToggle 11 0).cleanOrFinish nothing _ ready
  | washFirst =>
      have washed : OutletBasis ((s.deviceToggle now 12 0).deviceToggle now 10 1) :=
        (basis.deviceToggle 12 0).deviceToggle 10 1
      exact OutletBasis.opened { washed with } 10 (by decide) (by simp)
  | washSecond =>
      have washed : OutletBasis ((s.deviceToggle now 10 0).deviceToggle now 11 1) :=
        (basis.deviceToggle 10 0).deviceToggle 11 1
      exact OutletBasis.opened { washed with } 11 (by decide) (by simp)
  | washOver =>
      have washed : OutletBasis ((s.deviceToggle now 1 0).deviceToggle now 11 0) :=
        (basis.deviceToggle 1 0).deviceToggle 11 0
      exact OutletBasis.elsewhere { washed with resumable := by simp } (by simp)
  | gardenOver =>
      exact OutletBasis.elsewhere { basis with resumable := by simp } (by simp)

/-- The end of the preparation has an outlet, by a start as by a resume. -/
theorem OutletBasis.beginProgram (basis : OutletBasis s)
    (preparing : s.irrigation.status = .preparing) : OutletInvariant (s.beginProgram now) := by
  have pumping : OutletBasis (s.beginPumping now) := { basis with resumable := by simp }
  unfold Controller.beginProgram
  split
  · exact pumping.start_ready nothing _ s.irrigation.isCleaning basis.known rfl
  · rename_i stopped
    exact pumping.resume_ready rfl stopped (basis.resumable preparing stopped)

theorem OutletBasis.update (basis : OutletBasis s)
    (outlet : s.irrigation.status = .ready →
      s.HasOutlet ∨ s.irrigation.program = .garden ∧ s.StageOver now) :
    OutletInvariant (s.controlIrrigationTempUpdate now) := by
  have step := updateStep now s
  generalize s.controlIrrigationTempUpdate now = t at step ⊢
  cases step with
  | idle status | warming status | cooling status => exact basis.elsewhere (by simp [status])
  | begins status => exact basis.beginProgram nothing status
  | runs status => exact basis.updateProgram nothing status (outlet status)
  | stops => exact basis.forceStop
  | shuts => exact OutletBasis.elsewhere { basis with resumable := by simp } (by simp)

/-! ## Commands -/

/-- An outlet survives a command that keeps one. -/
theorem OutletInvariant.obey {clock : Nat} {command : Option Operation} (inv : OutletInvariant s)
    (power : PowerInvariant clock s) (allowed : ∀ operation ∈ command, operation.LeavesOutlets)
    (kept : ∀ operation ∈ command, operation.KeepsOutlet s) :
    OutletInvariant (s.obey now command) := by
  cases command with
  | none => exact inv
  | some operation =>
      have leaves := allowed operation rfl
      have keeps := kept operation rfl
      change OutletInvariant (operation.run now s)
      cases operation with
      | start program isCleaning =>
          change OutletInvariant (s.controlIrrigationTempStart now program isCleaning)
          by_cases ready : s.irrigation.status = .ready
          · exact inv.toOutletBasis.start_ready nothing program isCleaning keeps ready
          · have assigned : OutletBasis (s.startAssign program isCleaning) :=
              { inv.toOutletBasis with
                known := keeps
                label := by cases program <;> simp [Program.Runs]
                resumable := by simp }
            rw [start_of_not_ready now s program isCleaning ready]
            exact assigned.prepareGenerator (by simp)
      | forceStop => exact inv.toOutletBasis.forceStop
      | resume =>
          change OutletInvariant (s.controlIrrigationTempResume now)
          by_cases running : s.irrigation.isStopped = 0
          · rwa [resume_of_not_stopped now s running]
          · rw [resume_of_not_ready now s running (power.elsewhere running)]
            exact inv.toOutletBasis.prepareGenerator keeps
      | faultyDetectionToggle | pulsesTotalSet =>
          exact inv.frame (machineKept id now s) rfl fun _ => Iff.rfl
      | assign setting =>
          have flows : (s.assign setting).controlFlowArray = s.controlFlowArray := by
            cases setting <;> rfl
          exact inv.frame (machineKept id now s) flows fun device => s.assign_isOn setting device
      | _ => exact leaves.elim

end

/-! ## Iterations -/

section

variable {clock : Nat} {input : LoopInput} {command : Option Operation}

/-- Up to `control_irrigation_temp_update` an outlet stays, or the garden's duration is over. -/
theorem OutletInvariant.atIrrigation (inv : OutletInvariant s) (well : ¬ s.FlowActive 0)
    (garden : s.GardenAlone → s.GardenKept input) :
    OutletBasis (s.atIrrigation input) ∧
      ((s.atIrrigation input).irrigation.status = .ready →
        (s.atIrrigation input).HasOutlet ∨
          (s.atIrrigation input).irrigation.program = .garden ∧
            (s.atIrrigation input).StageOver input.irrigation.now) := by
  have reading := ReadingsOnly.atControlFlow input s
  have found := inv.readings reading
  have irrigation := atIrrigation_irrigation input s
  have flows : (s.atIrrigation input).controlFlowArray = _ :=
    (ReadingsOnly.interrupt input.irrigation _).controlFlowArray
  have schedule := SameSchedule.controlFlowUpdate input.controlFlow.now 5 (s.atControlFlow input)
  have basis : OutletBasis (s.atIrrigation input) := by
    refine inv.toOutletBasis.frame (.of_eq irrigation) ?_ ?_
    · rw [flows, schedule.target, reading.controlFlowArray]
    · rw [flows]
      exact controlFlowUpdate_isPause input.controlFlow.now found.unpaused
  refine ⟨basis, fun ready => ?_⟩
  rw [irrigation] at ready
  by_cases group : ∃ valve ∈ groupValves, s.IsOn valve
  · obtain ⟨valve, listed, on⟩ := group
    exact .inl (.inl ⟨valve, listed, (atIrrigation_isOn well (.inr listed)).mpr on⟩)
  · have waters := (inv.outlet ready).resolve_left group
    have kept := garden ⟨ready, waters.program, fun valve listed on => group ⟨valve, listed, on⟩⟩
    by_cases due : s.FlowDue input.controlFlow.now 5
    · refine .inr ⟨irrigation ▸ waters.program, ?_⟩
      rw [stageOver_congr irrigation, gardenOver_iff waters.program]
      exact kept.limit due
    · refine .inl (.inr ⟨irrigation ▸ waters.program, ?_, ?_⟩)
      · unfold FlowActive
        rw [flows]
        refine (controlFlowUpdate_flowActive_iff input.controlFlow.now found.unpaused).mpr ⟨?_, ?_⟩
        · exact (reading.flowActive_iff 5).mpr waters.active
        · rwa [gardenDue_iff reading inv.target]
      · rw [flows, schedule.start, reading.controlFlowArray, irrigation]
        exact waters.start

/-- The controller when a typed line is obeyed. -/
def atSerial (input : LoopInput) (command : Option Operation) (s : Controller) : Controller :=
  input.interfaceSerial.interrupt ((s.atDispatch input).obey input.interface.now command)

/-- What the iteration is asked for and what it finds running keep an outlet. -/
structure KeepsOutlets (input : LoopInput) (command : Option Operation) (s : Controller) :
    Prop where
  network : ∀ operation ∈ command, operation.KeepsOutlet (s.atDispatch input)
  serial : ∀ operation ∈ input.serial.operation (s.atSerial input command),
    operation.KeepsOutlet (s.atSerial input command)
  garden : s.GardenAlone → s.GardenKept input

/-- The power when a typed line is obeyed. -/
theorem powerInvariant_atSerial (power : PowerInvariant clock s) (ordered : input.Ordered clock)
    (commanded : Commanded input command) :
    PowerInvariant input.interfaceSerial.now (s.atSerial input command) :=
  ((power.atDispatch ordered).obey (Nat.le_refl _) commanded.network).interrupt
    ordered.interfaceSerial

/-- An iteration keeps an outlet. -/
theorem OutletInvariant.pass
    (nothing : ∀ pulsesPerLiter, FlowArithmetic.pulsesToDeliver pulsesPerLiter 0 = 0)
    (inv : OutletInvariant s) (power : PowerInvariant clock s) (ordered : input.Ordered clock)
    (commanded : Commanded input command) (keeps : s.KeepsOutlets input command) :
    OutletInvariant (s.pass input command) := by
  obtain ⟨basis, outlet⟩ := inv.atIrrigation power.well keeps.garden
  have updated := basis.update nothing outlet
  have dispatching : OutletInvariant (s.atDispatch input) :=
    (updated.readings (.interrupt input.internet _)).readings (.interrupt input.interface _)
  have dispatched : OutletInvariant ((s.atDispatch input).obey input.interface.now command) :=
    dispatching.obey nothing (power.atDispatch ordered) commanded.network keeps.network
  have serving : OutletInvariant (s.atSerial input command) :=
    dispatched.readings (.interrupt input.interfaceSerial _)
  exact serving.obey nothing (powerInvariant_atSerial power ordered commanded)
    (commanded.serial _) keeps.serial

/-- While it is not due the garden flow opens its valve, as soon as the minimum time allows it. -/
theorem OutletBasis.gardenValveOpens (basis : OutletBasis s) (active : s.FlowActive 5)
    (running : ¬ s.FlowDue input.controlFlow.now 5)
    (passed : s.deviceIsTimeSwitchMinimumPassed input.controlFlow.now 13 = true) :
    (s.atControlFlow input).GardenValveOpens input.controlFlow.now := by
  have reading := ReadingsOnly.atControlFlow input s
  refine ⟨⟨(reading.flowActive_iff 5).mpr active, ?_⟩, ?_, .inl ?_, ?_⟩
  · rw [reading.controlFlowArray]
    exact basis.unpaused
  · rwa [gardenDue_iff reading basis.target]
  · rw [reading.controlFlowArray, basis.target]
  · unfold deviceIsTimeSwitchMinimumPassed
    rwa [reading.deviceArray]

/-- The commands of an iteration make no pump dead-head: it does so at the end only if it does behind
`control_irrigation_temp_update`. -/
theorem pass_deadHeads (power : PowerInvariant clock s) (ordered : input.Ordered clock)
    (commanded : Commanded input command) (dead : (s.pass input command).DeadHeads) :
    ((s.atIrrigation input).controlIrrigationTempUpdate input.irrigation.now).DeadHeads := by
  have powered := powerInvariant_atSerial power ordered commanded
  have served := obey_deadHeads powered (commanded.serial _) dead
  have obeyed := (DeadHeads.congr (ReadingsOnly.interrupt input.interfaceSerial _).isOn_iff).mp
    served
  have dispatched := obey_deadHeads (power.atDispatch ordered) commanded.network obeyed
  have internet := (DeadHeads.congr (ReadingsOnly.interrupt input.interface _).isOn_iff).mp
    dispatched
  exact (DeadHeads.congr (ReadingsOnly.interrupt input.internet _).isOn_iff).mp internet

/-- An iteration that begins with the pump dead-heading does not end so. -/
theorem OutletInvariant.pass_relieves (inv : OutletInvariant s) (power : PowerInvariant clock s)
    (ordered : input.Ordered clock) (commanded : Commanded input command)
    (keeps : s.KeepsOutlets input command) (dead : s.DeadHeads) :
    ¬ (s.pass input command).DeadHeads := by
  intro still
  have updated := pass_deadHeads power ordered commanded still
  have irrigation := atIrrigation_irrigation input s
  have ready := power.pump.mp dead.pump
  have waters : s.GardenWaters := by
    refine (inv.outlet ready).resolve_left ?_
    rintro ⟨valve, listed, on⟩
    exact dead.groups valve listed on
  have kept := keeps.garden ⟨ready, waters.program, dead.groups⟩
  obtain ⟨closed, unrelieved⟩ := (update_deadHeads (irrigation ▸ ready)
    ((atIrrigation_isOn power.well (.inl rfl)).mpr dead.pump)
    fun valve listed => mt (atIrrigation_isOn power.well (.inr listed)).mp
      (dead.groups valve listed)).mp updated
  by_cases due : s.FlowDue input.controlFlow.now 5
  · refine unrelieved (.inr ⟨irrigation ▸ inv.known, ?_⟩)
    rw [stageOver_congr irrigation, gardenOver_iff waters.program]
    exact kept.limit due
  · exact closed ((atIrrigation_garden dead.garden).mpr
      (inv.gardenValveOpens waters.active due ((kept.valve due).resolve_left dead.garden)))

end

end Controller

/-! ## Runs of the loop -/

section

variable [FlowArithmetic] {start : System} {inputs : List LoopInput}

/-- Every iteration of the run meets `property`, which may look at its input and at the memory
before and after it. -/
def EachIteration (property : LoopInput → System → System → Prop) (start : System) :
    List LoopInput → Prop
  | [] => True
  | input :: prior => EachIteration property start prior ∧
      ∀ s after, start.after prior = .ok s → s.loop input = .ok after → property input s after

theorem EachIteration.and {first second : LoopInput → System → System → Prop}
    (one : EachIteration first start inputs) (other : EachIteration second start inputs) :
    EachIteration (fun input s after => first input s after ∧ second input s after) start
      inputs := by
  induction inputs with
  | nil => trivial
  | cons input prior ih =>
      exact ⟨ih one.1 other.1, fun s after led looped =>
        ⟨one.2 s after led looped, other.2 s after led looped⟩⟩

/-- An invariant that iterations with a property keep holds at the end of every ordered run of them,
and what each of them does from it is done in each. -/
theorem EachIteration.along {property result : LoopInput → System → System → Prop} {origin : Nat}
    (invariant : Nat → System → Prop) (initial : invariant origin start)
    (step : ∀ {clock input s after}, invariant clock s → input.Ordered clock →
      s.loop input = .ok after → property input s after →
      invariant input.interfaceSerial.now after ∧ result input s after)
    (ordered : OrderedRun origin inputs) (each : EachIteration property start inputs) :
    (∀ s, start.after inputs = .ok s → invariant (clock origin inputs) s) ∧
      EachIteration result start inputs := by
  induction inputs with
  | nil =>
      refine ⟨fun s reached => ?_, trivial⟩
      obtain rfl := Except.ok.inj reached
      exact initial
  | cons input prior ih =>
      obtain ⟨earlier, moments⟩ := ordered
      obtain ⟨before, last⟩ := each
      obtain ⟨held, done⟩ := ih earlier before
      refine ⟨fun s reached => ?_, done, fun s after led looped =>
        (step (held s led) moments looped (last s after led looped)).2⟩
      cases led : start.after prior with
      | error outside =>
          rw [System.after, led] at reached
          cases reached
      | ok previous =>
          rw [System.after, led] at reached
          exact (step (held previous led) moments reached (last previous s led reached)).1

/-- The pump never dead-heads at the end of two consecutive iterations of a run in which every
iteration keeps an outlet. -/
theorem pump_outlets
    (nothing : ∀ pulsesPerLiter, FlowArithmetic.pulsesToDeliver pulsesPerLiter 0 = 0) (now : Nat)
    (answers : ChipAnswers) (ordered : OrderedRun setupTime inputs)
    (commanded : EachIteration
      (fun input s _ => Controller.Commanded input (s.networkCommand input))
      (System.setup now answers) inputs)
    (keeps : EachIteration
      (fun input s _ => s.controller.KeepsOutlets input (s.networkCommand input))
      (System.setup now answers) inputs) :
    EachIteration (fun _ s after => ¬ (s.controller.DeadHeads ∧ after.controller.DeadHeads))
      (System.setup now answers) inputs := by
  refine (EachIteration.along
    (fun clock s => PowerInvariant clock s.controller ∧ OutletInvariant s.controller)
    ⟨.boot setupTime, .boot⟩ ?_ ordered (commanded.and keeps)).2
  rintro clock input s after ⟨power, inv⟩ moments looped ⟨allowed, kept⟩
  have passed : after.controller = _ := System.loop_pass input s after looped
  rw [passed]
  refine ⟨⟨power.pass moments allowed, inv.pass nothing power moments allowed kept⟩, ?_⟩
  rintro ⟨dead, still⟩
  exact inv.pass_relieves power moments allowed kept dead still

end

/-- The Arduino when `setup()` has found its network. -/
def networked : System :=
  System.setup 3000
    { ethernetBegins := true
      udpBegins := true
      resolved := some 7
      isSent := true
      arrived := none
      later := 3000 }

/-- One iteration at this time, with the datagram that it finds. -/
def iteration (now : Nat) (arrived : Option Datagram) : LoopInput :=
  let moment : Moment := ⟨[], now⟩
  let chip : ChipAnswers :=
    { ethernetBegins := true
      udpBegins := true
      resolved := some 7
      isSent := true
      arrived := arrived
      later := now }
  { device := moment
    sensorFlow := moment
    sensorPressure := moment
    controlFlow := moment
    irrigation := moment
    internet := moment
    interface := moment
    interfaceSerial := moment
    readings := fun _ => 0
    chip := chip
    answers := ⟨fun _ => true, now⟩
    serial := ⟨false, [], chip⟩ }

/-- The server sends START with this program. -/
def startSent (program : UInt8) : Datagram :=
  ⟨7, internetRemotePort, [wrapperByteStart, 4, serverId, 83, program, 0, wrapperByteEnd],
    by simp⟩

/-- The memory that this run leads to. -/
def networkedAfter (inputs : List LoopInput) : System :=
  (networked.after inputs).toOption.getD networked

theorem networkedAfter_eq {inputs : List LoopInput} {s : System}
    (led : networked.after inputs = .ok s) : s = networkedAfter inputs := by
  unfold networkedAfter
  rw [led]
  rfl

/-- The pump goes on at 9000 ms, and the next iteration opens the garden valve. -/
def gardenRun : List LoopInput :=
  [iteration 9500 none, iteration 9000 none, iteration 4000 (some (startSent 4))]

/-- Nothing but the START of the garden program arrives, and its outlet comes in time. -/
theorem pump_outlets_garden :
    (networkedAfter gardenRun.tail).controller.DeadHeads ∧
      EachIteration (fun _ s after => ¬ (s.controller.DeadHeads ∧ after.controller.DeadHeads))
        networked gardenRun := by
  have ordered : OrderedRun setupTime gardenRun := by
    refine ⟨⟨⟨trivial, ?_⟩, ?_⟩, ?_⟩ <;> constructor <;> decide
  have asked : networked.networkCommand (iteration 4000 (some (startSent 4))) =
      some (.start .garden 0) := rfl
  have warms : (networkedAfter [iteration 4000 (some (startSent 4))]).networkCommand
      (iteration 9000 none) = none := rfl
  have flows : (networkedAfter [iteration 9000 none,
      iteration 4000 (some (startSent 4))]).networkCommand (iteration 9500 none) = none := rfl
  have silent {property : Operation → Prop} : ∀ operation ∈ (none : Option Operation),
      property operation := fun _ listed => absurd listed (Option.not_mem_none _)
  have commanded : EachIteration
      (fun input s _ => Controller.Commanded input (s.networkCommand input)) networked
      gardenRun := by
    refine ⟨⟨⟨trivial, fun s _ led _ => ⟨?_, fun _ => silent⟩⟩,
      fun s _ led _ => ⟨?_, fun _ => silent⟩⟩, fun s _ led _ => ⟨?_, fun _ => silent⟩⟩
    · obtain rfl := Except.ok.inj led
      rw [asked]
      rintro operation ⟨⟩
      trivial
    · rw [networkedAfter_eq led, warms]
      exact silent
    · rw [networkedAfter_eq led, flows]
      exact silent
  have keeps : EachIteration
      (fun input s _ => s.controller.KeepsOutlets input (s.networkCommand input)) networked
      gardenRun := by
    refine ⟨⟨⟨trivial, fun s _ led _ => ⟨?_, silent, ?_⟩⟩, fun s _ led _ => ⟨?_, silent, ?_⟩⟩,
      fun s _ led _ => ⟨?_, silent, ?_⟩⟩
    · obtain rfl := Except.ok.inj led
      rw [asked]
      rintro operation ⟨⟩
      trivial
    · obtain rfl := Except.ok.inj led
      exact fun alone => absurd alone.status (by decide)
    · rw [networkedAfter_eq led, warms]
      exact silent
    · rw [networkedAfter_eq led]
      exact fun alone => absurd alone.status (by decide +kernel)
    · rw [networkedAfter_eq led, flows]
      exact silent
    · rw [networkedAfter_eq led]
      -- flow 5 has the 900 seconds of the program
      have waters : (networkedAfter [iteration 9000 none,
          iteration 4000 (some (startSent 4))]).controller.GardenWaters :=
        ⟨by decide +kernel, by decide +kernel, by decide +kernel⟩
      exact fun _ => ⟨fun _ => .inr (by decide +kernel),
        waters.limit (by decide +kernel) (fun _ => by decide +kernel) (by decide +kernel)⟩
  exact ⟨by decide +kernel,
    pump_outlets (fun _ => by simp [FlowArithmetic.pulsesToDeliver]) 3000 _ ordered commanded keeps⟩

/-- A program without an enumerator runs the pump against closed valves. -/
def unknownRun : List LoopInput :=
  [iteration 9500 none, iteration 9000 none, iteration 4000 (some (startSent 5))]

theorem pump_without_outlet :
    ∃ s after, networked.after unknownRun.tail = .ok s ∧ s.loop (iteration 9500 none) = .ok after ∧
      s.controller.DeadHeads ∧ after.controller.DeadHeads := by
  refine ⟨networkedAfter unknownRun.tail, networkedAfter unknownRun, rfl, rfl, ?_, ?_⟩
  · decide +kernel
  · decide +kernel

end BlueberryIrrigation
