import BlueberryIrrigation.Controller.Operation
import BlueberryIrrigation.Semantics.Timetable

/-!
# The plan a program stands for

`stagesAhead` reads the rest of the plan back from the machine's state: from the program, the
cleaning flag and the relays that stand for the stage. `updateProgram_enters` and its
companions say that a stage that is over makes room for the first of the stages behind it,
whatever valves were open before.
-/

namespace BlueberryIrrigation

open Semantics Controller

/-- The stages of a run, in terms of what they are for. -/
inductive Stage where
  | preparing
  | group1
  | group2
  | wash3
  | wash1
  | wash2
  | garden
  | finishing
deriving DecidableEq, Repr

/-- The cleaning program, whose first stage is the one the group valves name: an open valve 10
or 11 is taken for a later stage, which then keeps the first one's duration. -/
def washing (irrigation : Irrigation) (open10 open11 : Bool) : List (Planned Stage) :=
  let first := irrigation.timeCleaningGroup3Duration.toNat
  let later := irrigation.timeCleaningGroup12Duration.toNat
  if open10 then [⟨.wash1, first⟩, ⟨.wash2, first⟩]
  else if open11 then [⟨.wash2, first⟩]
  else [⟨.wash3, first⟩, ⟨.wash1, later⟩, ⟨.wash2, later⟩]

/-- What follows the irrigation stages. -/
def cleaningAfter (irrigation : Irrigation) (open10 open11 : Bool) : List (Planned Stage) :=
  if irrigation.isCleaning ≠ 0 then washing irrigation open10 open11 else []

/-- The stages of a program that is begun with these valves open. -/
def Program.stages (program : Program) (irrigation : Irrigation) (open10 open11 : Bool) :
    List (Planned Stage) :=
  let duration := irrigation.timeProgramDuration.toNat
  match program with
  | .group1 => ⟨.group1, duration⟩ :: cleaningAfter irrigation false open11
  | .group2 => ⟨.group2, duration⟩ :: cleaningAfter irrigation open10 false
  | .both => ⟨.group1, duration⟩ :: ⟨.group2, duration⟩ :: cleaningAfter irrigation false false
  | .cleaning => washing irrigation open10 open11
  | .garden => [⟨.garden, duration⟩]
  | .unknown _ => []

/-- The generator's cool-down, which ends every plan. -/
def coolDown (irrigation : Irrigation) : Planned Stage :=
  ⟨.finishing, irrigation.timeGeneratorWait.toNat⟩

namespace Controller

/-- The stage that runs in `READY`, as the update tells it. -/
def currentStage (s : Controller) : Stage :=
  match s.irrigation.program with
  | .group1 => .group1
  | .group2 => .group2
  | .both => if s.IsOn 10 then .group1 else .group2
  | .cleaning => if s.IsOn 10 then .wash1 else if s.IsOn 11 then .wash2 else .wash3
  | .garden | .unknown _ => .garden

/-- The stages behind the one that runs in `READY`. -/
def laterStages (s : Controller) : List (Planned Stage) :=
  match s.irrigation.program with
  | .group1 => cleaningAfter s.irrigation false (decide (s.IsOn 11))
  | .group2 => cleaningAfter s.irrigation (decide (s.IsOn 10)) false
  | .both =>
      if s.IsOn 10 then
        ⟨.group2, s.irrigation.timeProgramDuration.toNat⟩ :: cleaningAfter s.irrigation false false
      else cleaningAfter s.irrigation false false
  | .cleaning =>
      if s.IsOn 10 then [⟨.wash2, s.irrigation.timeCleaningDuration.toNat⟩]
      else if s.IsOn 11 then []
      else
        [⟨.wash1, s.irrigation.timeCleaningGroup12Duration.toNat⟩,
          ⟨.wash2, s.irrigation.timeCleaningGroup12Duration.toNat⟩]
  | .garden | .unknown _ => []

/-- The stages of a program in `READY`. -/
def readyStages (s : Controller) : List (Planned Stage) :=
  ⟨s.currentStage, s.stageDuration.toNat⟩ :: s.laterStages

/-- The rest of the plan, when nothing is stopped. -/
def stagesAhead (s : Controller) : List (Planned Stage) :=
  match s.irrigation.status with
  | .finished => []
  | .preparing =>
      ⟨.preparing, s.irrigation.timeGeneratorWait.toNat⟩ ::
        (s.irrigation.program.stages s.irrigation (decide (s.IsOn 10)) (decide (s.IsOn 11)) ++
          [coolDown s.irrigation])
  | .ready => s.readyStages ++ [coolDown s.irrigation]
  | .finishing => [coolDown s.irrigation]

/-- The timestamp the current stage is measured from. -/
def stageStart (s : Controller) : UInt32 :=
  match s.irrigation.status with
  | .ready => s.irrigation.timeProgramStart
  | _ => s.irrigation.timeGeneratorStart

/-- The machine has just entered the first of these stages. -/
structure Enters (now : Nat) (stages : List (Planned Stage)) (t : Controller) : Prop where
  ahead : t.stagesAhead = stages
  start : t.stageStart = millis now
  known : t.irrigation.program.Known
  running : t.irrigation.isStopped = 0

variable (now : Nat) (s : Controller)

section

variable [FlowArithmetic]

/-- A start in `READY` enters the program's first stage. -/
theorem start_enters (program : Program) (isCleaning : Flag) (known : program.Known)
    (ready : s.irrigation.status = .ready) :
    Enters now
      (program.stages { s.irrigation with isCleaning := isCleaning } (decide (s.IsOn 10))
        (decide (s.IsOn 11)) ++ [coolDown s.irrigation])
      (s.controlIrrigationTempStart now program isCleaning) := by
  have irrigation := start_ready_irrigation now s program isCleaning ready
  have first := start_ready_isOn now s program isCleaning ready 10
  have second := start_ready_isOn now s program isCleaning ready 11
  generalize s.controlIrrigationTempStart now program isCleaning = t at irrigation first second ⊢
  have status : t.irrigation.status = .ready := by
    rw [irrigation]
    exact ready
  refine ⟨?_, ?_, ?_, ?_⟩
  · have stages : t.readyStages =
        program.stages { s.irrigation with isCleaning := isCleaning } (decide (s.IsOn 10))
          (decide (s.IsOn 11)) := by
      unfold readyStages currentStage laterStages stageDuration
      simp only [first, second]
      rw [irrigation]
      cases program with
      | group1 | group2 | both =>
          simp [Program.stages, Program.firstStage, Program.opened, cleaningAfter, washing]
      | cleaning =>
          by_cases open10 : s.IsOn 10 <;> by_cases open11 : s.IsOn 11 <;>
            simp [Program.stages, Program.firstStage, Program.opened, washing, open10, open11]
      | garden => rfl
      | unknown => exact known.elim
    unfold stagesAhead
    rw [status, stages, irrigation]
    rfl
  · unfold stageStart
    rw [status, irrigation]
    exact if_pos known
  · rw [irrigation]
    exact known
  · rw [irrigation]

/-- Where the irrigation stages end, the machine enters the cleaning or the cool-down. -/
theorem cleanOrFinish_enters (isCleaning : Flag) (known : s.irrigation.program.Known)
    (running : s.irrigation.isStopped = 0) (ready : s.irrigation.status = .ready) :
    Enters now
      (cleaningAfter s.irrigation (decide (s.IsOn 10)) (decide (s.IsOn 11)) ++
        [coolDown s.irrigation])
      (s.cleanOrFinish now isCleaning) := by
  unfold cleanOrFinish cleaningAfter
  split
  · exact start_enters now s .cleaning isCleaning trivial ready
  · exact ⟨rfl, rfl, known, running⟩

/-- When the preparation is over, the program's first stage begins. -/
theorem beginProgram_enters (known : s.irrigation.program.Known)
    (running : s.irrigation.isStopped = 0) :
    Enters now
      (s.irrigation.program.stages s.irrigation (decide (s.IsOn 10)) (decide (s.IsOn 11)) ++
        [coolDown s.irrigation])
      (s.beginProgram now) := by
  have started := start_enters now (s.beginPumping now) s.irrigation.program
    s.irrigation.isCleaning known rfl
  unfold beginProgram
  rw [if_pos running]
  exact started

/-- When a stage is over, the program's next one begins, or the cool-down. -/
theorem updateProgram_enters (known : s.irrigation.program.Known)
    (running : s.irrigation.isStopped = 0) (ready : s.irrigation.status = .ready)
    (expired : s.StageOver now) :
    Enters now (s.laterStages ++ [coolDown s.irrigation]) (s.updateProgram now) := by
  have turn := programTurn now s
  generalize s.updateProgram now = t at turn ⊢
  cases turn with
  | waits still => exact absurd expired still
  | endless unknown => exact absurd known unknown
  | groupOver valve _ group =>
      have entered := cleanOrFinish_enters now ((s.deviceToggle now 2 0).deviceToggle now valve 0) 1
        known running ready
      rcases group with ⟨program, rfl⟩ | ⟨program, rfl⟩
      · simpa [laterStages, program] using entered
      · simpa [laterStages, program] using entered
  | bothNext _ program first =>
      have irrigation := start_ready_irrigation now (s.deviceToggle now 10 0) .group2
        s.irrigation.isCleaning ready
      have closed : ¬ ((s.deviceToggle now 10 0).controlIrrigationTempStart now .group2
          s.irrigation.isCleaning).IsOn 10 := by
        rw [start_ready_isOn now (s.deviceToggle now 10 0) .group2 s.irrigation.isCleaning ready]
        simp [Program.firstStage, Program.opened]
      refine ⟨?_, ?_, trivial, ?_⟩
      · simp [stagesAhead, readyStages, currentStage, laterStages, stageDuration, cleaningAfter,
          washing, coolDown, irrigation, closed, program, first, ready]
      · simp [stageStart, irrigation, ready, Program.Known]
      · simp [irrigation]
  | bothOver _ program second =>
      have entered := cleanOrFinish_enters now ((s.deviceToggle now 2 0).deviceToggle now 11 0)
        s.irrigation.isCleaning known running ready
      simpa [laterStages, program, second] using entered
  | washFirst _ program closed =>
      refine ⟨?_, ?_, known, running⟩
      · simp [stagesAhead, readyStages, laterStages, currentStage, stageDuration, coolDown,
          program, closed, ready]
      · simp [stageStart, ready]
  | washSecond _ program first =>
      refine ⟨?_, ?_, known, running⟩
      · simp [stagesAhead, readyStages, laterStages, currentStage, stageDuration, coolDown,
          program, first, ready]
      · simp [stageStart, ready]
  | washOver _ program second =>
      refine ⟨?_, rfl, known, running⟩
      simp [stagesAhead, laterStages, program, second, coolDown]
  | gardenOver _ program =>
      refine ⟨?_, rfl, known, running⟩
      simp [stagesAhead, laterStages, program, coolDown]

end

end Controller
end BlueberryIrrigation
