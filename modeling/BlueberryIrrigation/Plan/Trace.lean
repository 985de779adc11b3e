import BlueberryIrrigation.Plan.Follows
import BlueberryIrrigation.Safety.Zones

/-!
# The valves of a whole program

A stage is not stored: the machine tells it from the relays it has switched itself. From idle
those relays are exactly the running stage's, so the valves open in the order of the plan and
the acid pump runs in the irrigation stages and in no other.
-/

namespace BlueberryIrrigation

open Semantics Controller

/-- The relays of a stage, among those that tell the stages apart. -/
def Stage.relays : Stage → List (Fin 15)
  | .group1 => [2, 10]
  | .group2 => [2, 11]
  | .wash3 => [12]
  | .wash1 => [10]
  | .wash2 => [11]
  | .preparing | .garden | .finishing => []

/-- The group valves a stage opens. -/
def Stage.valves (stage : Stage) : List (Fin 15) :=
  stage.relays.filter fun device => device ∈ groupValves

/-- The relays of the first of these stages. -/
def firstRelays : List (Planned Stage) → List (Fin 15)
  | [] => []
  | planned :: _ => planned.stage.relays

/-- The group valve that an event opens, with its time. -/
def opening : Nat × Event → Option (Fin 15 × Nat)
  | (time, .deviceToggle device isActive) =>
      if device ∈ groupValves ∧ isActive ≠ 0 then some (device, time) else none
  | _ => none

/-- The openings of the group valves, newest first. -/
def openings (trace : List (Nat × Event)) : List (Fin 15 × Nat) := trace.filterMap opening

/-- The openings that the stages begun so far stand for. -/
def valvesBegun (begun : List (Begun Stage)) : List (Fin 15 × Nat) :=
  begun.flatMap fun begun => begun.stage.valves.map fun valve => (valve, begun.time)

/-! ## What opens a group valve -/

namespace Controller

variable (now : Nat) (s : Controller)

@[simp] theorem openings_digitalWrite (pin level : UInt8) (trace : List (Nat × Event)) :
    openings ((now, .digitalWrite pin level) :: trace) = openings trace := rfl

theorem openings_relayWrites (device : Device) (isActive : Flag) (trace : List (Nat × Event)) :
    openings ((s.relayWrites device isActive).map (fun event => (now, event)) ++ trace) =
      openings trace := by
  unfold relayWrites
  cases device.deviceExtension with
  | none => rfl
  | some index => by_cases held : (s.deviceExtensionArray index).isHold = 0 <;> simp [held]

@[simp] theorem deviceToggle_openings (device : Fin 15) (isActive : Flag) :
    openings (s.deviceToggle now device isActive).trace =
      if device ∈ groupValves ∧ isActive ≠ 0 then (device, now) :: openings s.trace
      else openings s.trace := by
  have writes := openings_relayWrites now s (s.deviceArray device) isActive s.trace
  unfold openings at writes ⊢
  by_cases opens : device ∈ groupValves ∧ isActive ≠ 0
  · simp only [deviceToggle, List.cons_append, List.filterMap_cons, opening, if_pos opens, writes]
  · simp only [deviceToggle, List.cons_append, List.filterMap_cons, opening, if_neg opens, writes]

@[simp] theorem withIrrigation_openings (change : Irrigation → Irrigation) :
    openings (s.withIrrigation change).trace = openings s.trace := rfl

@[simp] theorem startAssign_openings (program : Program) (isCleaning : Flag) :
    openings (s.startAssign program isCleaning).trace = openings s.trace := rfl

@[simp] theorem beginStage_openings (stage : Program) :
    openings (s.beginStage now stage).trace = openings s.trace := rfl

@[simp] theorem finishProgram_openings :
    openings (s.finishProgram now).trace = openings s.trace := by
  simp [finishProgram, groupValves]

@[simp] theorem beginPumping_openings :
    openings (s.beginPumping now).trace = openings s.trace := by
  simp [beginPumping, groupValves]

@[simp] theorem shutDown_openings : openings (s.shutDown now).trace = openings s.trace := by
  simp [shutDown]

@[simp] theorem controlFlowStop_openings (flow : Fin 6) :
    openings (s.controlFlowStop now flow).trace = openings s.trace := by
  unfold controlFlowStop
  dsimp only
  split
  · split <;> simp [setFlow]
  · simp [setFlow]

@[simp] theorem deviceUpdate_openings : openings (s.deviceUpdate now).trace = openings s.trace := by
  change openings (s.deviceRelease now 0).trace = _
  unfold deviceRelease
  dsimp only
  split
  · rfl
  · split <;> rfl

section

variable [FlowArithmetic]

@[simp] theorem controlFlowUpdate_openings :
    openings (s.controlFlowUpdate now).trace = openings s.trace := by
  have driven : ∀ flow : Fin 6, controlFlowDevice flow ∉ groupValves := by decide
  refine controlFlowUpdate_preserves now (fun t => openings t.trace = openings s.trace) ?_ ?_ ?_ ?_
    ?_ rfl
  · exact fun flow t same _ _ => (controlFlowStop_openings now t flow).trans same
  · intro flow isActive t same _ _
    rw [deviceToggle_openings, if_neg fun opens => driven flow opens.1]
    exact same
  · exact fun t same _ => (deviceToggle_openings now t 3 1).trans same
  · exact fun isActive t same _ => (deviceToggle_openings now t 9 isActive).trans same
  · exact fun t u same detection => by rw [detection.trace, same]

theorem beginGroup_openings (valve : Fin 15) (group : Program) (listed : valve ∈ groupValves) :
    openings (s.beginGroup now valve group).trace = (valve, now) :: openings s.trace := by
  have opened : openings ((s.deviceToggle now 2 1).deviceToggle now valve 1).trace =
      (valve, now) :: openings s.trace := by
    rw [deviceToggle_openings, if_pos ⟨listed, by decide⟩, deviceToggle_openings,
      if_neg fun opens => absurd opens.1 (by decide)]
  rw [← opened]
  unfold beginGroup
  dsimp only
  split <;> rfl

/-- A start in `READY` opens the group valve of its first stage. -/
theorem start_ready_openings (program : Program) (isCleaning : Flag)
    (ready : s.irrigation.status = .ready) :
    openings (s.controlIrrigationTempStart now program isCleaning).trace =
      (program.firstStage.opened.filter (· ∈ groupValves)).map (fun valve => (valve, now)) ++
        openings s.trace := by
  unfold controlIrrigationTempStart
  rw [if_neg (by simp [ready])]
  cases program with
  | group1 => exact beginGroup_openings now _ 10 .group1 (by decide)
  | group2 => exact beginGroup_openings now _ 11 .group2 (by decide)
  | both => exact beginGroup_openings now _ 10 .group1 (by decide)
  | cleaning => exact deviceToggle_openings now _ 12 1
  | garden | unknown => rfl

end

/-! ## The relays follow the stage -/

theorem forall_stageRelays {property : Fin 15 → Prop} :
    (∀ device ∈ stageRelays, property device) ↔
      property 2 ∧ property 10 ∧ property 11 ∧ property 12 := by
  simp [stageRelays]

/-- The machine has gone over to the first of these stages: of the relays that tell the stages
apart, the stage's own are on, and its group valve has just been opened. -/
structure Opens (now : Nat) (stages : List (Planned Stage)) (before after : Controller) : Prop where
  relays : ∀ device ∈ stageRelays, (after.IsOn device ↔ device ∈ firstRelays stages)
  opened : openings after.trace =
    valvesBegun (Timetable.opening now stages) ++ openings before.trace

section

variable [FlowArithmetic]

/-- A start over closed valves. -/
theorem start_opens (program : Program) (isCleaning : Flag) (known : program.Known)
    (ready : s.irrigation.status = .ready) (closed : ∀ device ∈ stageRelays, ¬ s.IsOn device) :
    Opens now
      (program.stages { s.irrigation with isCleaning := isCleaning } false false ++
        [coolDown s.irrigation]) s
      (s.controlIrrigationTempStart now program isCleaning) := by
  obtain ⟨acid, first, second, third⟩ := forall_stageRelays.mp closed
  constructor
  · rw [forall_stageRelays]
    simp only [start_ready_isOn now s program isCleaning ready, acid, first, second, third]
    cases program with
    | unknown => exact known.elim
    | _ => simp [Program.firstStage, Program.opened, Program.stages, washing, firstRelays,
        Stage.relays]
  · rw [start_ready_openings now s program isCleaning ready]
    cases program with
    | unknown => exact known.elim
    | _ => rfl

/-- The end of the irrigation stages: their relays go off, and the cleaning or the end comes. -/
theorem cleanOrFinish_opens (valve : Fin 15) (isCleaning : Flag)
    (ready : s.irrigation.status = .ready)
    (own : ∀ device ∈ stageRelays, s.IsOn device → device = 2 ∨ device = valve) :
    Opens now (cleaningAfter s.irrigation false false ++ [coolDown s.irrigation]) s
      (((s.deviceToggle now 2 0).deviceToggle now valve 0).cleanOrFinish now isCleaning) := by
  have closed : ∀ device ∈ stageRelays,
      ¬ ((s.deviceToggle now 2 0).deviceToggle now valve 0).IsOn device := by
    intro device listed on
    rw [deviceToggle_off_isOn, deviceToggle_off_isOn] at on
    obtain ⟨notValve, notAcid, before⟩ := on
    rcases own device listed before with acid | same
    · exact notAcid acid
    · exact notValve same
  have opened : openings ((s.deviceToggle now 2 0).deviceToggle now valve 0).trace =
      openings s.trace := by simp
  unfold cleanOrFinish cleaningAfter
  rw [deviceToggle_irrigation, deviceToggle_irrigation]
  split
  · obtain ⟨relays, opens⟩ := start_opens now
      ((s.deviceToggle now 2 0).deviceToggle now valve 0) .cleaning isCleaning trivial ready closed
    rw [opened] at opens
    exact ⟨relays, opens⟩
  · constructor
    · intro device listed
      rw [finishProgram_isOn]
      exact iff_of_false (fun on => closed device listed on.2) List.not_mem_nil
    · rw [finishProgram_openings, opened]
      rfl

/-- The next stage's relays are on instead of the last one's. -/
theorem updateProgram_opens (known : s.irrigation.program.Known)
    (ready : s.irrigation.status = .ready) (expired : s.StageOver now)
    (relays : ∀ device ∈ stageRelays, (s.IsOn device ↔ device ∈ s.currentStage.relays)) :
    Opens now (s.laterStages ++ [coolDown s.irrigation]) s (s.updateProgram now) := by
  have turn := programTurn now s
  generalize s.updateProgram now = t at turn ⊢
  have own := forall_stageRelays.mp relays
  cases turn with
  | waits still => exact absurd expired still
  | endless unknown => exact absurd known unknown
  | groupOver valve _ group =>
      have ended : ∀ device ∈ stageRelays, s.IsOn device → device = 2 ∨ device = valve := by
        intro device listed on
        have inside := (relays device listed).mp on
        rcases group with ⟨program, rfl⟩ | ⟨program, rfl⟩ <;>
          simpa [currentStage, program, Stage.relays] using inside
      have opens := cleanOrFinish_opens now s valve 1 ready ended
      rcases group with ⟨program, rfl⟩ | ⟨program, rfl⟩
      · have closed : ¬ s.IsOn 11 := by simp [own, currentStage, program, Stage.relays]
        simpa [laterStages, program, closed] using opens
      · have closed : ¬ s.IsOn 10 := by simp [own, currentStage, program, Stage.relays]
        simpa [laterStages, program, closed] using opens
  | bothNext _ program first =>
      have stage : s.currentStage = .group1 := by simp [currentStage, program, first]
      rw [stage] at own
      have started := start_ready_isOn now (s.deviceToggle now 10 0) .group2
        s.irrigation.isCleaning ready
      have opened := start_ready_openings now (s.deviceToggle now 10 0) .group2
        s.irrigation.isCleaning ready
      constructor
      · rw [forall_stageRelays]
        simp [started, own, program, laterStages, Program.firstStage, Program.opened, firstRelays,
          Stage.relays]
      · rw [withIrrigation_openings, opened, deviceToggle_openings]
        simp [program, first, laterStages, Program.firstStage, Program.opened, groupValves,
          valvesBegun, Timetable.opening, Stage.valves, Stage.relays]
  | bothOver _ program second =>
      have ended : ∀ device ∈ stageRelays, s.IsOn device → device = 2 ∨ device = 11 := by
        intro device listed on
        have inside := (relays device listed).mp on
        simpa [currentStage, program, second, Stage.relays] using inside
      have opens := cleanOrFinish_opens now s 11 s.irrigation.isCleaning ready ended
      simpa [laterStages, program, second] using opens
  | washFirst _ program closed =>
      have stage : s.currentStage = .wash3 := by simp [currentStage, program, closed]
      rw [stage] at own
      constructor
      · rw [forall_stageRelays]
        simp [own, program, laterStages, firstRelays, Stage.relays]
      · simp [program, closed, laterStages, groupValves, valvesBegun, Timetable.opening,
          Stage.valves, Stage.relays]
  | washSecond _ program first =>
      have stage : s.currentStage = .wash1 := by simp [currentStage, program, first]
      rw [stage] at own
      constructor
      · rw [forall_stageRelays]
        simp [own, program, laterStages, firstRelays, Stage.relays]
      · simp [program, first, laterStages, groupValves, valvesBegun, Timetable.opening,
          Stage.valves, Stage.relays]
  | washOver _ program second =>
      have stage : s.currentStage = .wash2 := by simp [currentStage, program, second]
      rw [stage] at own
      constructor
      · rw [forall_stageRelays]
        simp [own, program, laterStages, firstRelays, Stage.relays, coolDown]
      · simp [program, second, laterStages, valvesBegun, Timetable.opening, Stage.valves,
          Stage.relays, coolDown]
  | gardenOver _ program =>
      have stage : s.currentStage = .garden := by simp [currentStage, program]
      rw [stage] at own
      constructor
      · rw [forall_stageRelays]
        simp [own, program, laterStages, firstRelays, Stage.relays, coolDown]
      · simp [program, laterStages, valvesBegun, Timetable.opening, Stage.valves, Stage.relays,
          coolDown]

end

/-! ## A run from idle -/

/-- All relays off, no flow active and nothing under way. -/
structure Idle (s : Controller) : Prop where
  status : s.irrigation.status = .finished
  off : ∀ device, ¬ s.IsOn device
  inactive : ∀ flow, ¬ s.FlowActive flow

/-- The machine is where the timetable is, its relays are the running stage's, and the group
valves opened since the start are those of the stages begun. -/
structure Traces (table : Timetable Stage) (before : List (Fin 15 × Nat)) (s : Controller) :
    Prop extends Follows table s where
  relays : ∀ device ∈ stageRelays, (s.IsOn device ↔ device ∈ firstRelays table.pending)
  opened : openings s.trace = valvesBegun table.begun ++ before

end Controller

namespace Controller.Traces

variable [FlowArithmetic] {now : Nat} {s t : Controller} {table : Timetable Stage}
  {before : List (Fin 15 × Nat)}

theorem begin (s : Controller) (now : Nat) (idle : s.Idle) (program : Program) (isCleaning : Flag)
    (known : program.Known) :
    Traces (.start (s.plan program isCleaning) now) (openings s.trace)
      (s.controlIrrigationTempStart now program isCleaning) := by
  have follows := Follows.begin s now program isCleaning known
  have elsewhere : s.irrigation.status ≠ .ready := by simp [idle.status]
  refine ⟨follows, ?_, ?_⟩
  · rw [start_of_not_ready now s program isCleaning elsewhere, forall_stageRelays]
    simp [idle.off, plan, planWith, elsewhere, Timetable.start, firstRelays, Stage.relays]
  · rw [start_of_not_ready now s program isCleaning elsewhere, plan, planWith, if_neg elsewhere]
    exact deviceToggle_openings now (s.startAssign program isCleaning) 0 1

/-- The update that ends a stage opens the valves of the next one. -/
theorem advance (traces : Traces table before s) {planned : Planned Stage}
    {rest : List (Planned Stage)} (pending : table.pending = planned :: rest)
    (advances : Advance now s t) : Opens now rest s t := by
  obtain ⟨⟨ahead, -, known, running⟩, relays, opened⟩ := traces
  have remaining : s.stagesAhead.tail = rest := by rw [ahead, pending, List.tail_cons]
  rw [← ahead] at relays
  cases advances with
  | begins status =>
      simp only [stagesAhead, status, List.tail_cons, firstRelays, Stage.relays, List.not_mem_nil,
        iff_false] at remaining relays
      obtain ⟨acid, first, second, third⟩ := forall_stageRelays.mp relays
      rw [decide_eq_false first, decide_eq_false second] at remaining
      have closed : ∀ device ∈ stageRelays, ¬ (s.beginPumping now).IsOn device := by
        rw [forall_stageRelays]
        simp [acid, first, second, third]
      obtain ⟨entered, opens⟩ := start_opens now (s.beginPumping now) s.irrigation.program
        s.irrigation.isCleaning known rfl closed
      rw [beginPumping_openings] at opens
      rw [← remaining, beginProgram, if_pos running]
      exact ⟨entered, opens⟩
  | turns status expired =>
      simp only [stagesAhead, readyStages, status, List.cons_append, List.tail_cons,
        firstRelays] at remaining relays
      rw [← remaining]
      exact updateProgram_opens now s known status expired relays
  | shuts status =>
      simp only [stagesAhead, status, List.tail_cons, firstRelays, coolDown, Stage.relays,
        List.not_mem_nil, iff_false] at remaining relays
      obtain ⟨acid, first, second, third⟩ := forall_stageRelays.mp relays
      rw [← remaining]
      constructor
      · rw [forall_stageRelays]
        simp [acid, first, second, third, firstRelays]
      · exact shutDown_openings now s

/-- One update is one poll, and opens the valves that the poll's stage stands for. -/
theorem update (traces : Traces table before s) (ordered : table.since ≤ now)
    (close : table.pending ≠ [] → now - table.since < Clock.period) (sound : ¬ s.StopsFaulty) :
    Traces (table.poll now) before (s.controlIrrigationTempUpdate now) := by
  have follows := traces.toFollows
  rcases follows.update_cases ordered close sound with ⟨still, same⟩ |
    ⟨planned, rest, pending, polled, advances⟩
  · rw [still, same]
    exact traces
  · obtain ⟨relays, opens⟩ := traces.advance pending advances
    rw [polled]
    refine ⟨follows.advance pending advances _, relays, ?_⟩
    rw [opens, traces.opened]
    simp [valvesBegun]

omit [FlowArithmetic] in
theorem frame (traces : Traces table before s) (follows : Follows table t)
    (relays : ∀ device ∈ stageRelays, (t.IsOn device ↔ s.IsOn device))
    (opened : openings t.trace = openings s.trace) : Traces table before t :=
  ⟨follows, fun device listed => (relays device listed).trans (traces.relays device listed),
    opened.trans traces.opened⟩

/-- Beside the machine nothing opens a group valve. -/
theorem beside (traces : Traces table before s) {operation : Operation}
    (periodic : operation.Periodic) (beside : ¬ operation.DrivesMachine) :
    Traces table before (operation.run now s) := by
  refine traces.frame (traces.toFollows.beside periodic beside) ?_ ?_
  · exact fun device listed => (periodic.stageRelay beside now s listed).isOn_iff
  · cases operation with
    | deviceUpdate => exact deviceUpdate_openings now s
    | sensorFlowUpdate => exact congrArg openings (SensorsOnly.sensorFlowUpdate now s).trace
    | sensorPressureUpdate readings =>
        exact congrArg openings (SensorsOnly.sensorPressureUpdate now readings s).trace
    | controlFlowUpdate => exact controlFlowUpdate_openings now s
    | sensorInterrupt => rfl
    | irrigationUpdate => exact absurd trivial beside
    | _ => exact periodic.elim

/-- One step of a history whose updates are paced. -/
theorem step {plan : List (Planned Stage)} {gap origin : Nat} {step : Step Operation}
    {prior : List (Step Operation)}
    (traces : Traces ((Timetable.start plan origin).after (polls prior)) before s)
    (paced : Timetable.Paced gap origin (polls (step :: prior)))
    (bounded : ∀ planned ∈ plan, planned.duration + gap < Clock.period)
    (periodic : step.operation.Periodic)
    (sound : step.operation = .irrigationUpdate → ¬ s.StopsFaulty) :
    Traces ((Timetable.start plan origin).after (polls (step :: prior))) before
      (step.operation.run step.now s) := by
  obtain ⟨now, operation⟩ := step
  by_cases drives : operation.DrivesMachine
  · obtain rfl := periodic.drivesMachine.mp drives
    change Timetable.Paced gap origin (now :: polls prior) at paced
    exact traces.update (Timetable.since_le paced) (Timetable.age_lt paced bounded) (sound rfl)
  · rw [polls_beside prior drives]
    exact traces.beside periodic drives

end Controller.Traces

/-! ## The whole program -/

/-- The order in which a program opens the group valves. -/
def Program.valveOrder (program : Program) (isCleaning : Flag) : List (Fin 15) :=
  let cleaning := if isCleaning ≠ 0 then [12, 10, 11] else []
  match program with
  | .group1 => 10 :: cleaning
  | .group2 => 11 :: cleaning
  | .both => 10 :: 11 :: cleaning
  | .cleaning => [12, 10, 11]
  | .garden | .unknown _ => []

/-- From idle, the plan's stages open the valves in the program's order. -/
theorem plan_valves {s : Controller} (idle : s.Idle) (program : Program) (isCleaning : Flag) :
    (s.plan program isCleaning).flatMap (fun planned => planned.stage.valves) =
      program.valveOrder isCleaning := by
  have elsewhere : s.irrigation.status ≠ .ready := by simp [idle.status]
  rw [plan, planWith, if_neg elsewhere, decide_eq_false (idle.off 10),
    decide_eq_false (idle.off 11)]
  by_cases cleaning : isCleaning = 0 <;> cases program <;>
    simp [Program.stages, cleaningAfter, washing, coolDown, Program.valveOrder, Stage.valves,
      Stage.relays, groupValves, cleaning]

/-- A stage opens at most one valve, so reversing the stages reverses the openings. -/
theorem valvesBegun_reverse (begun : List (Begun Stage)) :
    (valvesBegun begun).reverse.map Prod.fst =
      begun.reverse.flatMap fun begun => begun.stage.valves := by
  induction begun with
  | nil => rfl
  | cons newest earlier ih =>
      have single : (newest.stage.valves.map fun valve => (valve, newest.time)).reverse.map
          Prod.fst = newest.stage.valves := by
        cases newest.stage <;> rfl
      have split : valvesBegun (newest :: earlier) =
          (newest.stage.valves.map fun valve => (valve, newest.time)) ++ valvesBegun earlier := rfl
      rw [split, List.reverse_append, List.map_append, single, ih, List.reverse_cons,
        List.flatMap_append]
      simp

/-- What a run of a whole program shows, given the plan's timetable after its updates. -/
structure ProgramTrace (plan : List (Planned Stage)) (order : List (Fin 15)) (updates : List Nat)
    (before : List (Fin 15 × Nat)) (table : Timetable Stage) (s : Controller) : Prop where
  /-- Of the acid pump and the group valves, exactly the running stage's are on. -/
  relays : ∀ device ∈ stageRelays, (s.IsOn device ↔ device ∈ firstRelays table.pending)
  /-- Every stage opened its valve when it began, and nothing else opened one. -/
  opened : openings s.trace = valvesBegun table.begun ++ before
  /-- The stages begun and those behind the running one make up the plan. -/
  planned :
    (table.begun.reverse.map fun begun => (⟨begun.stage, begun.duration⟩ : Planned Stage)) ++
      table.pending.tail = plan
  /-- The valves opened so far and those to come are the program's, in its order. -/
  ordered : (valvesBegun table.begun).reverse.map Prod.fst ++
    table.pending.tail.flatMap (fun planned => planned.stage.valves) = order
  /-- Every stage lasted and ended at the first update at or after its expiry. -/
  prompt : Timetable.Prompt updates table.begun
  finished : s.irrigation.status = .finished ↔ table.pending = []

section

variable [FlowArithmetic] {s : Controller} {program : Program} {isCleaning : Flag}
  {startTime gap : Nat} {history : List (Step Operation)}

/-- A run without commands and without a fault stop. -/
def soundGuard (start : Controller) (prior : List (Step Operation)) (step : Step Operation) :
    Prop :=
  step.operation.Periodic ∧
    (step.operation = .irrigationUpdate → ¬ (controller.after start prior).StopsFaulty)

theorem traces_of_admitted {plan : List (Planned Stage)} {start : Controller}
    {before : List (Fin 15 × Nat)} (begun : Traces (.start plan startTime) before start)
    (bounded : ∀ planned ∈ plan, planned.duration + gap < Clock.period)
    (admitted : Machine.Admitted (soundGuard start) startTime history)
    (paced : Timetable.Paced gap startTime (polls history)) :
    Traces ((Timetable.start plan startTime).after (polls history)) before
      (controller.after start history) := by
  refine admitted.along (fun history => Timetable.Paced gap startTime (polls history) →
    Traces ((Timetable.start plan startTime).after (polls history)) before
      (controller.after start history)) (fun _ => begun) ?_ paced
  rintro step prior - ih - ⟨periodic, sound⟩ paced
  exact (ih (paced_earlier paced)).step paced bounded periodic sound

/-- A program started from idle runs its plan: every stage in order, each to the first update
at or after its expiry, with the relays of that stage and no other, and then it finishes. -/
theorem whole_program_trace (idle : s.Idle) (known : program.Known) (positive : 0 < gap)
    (bounded : ∀ planned ∈ s.plan program isCleaning, planned.duration + gap < Clock.period)
    (admitted : Machine.Admitted
      (soundGuard (s.controlIrrigationTempStart startTime program isCleaning)) startTime history)
    (paced : Timetable.Paced gap startTime (polls history)) :
    let table := (Timetable.start (s.plan program isCleaning) startTime).after (polls history)
    let final :=
      controller.after (s.controlIrrigationTempStart startTime program isCleaning) history
    ProgramTrace (s.plan program isCleaning) (program.valveOrder isCleaning) (polls history)
        (openings s.trace) table final ∧
      (startTime + Timetable.budget gap (s.plan program isCleaning) ≤
        Timetable.lastPoll startTime (polls history) → table.pending = []) := by
  intro table final
  have traces : Traces table (openings s.trace) final :=
    traces_of_admitted (.begin s startTime idle program isCleaning known) bounded admitted paced
  have planned := Timetable.order (s.plan program isCleaning) startTime (polls history)
  refine ⟨⟨traces.relays, traces.opened, planned, ?_, ?_, traces.status_finished⟩, fun late => ?_⟩
  · rw [valvesBegun_reverse, ← plan_valves idle program isCleaning, ← planned, List.flatMap_append,
      List.flatMap_map]
  · exact (Timetable.timely_after (s.plan program isCleaning) paced).prompt
  · exact Timetable.finished_of_late (s.plan program isCleaning) positive paced late

end

theorem boot_idle : boot.Idle := ⟨rfl, boot_isOn, boot_flowActive⟩

/-- The first group with cleaning, updated at each stage's end. -/
def groupCleaned : List (Step Operation) :=
  [930000, 925000, 922000, 919000, 909000, 9000].map fun now => ⟨now, .irrigationUpdate⟩

theorem whole_program_trace_groupCleaned :
    let final := controller.after (boot.controlIrrigationTempStart 4000 .group1 1) groupCleaned
    (openings final.trace).reverse.map Prod.fst = [10, 12, 10, 11] ∧
      final.irrigation.status = .finished := by
  have admitted : Machine.Admitted (soundGuard (boot.controlIrrigationTempStart 4000 .group1 1))
      4000 groupCleaned := by
    refine ⟨⟨⟨⟨⟨⟨trivial, ?_⟩, ?_⟩, ?_⟩, ?_⟩, ?_⟩, ?_⟩
    all_goals exact ⟨by decide, trivial, fun _ => by decide⟩
  have paced : Timetable.Paced 1000000 4000 (polls groupCleaned) := by
    simp [groupCleaned, polls, Timetable.Paced, Timetable.lastPoll]
  have known : Program.group1.Known := trivial
  obtain ⟨trace, -⟩ := whole_program_trace boot_idle known (by decide) (by decide) admitted paced
  have pending : ((Timetable.start (boot.plan .group1 1) 4000).after (polls groupCleaned)).pending =
      [] := by decide
  refine ⟨?_, trace.finished.mpr pending⟩
  have ordered := trace.ordered
  rw [pending, List.tail_nil, List.flatMap_nil, List.append_nil] at ordered
  have before : openings boot.trace = [] := by decide
  rw [trace.opened, before, List.append_nil, ordered]
  rfl

end BlueberryIrrigation
