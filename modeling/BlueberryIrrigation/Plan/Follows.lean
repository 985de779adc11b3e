import BlueberryIrrigation.Plan.Stages

/-!
# The machine runs a timetable

`Follows.update` is the simulation: one call of `control_irrigation_temp_update` is one poll
of the timetable the machine stands for, as long as less than a period of `millis()` has
passed since the stage began. Everything else that runs without a command leaves the machine
where it is in its plan.
-/

namespace BlueberryIrrigation

open Semantics Controller

/-- The relays that tell the stages apart: the acid pump and the group valves. -/
def stageRelays : List (Fin 15) := [2, 10, 11, 12]

theorem stageRelays_undriven (flow : Fin 6) :
    ∀ device ∈ stageRelays, device ≠ 3 ∧ device ≠ 9 ∧ device ≠ controlFlowDevice flow := by
  revert flow
  decide

/-- Beside the machine, nothing that runs without a command writes one of them. -/
theorem Operation.Periodic.stageRelay [FlowArithmetic] {operation : Operation}
    (periodic : operation.Periodic) (beside : ¬ operation.DrivesMachine) (now : Nat)
    (s : Controller) {device : Fin 15} (listed : device ∈ stageRelays) :
    Untouched device s (operation.run now s) :=
  periodic.untouched now s beside (fun flow => (stageRelays_undriven flow device listed).2.2)
    (stageRelays_undriven 0 device listed).1 (stageRelays_undriven 0 device listed).2.1

namespace Controller

/-- The plan of a start at this state, given which of the valves 10 and 11 are open. -/
def planWith (open10 open11 : Bool) (program : Program) (isCleaning : Flag) (s : Controller) :
    List (Planned Stage) :=
  let stages :=
    program.stages { s.irrigation with isCleaning := isCleaning } open10 open11 ++
      [coolDown s.irrigation]
  if s.irrigation.status = .ready then stages
  else ⟨.preparing, s.irrigation.timeGeneratorWait.toNat⟩ :: stages

/-- The plan that a start at this state begins. -/
def plan (program : Program) (isCleaning : Flag) (s : Controller) : List (Planned Stage) :=
  s.planWith (decide (s.IsOn 10)) (decide (s.IsOn 11)) program isCleaning

/-- The machine is where the timetable is. -/
structure Follows (table : Timetable Stage) (s : Controller) : Prop where
  ahead : s.stagesAhead = table.pending
  start : s.irrigation.status ≠ .finished → s.stageStart = millis table.since
  known : s.irrigation.program.Known
  running : s.irrigation.isStopped = 0

variable {now : Nat} {s t : Controller} {table : Timetable Stage}

/-- An update that finds the current stage over. -/
inductive Advance [FlowArithmetic] (now : Nat) (s : Controller) : Controller → Prop where
  | begins (status : s.irrigation.status = .preparing) : Advance now s (s.beginProgram now)
  | turns (status : s.irrigation.status = .ready) (expired : s.StageOver now) :
      Advance now s (s.updateProgram now)
  | shuts (status : s.irrigation.status = .finishing) : Advance now s (s.shutDown now)

/-- Fault detection stops the program at the next update. -/
def StopsFaulty (s : Controller) : Prop :=
  (s.irrigation.status = .ready ∨ s.irrigation.status = .finishing) ∧ s.IsFaulty

instance (s : Controller) : Decidable s.StopsFaulty := inferInstanceAs (Decidable (_ ∧ _))

theorem update_stopsFaulty [FlowArithmetic] (faulty : s.StopsFaulty) :
    (s.controlIrrigationTempUpdate now).irrigation.status = .finished := by
  unfold controlIrrigationTempUpdate
  rcases faulty with ⟨status | status, stops⟩
  · simp [status, stops]
  · simp [status, stops]

theorem stagesAhead_nil : s.stagesAhead = [] ↔ s.irrigation.status = .finished := by
  unfold stagesAhead readyStages
  cases s.irrigation.status <;> simp

namespace Follows

theorem of_enters {stages : List (Planned Stage)} (entered : Enters now stages t)
    (begun : List (Begun Stage)) : Follows ⟨stages, now, begun⟩ t :=
  ⟨entered.ahead, fun _ => entered.start, entered.known, entered.running⟩

/-- A state that agrees on the machine and on the valves that stand for the stage. -/
theorem frame (follows : Follows table s) (irrigation : t.irrigation = s.irrigation)
    (first : t.IsOn 10 ↔ s.IsOn 10) (second : t.IsOn 11 ↔ s.IsOn 11) : Follows table t := by
  obtain ⟨ahead, start, known, running⟩ := follows
  have same : t.stagesAhead = s.stagesAhead := by
    simp only [stagesAhead, readyStages, currentStage, laterStages, stageDuration, irrigation,
      first, second]
  refine ⟨same.trans ahead, ?_, ?_, ?_⟩
  · simpa only [stageStart, irrigation] using start
  · rwa [irrigation]
  · rwa [irrigation]

theorem status_finished (follows : Follows table s) :
    s.irrigation.status = .finished ↔ table.pending = [] := by
  rw [← stagesAhead_nil, follows.ahead]

section

variable [FlowArithmetic]

/-- An accepted start begins its plan, from whatever state. -/
theorem begin (s : Controller) (now : Nat) (program : Program) (isCleaning : Flag)
    (known : program.Known) :
    Follows (.start (s.plan program isCleaning) now)
      (s.controlIrrigationTempStart now program isCleaning) := by
  by_cases ready : s.irrigation.status = .ready
  · rw [plan, planWith, if_pos ready]
    exact .of_enters (start_enters now s program isCleaning known ready) _
  · rw [plan, planWith, if_neg ready, start_of_not_ready now s program isCleaning ready]
    refine ⟨?_, fun _ => rfl, known, rfl⟩
    have relays : ∀ device : Fin 15, device ≠ 0 →
        (((s.startAssign program isCleaning).prepareGenerator now).IsOn device ↔
          s.IsOn device) := by
      intro device generator
      rw [prepareGenerator_isOn, startAssign_isOn]
      exact or_iff_right generator
    unfold stagesAhead
    dsimp only [prepareGenerator_irrigation]
    simp only [relays 10 (by decide), relays 11 (by decide)]
    cases program <;> rfl

/-- An update does nothing while the poll finds the stage running, and ends it when the poll
does. -/
theorem update_cases (follows : Follows table s) (ordered : table.since ≤ now)
    (close : table.pending ≠ [] → now - table.since < Clock.period) (sound : ¬ s.StopsFaulty) :
    (table.poll now = table ∧ s.controlIrrigationTempUpdate now = s) ∨
      ∃ planned rest, table.pending = planned :: rest ∧
        table.poll now = ⟨rest, now, Timetable.opening now rest ++ table.begun⟩ ∧
        Advance now s (s.controlIrrigationTempUpdate now) := by
  have generator : s.irrigation.status = .preparing ∨ s.irrigation.status = .finishing →
      (s.GeneratorWaiting now ↔ now < table.since + s.irrigation.timeGeneratorWait.toNat) := by
    intro status
    have unfinished : s.irrigation.status ≠ .finished := by rcases status with is | is <;> simp [is]
    have start : s.irrigation.timeGeneratorStart = millis table.since := by
      rw [← follows.start unfinished, stageStart]
      rcases status with is | is <;> simp [is]
    unfold GeneratorWaiting
    rw [start]
    exact Clock.wait_pending_iff ordered (close (mt follows.status_finished.mpr unfinished))
  have stage : s.irrigation.status = .ready →
      (¬ s.StageOver now ↔ now < table.since + s.stageDuration.toNat) := by
    intro ready
    have unfinished : s.irrigation.status ≠ .finished := by simp [ready]
    have start : s.irrigation.timeProgramStart = millis table.since := by
      rw [← follows.start unfinished, stageStart, ready]
    unfold StageOver StageRunning
    rw [not_not, start]
    exact Clock.wait_pending_iff ordered (close (mt follows.status_finished.mpr unfinished))
  have ahead := follows.ahead.symm
  have step := updateStep now s
  generalize s.controlIrrigationTempUpdate now = t at step ⊢
  cases step with
  | idle status => exact .inl ⟨Timetable.poll_nil now (follows.status_finished.mp status), rfl⟩
  | warming status waiting =>
      simp only [stagesAhead, status] at ahead
      exact .inl ⟨Timetable.poll_waiting ahead ((generator (.inl status)).mp waiting), rfl⟩
  | begins status expired =>
      simp only [stagesAhead, status] at ahead
      exact .inr ⟨_, _, ahead, Timetable.poll_over ahead (mt (generator (.inl status)).mpr expired),
        .begins status⟩
  | runs status =>
      simp only [stagesAhead, readyStages, status, List.cons_append] at ahead
      by_cases expired : s.StageOver now
      · exact .inr ⟨_, _, ahead,
          Timetable.poll_over ahead fun still => (stage status).mpr still expired,
          .turns status expired⟩
      · exact .inl ⟨Timetable.poll_waiting ahead ((stage status).mp expired),
          updateProgram_of_running now s expired⟩
  | stops status faulty => exact absurd ⟨status, faulty⟩ sound
  | cooling status _ waiting =>
      simp only [stagesAhead, status] at ahead
      exact .inl ⟨Timetable.poll_waiting ahead ((generator (.inr status)).mp waiting), rfl⟩
  | shuts status _ expired =>
      simp only [stagesAhead, status] at ahead
      exact .inr ⟨_, _, ahead, Timetable.poll_over ahead (mt (generator (.inr status)).mpr expired),
        .shuts status⟩

/-- The stages behind the one that is over are those ahead. -/
theorem advance (follows : Follows table s) {planned : Planned Stage}
    {rest : List (Planned Stage)} (pending : table.pending = planned :: rest)
    (advances : Advance now s t) (begun : List (Begun Stage)) : Follows ⟨rest, now, begun⟩ t := by
  obtain ⟨ahead, -, known, running⟩ := follows
  have remaining : s.stagesAhead.tail = rest := by rw [ahead, pending, List.tail_cons]
  cases advances with
  | begins status =>
      simp only [stagesAhead, status, List.tail_cons] at remaining
      rw [← remaining]
      exact .of_enters (beginProgram_enters now s known running) begun
  | turns status expired =>
      simp only [stagesAhead, readyStages, status, List.cons_append, List.tail_cons] at remaining
      rw [← remaining]
      exact .of_enters (updateProgram_enters now s known running status expired) begun
  | shuts status =>
      simp only [stagesAhead, status, List.tail_cons] at remaining
      rw [← remaining]
      exact ⟨rfl, fun unfinished => absurd rfl unfinished, known, running⟩

/-- One update is one poll. -/
theorem update (follows : Follows table s) (ordered : table.since ≤ now)
    (close : table.pending ≠ [] → now - table.since < Clock.period) (sound : ¬ s.StopsFaulty) :
    Follows (table.poll now) (s.controlIrrigationTempUpdate now) := by
  rcases follows.update_cases ordered close sound with ⟨still, same⟩ |
    ⟨planned, rest, pending, polled, advances⟩
  · rw [still, same]
    exact follows
  · rw [polled]
    exact follows.advance pending advances _

/-- Everything else that runs without a command leaves the machine where it is. -/
theorem beside (follows : Follows table s) {operation : Operation}
    (periodic : operation.Periodic) (beside : ¬ operation.DrivesMachine) :
    Follows table (operation.run now s) := by
  exact follows.frame (periodic.irrigation now s beside)
    (periodic.stageRelay beside now s (by decide)).isOn_iff
    (periodic.stageRelay beside now s (by decide)).isOn_iff

end

end Follows
end Controller

/-! ## Runs -/

/-- The update calls of a history, newest first. -/
def polls : List (Step Operation) → List Nat
  | [] => []
  | step :: prior =>
      match step.operation with
      | .irrigationUpdate => step.now :: polls prior
      | _ => polls prior

theorem polls_beside {step : Step Operation} (prior : List (Step Operation))
    (beside : ¬ step.operation.DrivesMachine) : polls (step :: prior) = polls prior := by
  obtain ⟨now, operation⟩ := step
  cases operation with
  | irrigationUpdate => exact absurd trivial beside
  | _ => rfl

theorem paced_earlier {gap origin : Nat} {step : Step Operation} {prior : List (Step Operation)}
    (paced : Timetable.Paced gap origin (polls (step :: prior))) :
    Timetable.Paced gap origin (polls prior) := by
  obtain ⟨now, operation⟩ := step
  cases operation with
  | irrigationUpdate => exact paced.1
  | _ => exact paced

theorem Operation.Periodic.drivesMachine {operation : Operation} (periodic : operation.Periodic) :
    operation.DrivesMachine ↔ operation = .irrigationUpdate := by
  cases operation <;> simp_all [Operation.Periodic, Operation.DrivesMachine]

/-- One step of a history whose updates are paced. -/
theorem Controller.Follows.step [FlowArithmetic] {plan : List (Planned Stage)} {gap origin : Nat}
    {step : Step Operation} {prior : List (Step Operation)} {s : Controller}
    (follows : Follows ((Timetable.start plan origin).after (polls prior)) s)
    (paced : Timetable.Paced gap origin (polls (step :: prior)))
    (bounded : ∀ planned ∈ plan, planned.duration + gap < Clock.period)
    (periodic : step.operation.Periodic)
    (sound : step.operation = .irrigationUpdate → ¬ s.StopsFaulty) :
    Follows ((Timetable.start plan origin).after (polls (step :: prior)))
      (step.operation.run step.now s) := by
  obtain ⟨now, operation⟩ := step
  by_cases drives : operation.DrivesMachine
  · obtain rfl := periodic.drivesMachine.mp drives
    change Timetable.Paced gap origin (now :: polls prior) at paced
    exact follows.update (Timetable.since_le paced) (Timetable.age_lt paced bounded)
      (sound rfl)
  · rw [polls_beside prior drives]
    exact follows.beside periodic drives
end BlueberryIrrigation
