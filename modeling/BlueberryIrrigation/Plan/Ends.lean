import BlueberryIrrigation.Plan.Follows

/-!
# Every start of a known program ends

Nobody waits for a program: it ends because the loop keeps asking whether its current stage
is over. What can keep it from ending in time is a program byte without an enumerator, a valve
that stands for a later cleaning stage than the one that runs, and a well flow of its own that
switches the pump on again.
-/

namespace BlueberryIrrigation

open Semantics Controller

namespace Controller

/-- The configured waits and stage durations of a start: its plan with all valves closed. -/
def configuredPlan (program : Program) (isCleaning : Flag) (s : Controller) :
    List (Planned Stage) :=
  s.planWith false false program isCleaning

/-- An open valve 10 makes the cleaning program two stages of the third group's duration, which
may be longer than its three configured stages. -/
def WashFits (gap : Nat) (program : Program) (isCleaning : Flag) (s : Controller) : Prop :=
  s.IsOn 10 → program = .cleaning ∨ (program = .group2 ∧ isCleaning ≠ 0) →
    s.irrigation.timeCleaningGroup3Duration.toNat ≤
      2 * s.irrigation.timeCleaningGroup12Duration.toNat + gap

section

variable {gap : Nat} {program : Program} {isCleaning : Flag} {s : Controller}

/-- The cleaning stages that are left out or stretched fit into the configured ones. -/
theorem washing_fits (irrigation : Irrigation) (open10 open11 : Bool)
    (fits : open10 = true → irrigation.timeCleaningGroup3Duration.toNat ≤
      2 * irrigation.timeCleaningGroup12Duration.toNat + gap) :
    Timetable.budget gap (washing irrigation open10 open11) ≤
      Timetable.budget gap (washing irrigation false false) := by
  cases open10 with
  | true =>
      have bound := fits rfl
      simp [washing]
      omega
  | false =>
      cases open11 <;> simp [washing]

variable (gap) in
theorem cleaningAfter_fits (irrigation : Irrigation) (open10 open11 : Bool)
    (fits : irrigation.isCleaning ≠ 0 → open10 = true →
      irrigation.timeCleaningGroup3Duration.toNat ≤
        2 * irrigation.timeCleaningGroup12Duration.toNat + gap) :
    Timetable.budget gap (cleaningAfter irrigation open10 open11) ≤
      Timetable.budget gap (cleaningAfter irrigation false false) := by
  unfold cleaningAfter
  split
  · rename_i cleaning
    exact washing_fits irrigation open10 open11 (fits cleaning)
  · exact Nat.le_refl _

/-- The plan of a start whose cleaning fits takes no longer than what is configured. -/
theorem plan_fits (fits : s.WashFits gap program isCleaning) :
    Timetable.budget gap (s.plan program isCleaning) ≤
      Timetable.budget gap (s.configuredPlan program isCleaning) := by
  have stages : Timetable.budget gap
      (program.stages { s.irrigation with isCleaning := isCleaning } (decide (s.IsOn 10))
        (decide (s.IsOn 11))) ≤
      Timetable.budget gap
        (program.stages { s.irrigation with isCleaning := isCleaning } false false) := by
    cases program with
    | group1 =>
        have cleaning := cleaningAfter_fits gap
          { s.irrigation with isCleaning := isCleaning } false (decide (s.IsOn 11)) (by simp)
        simpa [Program.stages] using cleaning
    | group2 =>
        have cleaning := cleaningAfter_fits gap
          { s.irrigation with isCleaning := isCleaning } (decide (s.IsOn 10)) false
          fun requested open10 => fits (of_decide_eq_true open10) (.inr ⟨rfl, requested⟩)
        simpa [Program.stages] using cleaning
    | cleaning =>
        exact washing_fits _ _ _ fun open10 => fits (of_decide_eq_true open10) (.inl rfl)
    | both | garden | unknown => exact Nat.le_refl _
  unfold plan configuredPlan planWith
  split <;> simpa using stages

theorem washing_durations (irrigation : Irrigation) (open10 open11 : Bool) :
    (washing irrigation open10 open11).map Planned.duration ⊆
      (washing irrigation false false).map Planned.duration := by
  cases open10 <;> cases open11 <;> simp [washing]

theorem cleaningAfter_durations (irrigation : Irrigation) (open10 open11 : Bool) :
    (cleaningAfter irrigation open10 open11).map Planned.duration ⊆
      (cleaningAfter irrigation false false).map Planned.duration := by
  unfold cleaningAfter
  split
  · exact washing_durations irrigation open10 open11
  · exact List.Subset.refl _

/-- Every wait of the plan is a configured one. -/
theorem plan_durations :
    (s.plan program isCleaning).map Planned.duration ⊆
      (s.configuredPlan program isCleaning).map Planned.duration := by
  have stages : ∀ (irrigation : Irrigation) (open10 open11 : Bool),
      (program.stages irrigation open10 open11).map Planned.duration ⊆
        (program.stages irrigation false false).map Planned.duration := by
    intro irrigation open10 open11
    cases program with
    | group1 => exact List.cons_subset_cons _ (cleaningAfter_durations irrigation false open11)
    | group2 => exact List.cons_subset_cons _ (cleaningAfter_durations irrigation open10 false)
    | cleaning => exact washing_durations irrigation open10 open11
    | both | garden | unknown => exact List.Subset.refl _
  have whole : ∀ (irrigation : Irrigation) (open10 open11 : Bool) (last : Planned Stage),
      (program.stages irrigation open10 open11 ++ [last]).map Planned.duration ⊆
        (program.stages irrigation false false ++ [last]).map Planned.duration := by
    intro irrigation open10 open11 last
    rw [List.map_append, List.map_append]
    exact List.append_subset.mpr ⟨List.subset_append_of_subset_left _ (stages _ _ _),
      List.subset_append_right _ _⟩
  unfold plan configuredPlan planWith
  split
  · exact whole _ _ _ _
  · exact List.cons_subset_cons _ (whole _ _ _ _)

theorem plan_bounded
    (bounded : ∀ planned ∈ s.configuredPlan program isCleaning,
      planned.duration + gap < Clock.period) :
    ∀ planned ∈ s.plan program isCleaning, planned.duration + gap < Clock.period := by
  intro planned listed
  obtain ⟨configured, inside, same⟩ :=
    List.mem_map.mp (plan_durations (List.mem_map_of_mem listed))
  rw [← same]
  exact bounded configured inside

end

/-! ## The power goes down -/

/-- Pump and generator are off where the machine has switched them off. -/
structure CoolsDown (s : Controller) : Prop where
  pump : s.irrigation.status = .finishing ∨ s.irrigation.status = .finished → ¬ s.IsOn 1
  generator : s.irrigation.status = .finished → ¬ s.IsOn 0

/-- The well's own flow would switch the pump on while the machine keeps it off. -/
def WellInterferes (now : Nat) (s : Controller) : Prop :=
  (s.irrigation.status = .finishing ∨ s.irrigation.status = .finished) ∧ s.FlowRunning 0 ∧
    ¬ s.FlowDue now 0

section

variable [FlowArithmetic] {now : Nat} {s : Controller}

/-- A start leaves the machine in a status in which nothing has to be off. -/
theorem CoolsDown.start (s : Controller) (now : Nat) (program : Program) (isCleaning : Flag) :
    CoolsDown (s.controlIrrigationTempStart now program isCleaning) := by
  by_cases ready : s.irrigation.status = .ready
  · have status : (s.controlIrrigationTempStart now program isCleaning).irrigation.status =
        .ready := by
      rw [start_ready_irrigation now s program isCleaning ready]
      exact ready
    exact ⟨by simp [status], by simp [status]⟩
  · rw [start_of_not_ready now s program isCleaning ready]
    exact ⟨by simp, by simp⟩

theorem CoolsDown.update (cools : s.CoolsDown) : (s.controlIrrigationTempUpdate now).CoolsDown := by
  have step := updateStep now s
  generalize s.controlIrrigationTempUpdate now = t at step ⊢
  cases step with
  | idle | warming | cooling => exact cools
  | begins => exact ⟨by simp, by simp⟩
  | runs status =>
      rcases turn_updateProgram now s status with stays | off
      · exact ⟨by simp [stays.status], by simp [stays.status]⟩
      · exact ⟨fun _ => off.pump, by simp [off.status]⟩
  | stops => exact ⟨by simp, by simp⟩
  | shuts status => exact ⟨by simp [cools.pump (.inl status)], by simp⟩

/-- Nothing else that runs without a command switches generator or pump on, unless the well's
own flow does. -/
theorem CoolsDown.beside (cools : s.CoolsDown) {operation : Operation}
    (periodic : operation.Periodic) (beside : ¬ operation.DrivesMachine)
    (still : operation = .controlFlowUpdate → ¬ s.WellInterferes now) :
    (operation.run now s).CoolsDown := by
  have generator := (periodic.untouched now s beside
    (fun flow => (controlFlowDevice_ne_zero flow).symm) (by decide) (by decide)).isOn_iff
  have pump : s.irrigation.status = .finishing ∨ s.irrigation.status = .finished →
      ¬ (operation.run now s).IsOn 1 := by
    intro down
    cases operation with
    | controlFlowUpdate =>
        have due : s.FlowRunning 0 → s.FlowDue now 0 := fun running =>
          not_not.mp fun early => still rfl ⟨down, running, early⟩
        exact controlFlowUpdate_keeps_off now
          (fun flow driven => not_not.mp fun other => controlFlowDevice_ne_one other driven)
          (by decide) (by decide) due (cools.pump down)
    | deviceUpdate => exact mt (deviceUpdate_isOn now 1 s).mp (cools.pump down)
    | sensorFlowUpdate =>
        exact mt ((SensorsOnly.sensorFlowUpdate now s).isOn_iff 1).mp (cools.pump down)
    | sensorPressureUpdate readings =>
        exact mt ((SensorsOnly.sensorPressureUpdate now readings s).isOn_iff 1).mp (cools.pump down)
    | sensorInterrupt => exact cools.pump down
    | irrigationUpdate => exact absurd trivial beside
    | _ => exact periodic.elim
  have irrigation := periodic.irrigation now s beside
  refine ⟨fun down => pump ?_, fun finished => ?_⟩
  · rwa [irrigation] at down
  · rw [irrigation] at finished
    exact mt generator.mp (cools.generator finished)

end

end Controller

/-! ## Runs -/

section

variable [FlowArithmetic] {s : Controller} {program : Program} {isCleaning : Flag}
  {startTime gap : Nat} {history : List (Step Operation)}

/-- A run without commands in which the well's own flow leaves the pump to the machine. -/
def endingGuard (start : Controller) (prior : List (Step Operation)) (step : Step Operation) :
    Prop :=
  step.operation.Periodic ∧
    (step.operation = .controlFlowUpdate →
      ¬ (controller.after start prior).WellInterferes step.now)

/-- A machine that has finished does nothing of its own accord. -/
theorem finished_kept {operation : Operation} {now : Nat} (periodic : operation.Periodic)
    (finished : s.irrigation.status = .finished) :
    (operation.run now s).irrigation.status = .finished := by
  by_cases drives : operation.DrivesMachine
  · obtain rfl := periodic.drivesMachine.mp drives
    change (s.controlIrrigationTempUpdate now).irrigation.status = .finished
    unfold controlIrrigationTempUpdate
    rw [finished]
    exact finished
  · rw [periodic.irrigation now s drives]
    exact finished

theorem coolsDown_of_admitted {start : Controller} (begun : start.CoolsDown)
    (admitted : Machine.Admitted (endingGuard start) startTime history) :
    (controller.after start history).CoolsDown := by
  refine admitted.invariant (fun _ => CoolsDown) begun ?_
  rintro prior ⟨now, operation⟩ cools _ ⟨periodic, still⟩
  by_cases drives : operation.DrivesMachine
  · obtain rfl := periodic.drivesMachine.mp drives
    exact cools.update
  · exact cools.beside periodic drives still

/-- Without a fault stop the machine is where its timetable is; after one it has finished. -/
theorem follows_or_finished {plan : List (Planned Stage)} {start : Controller}
    (begun : Follows (.start plan startTime) start)
    (bounded : ∀ planned ∈ plan, planned.duration + gap < Clock.period)
    (admitted : Machine.Admitted (endingGuard start) startTime history)
    (paced : Timetable.Paced gap startTime (polls history)) :
    Follows ((Timetable.start plan startTime).after (polls history))
        (controller.after start history) ∨
      (controller.after start history).irrigation.status = .finished := by
  refine admitted.along (fun history => Timetable.Paced gap startTime (polls history) →
    Follows ((Timetable.start plan startTime).after (polls history))
        (controller.after start history) ∨
      (controller.after start history).irrigation.status = .finished) (fun _ => .inl begun) ?_ paced
  rintro step prior - ih - ⟨periodic, -⟩ paced
  rcases ih (paced_earlier paced) with follows | finished
  · by_cases faulty : step.operation = .irrigationUpdate ∧
        (controller.after start prior).StopsFaulty
    · refine .inr ?_
      change (step.operation.run step.now (controller.after start prior)).irrigation.status = _
      rw [faulty.1]
      exact update_stopsFaulty faulty.2
    · exact .inl (follows.step paced bounded periodic fun update stops => faulty ⟨update, stops⟩)
  · exact .inr (finished_kept periodic finished)

/-- A start of a known program ends: at every update from the deadline on, the configured waits
and stage durations and one gap for each, the machine has finished with generator and pump
off. -/
theorem start_ends (known : program.Known) (positive : 0 < gap)
    (fits : s.WashFits gap program isCleaning)
    (bounded : ∀ planned ∈ s.configuredPlan program isCleaning,
      planned.duration + gap < Clock.period)
    (admitted : Machine.Admitted
      (endingGuard (s.controlIrrigationTempStart startTime program isCleaning)) startTime history)
    (paced : Timetable.Paced gap startTime (polls history))
    (late : startTime + Timetable.budget gap (s.configuredPlan program isCleaning) ≤
      Timetable.lastPoll startTime (polls history)) :
    let final :=
      controller.after (s.controlIrrigationTempStart startTime program isCleaning) history
    final.irrigation.status = .finished ∧ ¬ final.IsOn 0 ∧ ¬ final.IsOn 1 := by
  have cools := coolsDown_of_admitted (.start s startTime program isCleaning) admitted
  have finished : (controller.after (s.controlIrrigationTempStart startTime program isCleaning)
      history).irrigation.status = .finished := by
    have begun := Follows.begin s startTime program isCleaning known
    rcases follows_or_finished begun (plan_bounded bounded) admitted paced with follows | finished
    · refine follows.status_finished.mpr (Timetable.finished_of_late _ positive paced ?_)
      exact Nat.le_trans (Nat.add_le_add_left (plan_fits fits) startTime) late
    · exact finished
  exact ⟨finished, cools.generator finished, cools.pump (.inr finished)⟩

end

/-- Updates for the garden program, never more than a thousand seconds apart. -/
def gardenUpdates : List (Step Operation) :=
  [3914000, 2914000, 1914000, 914000, 909000, 9000].map fun now => ⟨now, .irrigationUpdate⟩

theorem start_ends_garden :
    let final := controller.after (boot.controlIrrigationTempStart 4000 .garden 0) gardenUpdates
    final.irrigation.status = .finished ∧ ¬ final.IsOn 0 ∧ ¬ final.IsOn 1 := by
  have admitted : Machine.Admitted
      (endingGuard (boot.controlIrrigationTempStart 4000 .garden 0)) 4000 gardenUpdates := by
    simp [gardenUpdates, Machine.Admitted, endingGuard, Operation.Periodic]
  have paced : Timetable.Paced 1000000 4000 (polls gardenUpdates) := by
    simp [gardenUpdates, polls, Timetable.Paced, Timetable.lastPoll]
  have fits : boot.WashFits 1000000 .garden 0 := fun open10 => absurd open10 (boot_isOn 10)
  exact start_ends trivial (by decide) fits (by decide) admitted paced (by decide)

/-- The program byte 5 is accepted and has no branch anywhere: past the deadline of its two
generator waits, generator and pump still run. -/
theorem unknown_program_stays_ready :
    let started := boot.controlIrrigationTempStart 4000 (.ofNumber 5) 0
    let updates :=
      [24000, 19000, 14000, 9000].map fun now => (⟨now, .irrigationUpdate⟩ : Step Operation)
    Timetable.Paced 5000 4000 (polls updates) ∧
      4000 + Timetable.budget 5000 (boot.configuredPlan (.ofNumber 5) 0) ≤
        Timetable.lastPoll 4000 (polls updates) ∧
      (controller.after started updates).irrigation.status = .ready ∧
      (controller.after started updates).IsOn 0 ∧ (controller.after started updates).IsOn 1 := by
  refine ⟨?_, by decide, by decide, by decide, by decide⟩
  simp [polls, Timetable.Paced, Timetable.lastPoll]

end BlueberryIrrigation
