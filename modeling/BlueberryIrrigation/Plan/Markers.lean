import BlueberryIrrigation.Plan.Follows

/-!
# Stage progress under manual toggles

The update of `BOTH` asks the relay of valve 10 which of its stages is over, and an operator may
write that relay at any time. `programCurrent`, from which a resume tells the stages apart, is out
of the operator's reach: the two groups are irrigated one after the other as long as the relay
agrees with it at the end of each stage.
-/

namespace BlueberryIrrigation

open Semantics Controller

/-- The stage that an event begins, with its time. -/
def stageBegun : Nat × Event → Option (Nat × Program)
  | (time, .stage program) => some (time, program)
  | _ => none

/-- The stages begun, newest first. -/
def stageLog (trace : List (Nat × Event)) : List (Nat × Program) := trace.filterMap stageBegun

/-! ## What begins a stage -/

namespace Controller

variable (now : Nat) (s : Controller)

@[simp] theorem stageLog_digitalWrite (pin level : UInt8) (trace : List (Nat × Event)) :
    stageLog ((now, .digitalWrite pin level) :: trace) = stageLog trace := rfl

theorem stageLog_relayWrites (device : Device) (isActive : Flag) (trace : List (Nat × Event)) :
    stageLog ((s.relayWrites device isActive).map (fun event => (now, event)) ++ trace) =
      stageLog trace := by
  unfold relayWrites
  cases device.deviceExtension with
  | none => rfl
  | some index => by_cases held : (s.deviceExtensionArray index).isHold = 0 <;> simp [held]

@[simp] theorem deviceToggle_stageLog (device : Fin 15) (isActive : Flag) :
    stageLog (s.deviceToggle now device isActive).trace = stageLog s.trace :=
  stageLog_relayWrites now s (s.deviceArray device) isActive s.trace

@[simp] theorem withIrrigation_stageLog (change : Irrigation → Irrigation) :
    stageLog (s.withIrrigation change).trace = stageLog s.trace := rfl

@[simp] theorem startAssign_stageLog (program : Program) (isCleaning : Flag) :
    stageLog (s.startAssign program isCleaning).trace = stageLog s.trace := rfl

@[simp] theorem beginStage_stageLog (stage : Program) :
    stageLog (s.beginStage now stage).trace = (now, stage) :: stageLog s.trace := rfl

@[simp] theorem prepareGenerator_stageLog :
    stageLog (s.prepareGenerator now).trace = stageLog s.trace := by
  simp [prepareGenerator]

@[simp] theorem beginPumping_stageLog :
    stageLog (s.beginPumping now).trace = stageLog s.trace := by
  simp [beginPumping]

@[simp] theorem finishProgram_stageLog :
    stageLog (s.finishProgram now).trace = stageLog s.trace := by
  simp [finishProgram]

@[simp] theorem shutDown_stageLog : stageLog (s.shutDown now).trace = stageLog s.trace := by
  simp [shutDown]

@[simp] theorem controlFlowStop_stageLog (flow : Fin 6) :
    stageLog (s.controlFlowStop now flow).trace = stageLog s.trace := by
  unfold controlFlowStop
  dsimp only
  split
  · split <;> simp [setFlow]
  · simp [setFlow]

@[simp] theorem deviceUpdate_stageLog : stageLog (s.deviceUpdate now).trace = stageLog s.trace := by
  change stageLog (s.deviceRelease now 0).trace = _
  unfold deviceRelease
  dsimp only
  split
  · rfl
  · split <;> rfl

section

variable [FlowArithmetic]

@[simp] theorem controlFlowUpdate_stageLog :
    stageLog (s.controlFlowUpdate now).trace = stageLog s.trace := by
  apply controlFlowUpdate_preserves now (fun t => stageLog t.trace = stageLog s.trace)
  · exact fun flow t same _ _ => (controlFlowStop_stageLog now t flow).trans same
  · exact fun flow isActive t same _ _ =>
      (deviceToggle_stageLog now t (controlFlowDevice flow) isActive).trans same
  · exact fun t same _ => (deviceToggle_stageLog now t 3 1).trans same
  · exact fun isActive t same _ => (deviceToggle_stageLog now t 9 isActive).trans same
  · exact fun t u same detection => by rw [detection.trace, same]
  · rfl

theorem beginGroup_stageLog (valve : Fin 15) (group : Program) :
    stageLog (s.beginGroup now valve group).trace = (now, group) :: stageLog s.trace := by
  have opened : stageLog ((s.deviceToggle now 2 1).deviceToggle now valve 1).trace =
      stageLog s.trace := by simp
  rw [← opened]
  unfold beginGroup
  dsimp only
  split <;> rfl

/-- A start in `READY` begins the first stage of its program. -/
theorem start_ready_stageLog (program : Program) (isCleaning : Flag)
    (ready : s.irrigation.status = .ready) (known : program.Known) :
    stageLog (s.controlIrrigationTempStart now program isCleaning).trace =
      (now, program.firstStage) :: stageLog s.trace := by
  unfold controlIrrigationTempStart
  rw [if_neg (by simp [ready])]
  cases program with
  | group1 => exact beginGroup_stageLog now _ 10 .group1
  | group2 => exact beginGroup_stageLog now _ 11 .group2
  | both => exact beginGroup_stageLog now _ 10 .group1
  | cleaning => exact congrArg _ (deviceToggle_stageLog now _ 12 1)
  | garden => rfl
  | unknown => exact known.elim

end

/-! ## The two groups -/

/-- At the end of a stage of `BOTH`, valve 10 is open exactly if the stage is the first group's. -/
def MarkerAgrees (now : Nat) (s : Controller) : Prop :=
  s.irrigation.status = .ready → s.irrigation.program = .both → s.StageOver now →
    (s.IsOn 10 ↔ s.irrigation.programCurrent = .group1)

end Controller

/-- Since the log `before`, the first and then the second group have been begun, once each, and
each has lasted for the duration by `now` or by the beginning of the cleaning behind it. -/
def GroupsRun (before : List (Nat × Program)) (duration : UInt32) (isCleaning : Flag) (now : Nat)
    (log : List (Nat × Program)) : Prop :=
  ∃ first second, first + duration.toNat ≤ second ∧
    ((isCleaning = 0 ∧ log = (second, .group2) :: (first, .group1) :: before ∧
        second + duration.toNat ≤ now) ∨
      (isCleaning ≠ 0 ∧ ∃ third, second + duration.toNat ≤ third ∧ third ≤ now ∧
        log = (third, .cleaning) :: (second, .group2) :: (first, .group1) :: before))

theorem GroupsRun.later {before log : List (Nat × Program)} {duration : UInt32} {isCleaning : Flag}
    {clock now : Nat} (run : GroupsRun before duration isCleaning clock log)
    (ordered : clock ≤ now) : GroupsRun before duration isCleaning now log := by
  obtain ⟨first, second, lasted, ⟨plain, logged, ended⟩ | ⟨cleaned, third, ended, past, logged⟩⟩ :=
    run
  · exact ⟨first, second, lasted, .inl ⟨plain, logged, Nat.le_trans ended ordered⟩⟩
  · exact ⟨first, second, lasted, .inr ⟨cleaned, third, ended, Nat.le_trans past ordered, logged⟩⟩

/-- Where a run of `BOTH` is. -/
inductive BothPhase (before : List (Nat × Program)) (duration : UInt32) (isCleaning : Flag)
    (clock : Nat) (s : Controller) : Prop where
  | preparing (status : s.irrigation.status = .preparing) (program : s.irrigation.program = .both)
      (running : s.irrigation.isStopped = 0) (log : stageLog s.trace = before)
  | first (since : Nat) (past : since ≤ clock) (status : s.irrigation.status = .ready)
      (program : s.irrigation.program = .both) (current : s.irrigation.programCurrent = .group1)
      (start : s.irrigation.timeProgramStart = millis since)
      (log : stageLog s.trace = (since, .group1) :: before)
  | second (first since : Nat) (lasted : first + duration.toNat ≤ since) (past : since ≤ clock)
      (status : s.irrigation.status = .ready) (program : s.irrigation.program = .both)
      (current : s.irrigation.programCurrent = .group2)
      (start : s.irrigation.timeProgramStart = millis since)
      (log : stageLog s.trace = (since, .group2) :: (first, .group1) :: before)
  | behind (status : s.irrigation.status ≠ .preparing)
      (program : s.irrigation.status = .ready → s.irrigation.program = .cleaning)
      (run : GroupsRun before duration isCleaning clock (stageLog s.trace))

/-- A run of `BOTH`, with what its start has fixed. -/
structure BothRun (before : List (Nat × Program)) (duration : UInt32) (isCleaning : Flag)
    (clock : Nat) (s : Controller) : Prop where
  configured : s.irrigation.timeProgramDuration = duration
  cleaning : s.irrigation.isCleaning = isCleaning
  phase : BothPhase before duration isCleaning clock s

namespace BothPhase

variable {before : List (Nat × Program)} {duration : UInt32} {isCleaning : Flag} {clock now : Nat}
  {s t : Controller}

/-- What begins no stage and leaves the machine alone keeps the phase. -/
theorem frame (phase : BothPhase before duration isCleaning clock s) (ordered : clock ≤ now)
    (irrigation : t.irrigation = s.irrigation) (log : stageLog t.trace = stageLog s.trace) :
    BothPhase before duration isCleaning now t := by
  cases phase with
  | preparing status program running empty =>
      constructor
      · rwa [irrigation]
      · rwa [irrigation]
      · rwa [irrigation]
      · rwa [log]
  | first since past status program current start listed =>
      apply first since (Nat.le_trans past ordered)
      · rwa [irrigation]
      · rwa [irrigation]
      · rwa [irrigation]
      · rwa [irrigation]
      · rwa [log]
  | second begun since lasted past status program current start listed =>
      apply second begun since lasted (Nat.le_trans past ordered)
      · rwa [irrigation]
      · rwa [irrigation]
      · rwa [irrigation]
      · rwa [irrigation]
      · rwa [log]
  | behind status program run =>
      apply behind
      · rwa [irrigation]
      · rwa [irrigation]
      · rw [log]
        exact run.later ordered

variable [FlowArithmetic]

/-- The end of the preparation begins the first group. -/
theorem begins (program : s.irrigation.program = .both) (running : s.irrigation.isStopped = 0)
    (log : stageLog s.trace = before) :
    BothPhase before duration isCleaning now (s.beginProgram now) := by
  unfold beginProgram
  rw [if_pos running, program]
  have irrigation := start_ready_irrigation now (s.beginPumping now) .both s.irrigation.isCleaning
    rfl
  have begun := start_ready_stageLog now (s.beginPumping now) .both s.irrigation.isCleaning rfl
    trivial
  rw [beginPumping_stageLog, log] at begun
  apply first now (Nat.le_refl now)
  · rw [irrigation]
    rfl
  · rw [irrigation]
  · rw [irrigation]
    rfl
  · rw [irrigation]
    rfl
  · exact begun

omit [FlowArithmetic] in
/-- A stage of `BOTH` that is over has lasted. -/
theorem lasted {since : Nat} (past : since ≤ now) (configured : s.irrigation.timeProgramDuration =
    duration) (program : s.irrigation.program = .both)
    (start : s.irrigation.timeProgramStart = millis since) (expired : s.StageOver now) :
    since + duration.toNat ≤ now := by
  unfold StageOver StageRunning stageDuration at expired
  rw [program, start] at expired
  rw [← configured]
  exact Clock.wait_elapsed past expired

/-- One turn of a running program, when the marker agrees with the stage. -/
theorem turn (phase : BothPhase before duration isCleaning clock s) (ordered : clock ≤ now)
    (configured : s.irrigation.timeProgramDuration = duration)
    (cleaning : s.irrigation.isCleaning = isCleaning) (ready : s.irrigation.status = .ready)
    (agrees : s.MarkerAgrees now) :
    BothPhase before duration isCleaning now (s.updateProgram now) := by
  have step := programTurn now s
  generalize s.updateProgram now = t at step ⊢
  cases phase with
  | preparing status => simp [ready] at status
  | first since past status program current start log =>
      cases step with
      | waits => exact first since (Nat.le_trans past ordered) status program current start log
      | endless unknown => simp [program, Program.Known] at unknown
      | groupOver _ _ group => simp [program] at group
      | bothNext expired =>
          have irrigation := start_ready_irrigation now (s.deviceToggle now 10 0) .group2
            s.irrigation.isCleaning ready
          have begun := start_ready_stageLog now (s.deviceToggle now 10 0) .group2
            s.irrigation.isCleaning ready trivial
          rw [deviceToggle_stageLog, log] at begun
          have ended := lasted (Nat.le_trans past ordered) configured program start expired
          refine second since now ended (Nat.le_refl now) ?_ rfl ?_ ?_ begun
          · simp [irrigation, ready]
          · simp [irrigation, Program.firstStage]
          · simp [irrigation, Program.Known]
      | bothOver expired _ closed =>
          exact absurd ((agrees ready program expired).mpr current) closed
      | washFirst _ other | washSecond _ other | washOver _ other | gardenOver _ other =>
          simp [program] at other
  | second begun since run past status program current start log =>
      cases step with
      | waits =>
          exact second begun since run (Nat.le_trans past ordered) status program current start log
      | endless unknown => simp [program, Program.Known] at unknown
      | groupOver _ _ group => simp [program] at group
      | bothNext expired _ opened =>
          have other := (agrees ready program expired).mp opened
          simp [current] at other
      | bothOver expired =>
          have ended := lasted (Nat.le_trans past ordered) configured program start expired
          subst cleaning
          unfold cleanOrFinish
          split
          · rename_i cleaned
            have closed : ((s.deviceToggle now 2 0).deviceToggle now 11 0).irrigation.status =
                .ready := ready
            have irrigation :=
              start_ready_irrigation now _ .cleaning s.irrigation.isCleaning closed
            have washed :=
              start_ready_stageLog now _ .cleaning s.irrigation.isCleaning closed trivial
            rw [deviceToggle_stageLog, deviceToggle_stageLog, log] at washed
            refine behind ?_ ?_
              ⟨begun, since, run, .inr ⟨cleaned, now, ended, Nat.le_refl now, washed⟩⟩
            · simp [irrigation, ready]
            · simp [irrigation]
          · rename_i plain
            refine behind (by simp) (by simp)
              ⟨begun, since, run, .inl ⟨not_not.mp plain, ?_, ended⟩⟩
            simp [log]
      | washFirst _ other | washSecond _ other | washOver _ other | gardenOver _ other =>
          simp [program] at other
  | behind status program run =>
      have washing := program ready
      have later := run.later ordered
      cases step with
      | waits => exact behind status program later
      | endless unknown => simp [washing, Program.Known] at unknown
      | groupOver _ _ group => simp [washing] at group
      | bothNext _ other | bothOver _ other | gardenOver _ other => simp [washing] at other
      | washFirst | washSecond => exact behind (by simp [ready]) (by simp [washing]) (by simpa)
      | washOver => exact behind (by simp) (by simp) (by simpa)

end BothPhase

namespace BothRun

variable {before : List (Nat × Program)} {duration : UInt32} {isCleaning : Flag} {clock now : Nat}
  {s : Controller}

theorem frame {t : Controller} (run : BothRun before duration isCleaning clock s)
    (ordered : clock ≤ now) (irrigation : t.irrigation = s.irrigation)
    (log : stageLog t.trace = stageLog s.trace) : BothRun before duration isCleaning now t where
  configured := by rw [irrigation, run.configured]
  cleaning := by rw [irrigation, run.cleaning]
  phase := run.phase.frame ordered irrigation log

variable [FlowArithmetic]

/-- A start outside `READY` puts off every stage. -/
theorem start (idle : s.irrigation.status = .finished) :
    BothRun (stageLog s.trace) s.irrigation.timeProgramDuration isCleaning now
      (s.controlIrrigationTempStart now .both isCleaning) := by
  rw [start_of_not_ready now s .both isCleaning (by simp [idle])]
  refine ⟨rfl, rfl, .preparing rfl rfl rfl ?_⟩
  simp

/-- What the end of the preparation and a turn of the program leave of the settings. -/
theorem begins_settings (running : s.irrigation.isStopped = 0) :
    (s.beginProgram now).irrigation.timeProgramDuration = s.irrigation.timeProgramDuration ∧
      (s.beginProgram now).irrigation.isCleaning = s.irrigation.isCleaning := by
  unfold beginProgram
  rw [if_pos running, start_ready_irrigation now (s.beginPumping now) _ _ rfl]
  exact ⟨rfl, rfl⟩

variable (now) in
theorem turn_settings (ready : s.irrigation.status = .ready)
    (program : s.irrigation.program = .both ∨ s.irrigation.program = .cleaning) :
    (s.updateProgram now).irrigation.timeProgramDuration = s.irrigation.timeProgramDuration ∧
      (s.updateProgram now).irrigation.isCleaning = s.irrigation.isCleaning := by
  have step := programTurn now s
  generalize s.updateProgram now = t at step ⊢
  cases step with
  | waits | endless | washFirst | washSecond | washOver | gardenOver => exact ⟨rfl, rfl⟩
  | groupOver _ _ group => rcases program with both | washing <;> simp_all
  | bothNext =>
      have irrigation := start_ready_irrigation now (s.deviceToggle now 10 0) .group2
        s.irrigation.isCleaning ready
      simp [irrigation]
  | bothOver =>
      unfold cleanOrFinish
      split
      · have closed : ((s.deviceToggle now 2 0).deviceToggle now 11 0).irrigation.status =
            .ready := ready
        simp [start_ready_irrigation now _ .cleaning s.irrigation.isCleaning closed]
      · exact ⟨rfl, rfl⟩

/-- One call of `control_irrigation_temp_update` without a fault, when the marker agrees. -/
theorem update (run : BothRun before duration isCleaning clock s) (ordered : clock ≤ now)
    (sound : ¬ s.StopsFaulty) (agrees : s.MarkerAgrees now) :
    BothRun before duration isCleaning now (s.controlIrrigationTempUpdate now) := by
  have step := updateStep now s
  generalize s.controlIrrigationTempUpdate now = t at step ⊢
  cases step with
  | idle | warming | cooling => exact run.frame ordered rfl rfl
  | begins status =>
      cases run.phase with
      | preparing _ program running log =>
          obtain ⟨configured, cleaning⟩ := begins_settings running
          exact ⟨configured.trans run.configured, cleaning.trans run.cleaning,
            .begins program running log⟩
      | first _ _ ready | second _ _ _ _ ready => simp [ready] at status
      | behind other => exact absurd status other
  | runs ready =>
      have program : s.irrigation.program = .both ∨ s.irrigation.program = .cleaning := by
        cases run.phase with
        | preparing _ program => exact .inl program
        | first _ _ _ program | second _ _ _ _ _ program => exact .inl program
        | behind _ program => exact .inr (program ready)
      obtain ⟨configured, cleaning⟩ := turn_settings now ready program
      exact ⟨configured.trans run.configured, cleaning.trans run.cleaning,
        run.phase.turn ordered run.configured run.cleaning ready agrees⟩
  | stops status faulty => exact absurd ⟨status, faulty⟩ sound
  | shuts status =>
      refine ⟨run.configured, run.cleaning, ?_⟩
      cases run.phase with
      | preparing other | first _ _ other | second _ _ _ _ other => simp [status] at other
      | behind _ _ groups =>
          refine .behind (by simp) (by simp) ?_
          rw [shutDown_stageLog]
          exact groups.later ordered

end BothRun

/-! ## Runs -/

section

variable [FlowArithmetic] {begun : Controller} {origin : Nat} {history : List (Step Operation)}

/-- The periodic calls and manual toggles of relays, without a fault stop, where the marker agrees
with the stage whenever the machine asks it. -/
def markerGuard (begun : Controller) (prior : List (Step Operation)) (step : Step Operation) :
    Prop :=
  (step.operation.Periodic ∨ ∃ device isActive, step.operation = .deviceToggle device isActive) ∧
    (step.operation = .irrigationUpdate →
      let before := controller.after begun prior
      ¬ before.StopsFaulty ∧ before.MarkerAgrees step.now)

/-- The periodic calls beside the machine's own begin no stage. -/
theorem Operation.Periodic.stageLog {operation : Operation} (periodic : operation.Periodic)
    (beside : ¬ operation.DrivesMachine) (now : Nat) (s : Controller) :
    stageLog (operation.run now s).trace = stageLog s.trace := by
  cases operation with
  | deviceUpdate => exact deviceUpdate_stageLog now s
  | sensorFlowUpdate => exact congrArg _ (SensorsOnly.sensorFlowUpdate now s).trace
  | sensorPressureUpdate readings =>
      exact congrArg _ (SensorsOnly.sensorPressureUpdate now readings s).trace
  | controlFlowUpdate => exact controlFlowUpdate_stageLog now s
  | sensorInterrupt => rfl
  | irrigationUpdate => exact absurd trivial beside
  | _ => exact periodic.elim

/-- Without a command the machine prepares nothing. -/
theorem Operation.Periodic.not_preparing {operation : Operation} (periodic : operation.Periodic)
    (now : Nat) {s : Controller} (elsewhere : s.irrigation.status ≠ .preparing) :
    (operation.run now s).irrigation.status ≠ .preparing := by
  by_cases drives : operation.DrivesMachine
  · obtain rfl := periodic.drivesMachine.mp drives
    change (s.controlIrrigationTempUpdate now).irrigation.status ≠ .preparing
    have step := updateStep now s
    generalize s.controlIrrigationTempUpdate now = t at step ⊢
    cases step with
    | idle | warming | cooling => exact elsewhere
    | begins status => exact absurd status elsewhere
    | runs ready =>
        rcases turn_updateProgram now s ready with stays | off
        · simp [stays.status]
        · simp [off.status]
    | stops => simp
    | shuts => simp
  · rwa [periodic.irrigation now s drives]

theorem bothRun_of_admitted {before : List (Nat × Program)} {duration : UInt32} {isCleaning : Flag}
    (start : BothRun before duration isCleaning origin begun)
    (admitted : Machine.Admitted (markerGuard begun) origin history) :
    BothRun before duration isCleaning (Machine.lastTime origin history)
      (controller.after begun history) := by
  apply admitted.invariant (BothRun before duration isCleaning) start
  rintro prior ⟨now, operation⟩ run ordered ⟨periodic | ⟨device, isActive, rfl⟩, update⟩
  · by_cases drives : operation.DrivesMachine
    · obtain rfl := periodic.drivesMachine.mp drives
      obtain ⟨sound, agrees⟩ := update rfl
      exact run.update ordered sound agrees
    · exact run.frame ordered (periodic.irrigation now _ drives) (periodic.stageLog drives now _)
  · exact run.frame ordered rfl (deviceToggle_stageLog now _ device isActive)

/-- Whatever is toggled by hand, a run of `BOTH` leaves `READY` only when the first and then the
second group have been begun, once each, and have lasted for the duration of the program, as long
as valve 10 is open at the end of the first group's stage and closed at the end of the second's. -/
theorem toggles_keep_stages (idle : Controller) (isCleaning : Flag)
    (finished : idle.irrigation.status = .finished)
    (admitted : Machine.Admitted
      (markerGuard (idle.controlIrrigationTempStart origin .both isCleaning)) origin history) :
    let begun := idle.controlIrrigationTempStart origin .both isCleaning
    ∀ step prior, history = step :: prior →
      (controller.after begun prior).irrigation.status = .ready →
      (controller.after begun history).irrigation.status ≠ .ready →
      GroupsRun (stageLog idle.trace) idle.irrigation.timeProgramDuration isCleaning step.now
        (stageLog (controller.after begun history).trace) := by
  rintro begun step prior rfl ready left
  have run := bothRun_of_admitted (BothRun.start finished) admitted
  cases run.phase with
  | preparing status =>
      obtain ⟨-, -, periodic | ⟨device, isActive, toggle⟩, -⟩ := admitted
      · exact absurd status (periodic.not_preparing step.now (by simp [begun, ready]))
      · change (step.operation.run step.now _).irrigation.status = _ at status
        rw [toggle] at status
        exact absurd (ready.symm.trans status) (by decide)
  | first _ _ ready | second _ _ _ _ ready => exact absurd ready left
  | behind _ _ groups => exact groups

end

/-- Valve 10 is toggled in both stages, and back again before either of them is over. -/
def toggledBack : List (Step Operation) :=
  [⟨1809000, .irrigationUpdate⟩, ⟨1000000, .deviceToggle 10 0⟩, ⟨950000, .deviceToggle 10 1⟩,
    ⟨909000, .irrigationUpdate⟩, ⟨30000, .deviceToggle 10 1⟩, ⟨20000, .deviceToggle 10 0⟩,
    ⟨9000, .irrigationUpdate⟩]

theorem toggles_keep_stages_toggledBack :
    GroupsRun [] 900000 0 1809000
      (stageLog (controller.after (boot.controlIrrigationTempStart 4000 .both 0) toggledBack).trace)
    := by
  have toggle : ∀ (prior : List (Step Operation)) (now : Nat) (isActive : Flag),
      markerGuard (boot.controlIrrigationTempStart 4000 .both 0) prior
        ⟨now, .deviceToggle 10 isActive⟩ :=
    fun _ _ isActive => ⟨.inr ⟨10, isActive, rfl⟩, fun update => by cases update⟩
  have admitted : Machine.Admitted (markerGuard (boot.controlIrrigationTempStart 4000 .both 0))
      4000 toggledBack := by
    refine ⟨⟨⟨⟨⟨⟨⟨trivial, by decide, .inl trivial, fun _ => ⟨by decide, ?_⟩⟩, by decide,
      toggle _ _ _⟩, by decide, toggle _ _ _⟩, by decide, .inl trivial, fun _ => ⟨by decide, ?_⟩⟩,
      by decide, toggle _ _ _⟩, by decide, toggle _ _ _⟩, by decide, .inl trivial,
      fun _ => ⟨by decide, ?_⟩⟩
    · exact fun ready => absurd ready (by decide)
    · exact fun _ _ _ => iff_of_true (by decide) (by decide)
    · exact fun _ _ _ => iff_of_false (by decide) (by decide)
  exact toggles_keep_stages boot 0 rfl admitted _ _ rfl (by decide) (by decide)

/-- Valve 10 is closed by hand in the stage of the first group, and there is no second stage. -/
def toggledOff : List (Step Operation) :=
  [⟨909000, .irrigationUpdate⟩, ⟨20000, .deviceToggle 10 0⟩, ⟨9000, .irrigationUpdate⟩]

theorem toggles_skip_stage :
    let begun := boot.controlIrrigationTempStart 4000 .both 0
    Machine.Admitted (fun prior step =>
        (step.operation.Periodic ∨
          ∃ device isActive, step.operation = .deviceToggle device isActive) ∧
        ¬ (controller.after begun prior).StopsFaulty) 4000 toggledOff ∧
      (controller.after begun toggledOff.tail).irrigation.status = .ready ∧
      (controller.after begun toggledOff).irrigation.status = .finishing ∧
      stageLog (controller.after begun toggledOff).trace = [(9000, .group1)] ∧
      ¬ GroupsRun [] 900000 0 909000 (stageLog (controller.after begun toggledOff).trace) := by
  intro begun
  have skipped : stageLog (controller.after begun toggledOff).trace = [(9000, .group1)] := by decide
  refine ⟨?_, by decide, by decide, skipped, ?_⟩
  · exact ⟨⟨⟨trivial, by decide, .inl trivial, by decide⟩, by decide, .inr ⟨10, 0, rfl⟩, by decide⟩,
      by decide, .inl trivial, by decide⟩
  · rintro ⟨first, second, -, ⟨-, log, -⟩ | ⟨cleaned, -⟩⟩
    · simp [skipped] at log
    · exact cleaned rfl

end BlueberryIrrigation
