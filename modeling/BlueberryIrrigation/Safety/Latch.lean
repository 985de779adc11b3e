import BlueberryIrrigation.Controller.Operation

/-!
# The fault latch

Fault detection latches what it finds until something forgets it, and the stop that a fault causes
is not what forgets it. Starting a flow forgets it, and so does resuming a group with its supplement
flows. `Controller.ClearsLatch` says which beginnings of a program do either: the stages without
a flow, the groups that deliver no supplements and the resumed garden carry an old fault into the
new run.
-/

namespace BlueberryIrrigation

open Semantics Controller

namespace Controller

/-- The stage that the end of the preparation begins or goes on with forgets a latched fault. -/
def ClearsLatch (s : Controller) : Prop :=
  ((s.stageToBegin = .group1 ∨ s.stageToBegin = .group2) ∧ s.irrigation.deliverVolume ≠ 1) ∨
    (s.irrigation.isStopped = 0 ∧ s.irrigation.program = .garden)

instance decidableClearsLatch (s : Controller) : Decidable s.ClearsLatch :=
  inferInstanceAs (Decidable (_ ∨ _))

variable (now : Nat) (s : Controller)

/-! ## Who writes the latch -/

/-- The latch is as it was, or it is forgotten. -/
def LatchKept (before after : Controller) : Prop :=
  after.faultyDetectionStatus = before.faultyDetectionStatus ∨
    after.faultyDetectionStatus = .notDetected

namespace LatchKept

variable {first second third : Controller}

theorem of_eq (same : second.faultyDetectionStatus = first.faultyDetectionStatus) :
    LatchKept first second := .inl same

theorem trans (before : LatchKept first second) (after : LatchKept second third) :
    LatchKept first third := by
  rcases after with same | forgotten
  · unfold LatchKept
    rwa [same]
  · exact .inr forgotten

end LatchKept

@[simp] theorem startAssign_faultyDetectionStatus (program : Program) (isCleaning : Flag) :
    (s.startAssign program isCleaning).faultyDetectionStatus = s.faultyDetectionStatus := rfl

@[simp] theorem beginPumping_faultyDetectionStatus :
    (s.beginPumping now).faultyDetectionStatus = s.faultyDetectionStatus := rfl

@[simp] theorem forceStop_faultyDetectionStatus :
    (s.controlIrrigationTempForceStop now).faultyDetectionStatus = s.faultyDetectionStatus := by
  simp [controlIrrigationTempForceStop]

theorem deviceUpdate_faultyDetectionStatus :
    (s.deviceUpdate now).faultyDetectionStatus = s.faultyDetectionStatus := by
  change (s.deviceRelease now 0).faultyDetectionStatus = _
  unfold deviceRelease
  dsimp only
  split
  · rfl
  · split <;> rfl

/-- The resume branch of a group forgets a fault together with its supplement flows. -/
theorem resumeGroup_faultyDetectionStatus (valve : Fin 15) :
    (s.resumeGroup now valve).faultyDetectionStatus =
      if s.irrigation.deliverVolume = 1 then s.faultyDetectionStatus else .notDetected := by
  unfold resumeGroup
  by_cases plain : s.irrigation.deliverVolume = 1
  · simp only [plain, ne_eq, not_true_eq_false, if_false, if_true]
    rfl
  · simp only [plain, ne_eq, not_false_eq_true, if_false, if_true]
    rfl

/-- A resume in `READY` forgets a fault in its group branches only. -/
theorem resume_ready_faultyDetectionStatus (stopped : s.irrigation.isStopped ≠ 0)
    (ready : s.irrigation.status = .ready) :
    (s.controlIrrigationTempResume now).faultyDetectionStatus =
      if (s.irrigation.programCurrent = .group1 ∨ s.irrigation.programCurrent = .group2) ∧
          s.irrigation.deliverVolume ≠ 1 then .notDetected
      else s.faultyDetectionStatus := by
  unfold controlIrrigationTempResume
  rw [if_neg stopped, if_neg (by simp [ready])]
  cases s.irrigation.programCurrent with
  | group1 | group2 =>
      by_cases plain : s.irrigation.deliverVolume = 1 <;>
        simp [resumeGroup_faultyDetectionStatus, plain]
  | cleaning | garden | both | unknown => simp [reviveFlow, restoreProgramStart, setFlow]

section

variable [FlowArithmetic]

/-- The start branch of a group forgets a fault together with starting its supplement flows. -/
theorem beginGroup_faultyDetectionStatus (valve : Fin 15) (group : Program) :
    (s.beginGroup now valve group).faultyDetectionStatus =
      if s.irrigation.deliverVolume = 1 then s.faultyDetectionStatus else .notDetected := by
  unfold beginGroup
  by_cases plain : s.irrigation.deliverVolume = 1
  · simp only [plain, ne_eq, not_true_eq_false, if_false, if_true]
    rfl
  · simp only [plain, ne_eq, not_false_eq_true, if_false, if_true]
    rfl

/-- A start in `READY` forgets a fault when its stage starts a flow. -/
theorem start_ready_faultyDetectionStatus (program : Program) (isCleaning : Flag)
    (ready : s.irrigation.status = .ready) :
    (s.controlIrrigationTempStart now program isCleaning).faultyDetectionStatus =
      if (program.firstStage = .group1 ∨ program.firstStage = .group2) ∧
            s.irrigation.deliverVolume ≠ 1 ∨ program = .garden then .notDetected
      else s.faultyDetectionStatus := by
  unfold controlIrrigationTempStart
  rw [if_neg (by simp [ready])]
  cases program with
  | group1 | group2 | both =>
      by_cases plain : s.irrigation.deliverVolume = 1 <;>
        simp [beginGroup_faultyDetectionStatus, Program.firstStage, plain]
  | cleaning | garden | unknown => simp [Program.firstStage] <;> rfl

/-- The latch after the end of the preparation. -/
theorem beginProgram_faultyDetectionStatus :
    (s.beginProgram now).faultyDetectionStatus =
      if s.ClearsLatch then .notDetected else s.faultyDetectionStatus := by
  unfold beginProgram ClearsLatch stageToBegin
  by_cases stopped : s.irrigation.isStopped = 0
  · rw [if_pos stopped, start_ready_faultyDetectionStatus now _ _ _ rfl]
    simp [stopped]
  · rw [if_neg stopped, resume_ready_faultyDetectionStatus now (s.beginPumping now) stopped rfl]
    simp [stopped]
    rfl

theorem LatchKept.start (program : Program) (isCleaning : Flag) :
    LatchKept s (s.controlIrrigationTempStart now program isCleaning) := by
  by_cases ready : s.irrigation.status = .ready
  · unfold LatchKept
    rw [start_ready_faultyDetectionStatus now s program isCleaning ready]
    split
    · exact .inr rfl
    · exact .inl rfl
  · rw [start_of_not_ready now s program isCleaning ready]
    exact .inl rfl

omit [FlowArithmetic] in
theorem LatchKept.resume : LatchKept s (s.controlIrrigationTempResume now) := by
  by_cases stopped : s.irrigation.isStopped = 0
  · rw [resume_of_not_stopped now s stopped]
    exact .inl rfl
  · by_cases ready : s.irrigation.status = .ready
    · unfold LatchKept
      rw [resume_ready_faultyDetectionStatus now s stopped ready]
      split
      · exact .inr rfl
      · exact .inl rfl
    · rw [resume_of_not_ready now s stopped ready]
      exact .inl rfl

theorem LatchKept.cleanOrFinish (isCleaning : Flag) :
    LatchKept s (s.cleanOrFinish now isCleaning) := by
  unfold Controller.cleanOrFinish
  split
  · exact .start now s .cleaning isCleaning
  · exact .inl rfl

/-- A turn of the program latches nothing. -/
theorem LatchKept.updateProgram : LatchKept s (s.updateProgram now) := by
  have turn := programTurn now s
  generalize s.updateProgram now = t at turn ⊢
  cases turn with
  | waits | endless | washFirst | washSecond | washOver | gardenOver => exact .inl rfl
  | groupOver valve =>
      exact LatchKept.trans (.of_eq rfl)
        (.cleanOrFinish now ((s.deviceToggle now 2 0).deviceToggle now valve 0) 1)
  | bothNext =>
      have started : LatchKept s _ :=
        LatchKept.start now (s.deviceToggle now 10 0) .group2 s.irrigation.isCleaning
      exact started.trans (.of_eq rfl)
  | bothOver =>
      exact LatchKept.trans (.of_eq rfl)
        (.cleanOrFinish now ((s.deviceToggle now 2 0).deviceToggle now 11 0)
          s.irrigation.isCleaning)

theorem LatchKept.update : LatchKept s (s.controlIrrigationTempUpdate now) := by
  have step := updateStep now s
  generalize s.controlIrrigationTempUpdate now = t at step ⊢
  cases step with
  | idle | warming | cooling | shuts => exact .inl rfl
  | begins =>
      unfold LatchKept
      rw [beginProgram_faultyDetectionStatus]
      split
      · exact .inr rfl
      · exact .inl rfl
  | runs => exact .updateProgram now s
  | stops => exact .of_eq (forceStop_faultyDetectionStatus now s)

end

end Controller

section

variable [FlowArithmetic] (now : Nat) (s : Controller)

/-- Nothing but `control_flow_update` latches a fault. -/
theorem latchKept {operation : Operation} (other : operation ≠ .controlFlowUpdate) :
    LatchKept s (operation.run now s) := by
  cases operation with
  | start program isCleaning => exact .start now s program isCleaning
  | forceStop => exact .of_eq (forceStop_faultyDetectionStatus now s)
  | resume => exact .resume now s
  | faultyDetectionToggle | flowStart => exact .inr rfl
  | assign setting => cases setting <;> exact .inl rfl
  | flowStop flow => exact .of_eq (controlFlowStop_faultyDetectionStatus now flow s)
  | flowPause flow isPause =>
      refine .of_eq ?_
      change (s.controlFlowPause now flow isPause).faultyDetectionStatus = _
      unfold controlFlowPause
      dsimp only
      split <;> rfl
  | deviceToggle | pulsesTotalSet | sensorInterrupt => exact .inl rfl
  | deviceUpdate => exact .of_eq (deviceUpdate_faultyDetectionStatus now s)
  | sensorFlowUpdate => exact .of_eq (SensorsOnly.sensorFlowUpdate now s).faultyDetectionStatus
  | sensorPressureUpdate readings =>
      exact .of_eq (SensorsOnly.sensorPressureUpdate now readings s).faultyDetectionStatus
  | controlFlowUpdate => exact absurd rfl other
  | irrigationUpdate => exact .update now s

end

/-! ## Runs -/

section

variable [FlowArithmetic] {history : List (Step Operation)}

/-- The step takes the machine from `PREPARING` to `READY`. -/
def BeginsRun (prior : List (Step Operation)) (step : Step Operation) : Prop :=
  (controller.after boot prior).irrigation.status = .preparing ∧
    (controller.after boot (step :: prior)).irrigation.status = .ready

/-- The step is the `control_flow_update` that latches a fault where none was latched. -/
def DetectsFault (prior : List (Step Operation)) (step : Step Operation) : Prop :=
  step.operation = .controlFlowUpdate ∧
    (controller.after boot prior).faultyDetectionStatus = .notDetected ∧
    (controller.after boot (step :: prior)).faultyDetectionStatus ≠ .notDetected

/-- A fault has been detected since the machine was last taken to `READY`. -/
def DetectedInRun : List (Step Operation) → Prop
  | [] => False
  | step :: prior => ¬ BeginsRun prior step ∧ (DetectsFault prior step ∨ DetectedInRun prior)

/-- Nothing is latched when a program begins, or its beginning forgets what is. -/
def clearingGuard (prior : List (Step Operation)) (step : Step Operation) : Prop :=
  let before := controller.after boot prior
  BeginsRun prior step → before.faultyDetectionStatus = .notDetected ∨ before.ClearsLatch

/-- While the machine works on a program, what is latched has been detected since the program
began. -/
theorem detectedInRun_of_admitted
    (admitted : Machine.Admitted clearingGuard setupTime history) :
    let s := controller.after boot history
    s.irrigation.status = .ready ∨ s.irrigation.status = .finishing →
      s.faultyDetectionStatus ≠ .notDetected → DetectedInRun history := by
  refine admitted.along (fun history =>
    let s := controller.after boot history
    s.irrigation.status = .ready ∨ s.irrigation.status = .finishing →
      s.faultyDetectionStatus ≠ .notDetected → DetectedInRun history) ?_ ?_
  · intro s _ latched
    exact absurd rfl latched
  · intro step prior _ known _ clears s working latched
    have continues : ¬ BeginsRun prior step := by
      rintro ⟨preparing, ready⟩
      obtain ⟨update, -, expired⟩ := run_enters_ready (by simp [preparing]) ready
      have begun : s = (controller.after boot prior).beginProgram step.now := by
        change step.operation.run step.now (controller.after boot prior) = _
        rw [update]
        exact update_begins step.now _ preparing expired
      apply latched
      rw [begun, beginProgram_faultyDetectionStatus]
      rcases clears ⟨preparing, ready⟩ with fresh | forgets
      · simp [fresh]
      · exact if_pos forgets
    have before : (controller.after boot prior).irrigation.status = .ready ∨
        (controller.after boot prior).irrigation.status = .finishing := by
      rcases working with ready | finishing
      · by_contra elsewhere
        exact continues ⟨(run_enters_ready (fun same => elsewhere (.inl same)) ready).2.1, ready⟩
      · by_cases same : (controller.after boot prior).irrigation.status = .finishing
        · exact .inr same
        · exact .inl (run_enters_finishing same finishing)
    by_cases fresh : (controller.after boot prior).faultyDetectionStatus = .notDetected
    · refine ⟨continues, .inl ⟨?_, fresh, latched⟩⟩
      by_contra other
      have kept := latchKept step.now (controller.after boot prior) other
      exact latched (kept.elim (fun same => same.trans fresh) id)
    · exact ⟨continues, .inr (known before fresh)⟩

/-- An old fault is forgotten when the machine goes to `READY` exactly when none is latched or the
stage that begins clears the latch. In a run in which that is so whenever a program begins, a fault
can only stop a program during which it has been detected. -/
theorem latch_forgotten :
    (∀ prior now, Machine.Admitted (fun _ _ => True) setupTime prior →
      Machine.lastTime setupTime prior ≤ now →
      let before := controller.after boot prior
      let after := before.controlIrrigationTempUpdate now
      before.irrigation.status = .preparing → after.irrigation.status = .ready →
        (after.faultyDetectionStatus = .notDetected ↔
          before.faultyDetectionStatus = .notDetected ∨ before.ClearsLatch)) ∧
    ∀ history, Machine.Admitted clearingGuard setupTime history →
      let s := controller.after boot history
      (s.irrigation.status = .ready ∨ s.irrigation.status = .finishing) → s.IsFaulty →
        DetectedInRun history := by
  constructor
  · intro prior now _ _ before after preparing ready
    have elsewhere : before.irrigation.status ≠ .ready := by simp [preparing]
    have entered : (Operation.irrigationUpdate.run now before).irrigation.status = .ready := ready
    obtain ⟨-, -, expired⟩ := run_enters_ready elsewhere entered
    have begun : after = before.beginProgram now := update_begins now before preparing expired
    rw [begun, beginProgram_faultyDetectionStatus]
    by_cases forgets : before.ClearsLatch
    · simp [forgets]
    · simp [forgets]
  · intro history admitted s working faulty
    exact detectedInRun_of_admitted admitted working faulty.2

end

/-- The latch is clear when the first group begins, and the fault of its run is one of its own. -/
theorem latch_forgotten_group1 :
    let begun : List (Step Operation) := [⟨9000, .irrigationUpdate⟩, ⟨4000, .start .group1 0⟩]
    (controller.after boot begun).faultyDetectionStatus = .notDetected ∧
      DetectedInRun (⟨19001, .controlFlowUpdate⟩ :: begun) := by
  intro begun
  have admitted : Machine.Admitted (fun _ _ => True) setupTime
      [(⟨4000, .start .group1 0⟩ : Step Operation)] := ⟨trivial, by decide, trivial⟩
  have cleared : Machine.Admitted clearingGuard setupTime
      (⟨19001, .controlFlowUpdate⟩ :: begun) :=
    ⟨⟨⟨trivial, by decide, fun _ => .inl (by decide)⟩, by decide, fun _ => .inl (by decide)⟩,
      by decide, fun _ => .inl (by decide)⟩
  constructor
  · exact (latch_forgotten.1 _ 9000 admitted (by decide) (by decide) (by decide)).mpr
      (.inl (by decide))
  · exact latch_forgotten.2 _ cleared (.inl (by decide)) (by decide)

/-- No pulse of the first group's sensors arrives, the fault stops it, and the cleaning program
that is started next is stopped by the same fault. -/
def staleLatch : List (Step Operation) :=
  [⟨25000, .irrigationUpdate⟩, ⟨20000, .start .cleaning 0⟩, ⟨19001, .irrigationUpdate⟩,
    ⟨19001, .controlFlowUpdate⟩, ⟨9000, .irrigationUpdate⟩, ⟨4000, .start .group1 0⟩]

theorem latch_not_forgotten :
    Machine.Admitted (fun _ _ => True) setupTime staleLatch ∧
      (controller.after boot staleLatch.tail).irrigation.status = .preparing ∧
      (controller.after boot staleLatch).irrigation.status = .ready ∧
      (controller.after boot staleLatch).faultyDetectionStatus = .detectedPressureZero ∧
      ((controller.after boot staleLatch).controlIrrigationTempUpdate 25001).irrigation.isStopped =
        FaultyDetectionStatus.detectedPressureZero.number := by
  refine ⟨?_, by decide, by decide, by decide, by decide⟩
  exact ⟨⟨⟨⟨⟨⟨trivial, by decide, trivial⟩, by decide, trivial⟩, by decide, trivial⟩, by decide,
    trivial⟩, by decide, trivial⟩, by decide, trivial⟩

end BlueberryIrrigation
