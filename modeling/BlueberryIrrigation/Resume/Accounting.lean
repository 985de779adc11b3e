import BlueberryIrrigation.Controller.Operation

/-!
# Irrigation time accounting

The machine does not count irrigation time. It keeps the time at which a stage was begun
and, after a stop, moves it forward by the pause. `readyTime` is the time a stage has
really been irrigated, counted over the run; `Accounted` says that the two timestamps
agree with it, in `READY` and while a stop that interrupted `READY` is pending.
-/

namespace BlueberryIrrigation

open Semantics Controller

/-- The stages whose time a resume restores. -/
def Program.Measured (stage : Program) : Prop :=
  stage = .group1 ∨ stage = .group2 ∨ stage = .garden

/-- A stop: the command, or an update that finds a detected fault. -/
def Operation.Stops (s : Controller) : Operation → Prop
  | .forceStop => True
  | .irrigationUpdate =>
      (s.irrigation.status = .ready ∨ s.irrigation.status = .finishing) ∧ s.IsFaulty
  | _ => False

/-- The update with which a resume takes effect. -/
def Operation.Resumes (now : Nat) (s : Controller) : Operation → Prop
  | .irrigationUpdate =>
      s.irrigation.status = .preparing ∧ ¬ s.GeneratorWaiting now ∧ s.irrigation.isStopped ≠ 0
  | _ => False

section

variable [FlowArithmetic]

/-- The latest stop of the history was issued in `READY`. -/
def StoppedReady : List (Step Operation) → Prop
  | [] => False
  | step :: prior =>
      let s := controller.after boot prior
      (step.operation.Stops s ∧ s.irrigation.status = .ready) ∨
        (¬ step.operation.Stops s ∧ StoppedReady prior)

/-- The steps of a run in which a resume follows a stop in `READY` and no other. -/
def resumeGuard (prior : List (Step Operation)) (step : Step Operation) : Prop :=
  let s := controller.after boot prior
  step.operation.Resumes step.now s → s.irrigation.programCurrent.Measured → StoppedReady prior

/-- The real time spent in `READY` since a start last began a stage. -/
def readyTime : List (Step Operation) → Nat
  | [] => 0
  | step :: prior =>
      let before := controller.after boot prior
      let after := controller.after boot (step :: prior)
      if stagesBegun after.trace ≠ stagesBegun before.trace then 0
      else if before.irrigation.status = .ready then
        readyTime prior + (step.now - Machine.lastTime setupTime prior)
      else readyTime prior

end

/-- The two timestamps of a stage show its irrigation time `ready`; after a stop they do if
the latest stop was issued in `READY`. -/
structure Accounted (clock ready : Nat) (stoppedReady : Prop) (s : Controller) : Prop where
  stopped : s.irrigation.isStopped ≠ 0 →
    s.irrigation.status = .finished ∨ s.irrigation.status = .preparing
  cleaning : s.irrigation.program = .cleaning → s.irrigation.programCurrent = .cleaning
  running : s.irrigation.status = .ready → s.irrigation.programCurrent.Measured →
    millis clock - s.irrigation.timeProgramStart = Clock.reading ready
  halted : s.irrigation.isStopped ≠ 0 → s.irrigation.programCurrent.Measured → stoppedReady →
    s.irrigation.timeProgramStop - s.irrigation.timeProgramStart = Clock.reading ready

namespace Accounted

variable {clock now ready : Nat} {stoppedReady : Prop} {s t : Controller}

/-- Nothing is to be resumed while a program runs or the generator cools down. -/
theorem unstopped (acc : Accounted clock ready stoppedReady s)
    (preparing : s.irrigation.status ≠ .preparing) (finished : s.irrigation.status ≠ .finished) :
    s.irrigation.isStopped = 0 := by
  by_contra stopped
  rcases acc.stopped stopped with is | is
  · exact finished is
  · exact preparing is

theorem boot (clock : Nat) : Accounted clock 0 False boot where
  stopped := by simp
  cleaning := by decide
  running := by simp
  halted := by simp

/-- The irrigation time one more step makes of `ready`, when no stage is begun. -/
def spent (clock now ready : Nat) (s : Controller) : Nat :=
  if s.irrigation.status = .ready then ready + (now - clock) else ready

/-- In `READY` the elapsed time grows with the clock. -/
theorem advance (acc : Accounted clock ready stoppedReady s) (ordered : clock ≤ now)
    (status : s.irrigation.status = .ready) (measured : s.irrigation.programCurrent.Measured) :
    millis now - s.irrigation.timeProgramStart = Clock.reading (spent clock now ready s) := by
  have shown := acc.running status measured
  have passed : millis now - millis clock = Clock.reading (now - clock) :=
    Clock.reading_sub ordered
  rw [spent, if_pos status, Clock.reading_add, ← shown, ← passed]
  grind

/-- A step that leaves the machine's variables alone only lets time pass. -/
theorem kept (acc : Accounted clock ready stoppedReady s) (ordered : clock ≤ now)
    (same : MachineKept s.irrigation t.irrigation) :
    Accounted now (spent clock now ready s) stoppedReady t where
  stopped := by
    rw [same.isStopped, same.status]
    exact acc.stopped
  cleaning := by
    rw [same.program, same.programCurrent]
    exact acc.cleaning
  running := by
    rw [same.status, same.programCurrent, same.timeProgramStart]
    exact acc.advance ordered
  halted := by
    rw [same.isStopped, same.programCurrent, same.timeProgramStart, same.timeProgramStop]
    intro stopped measured latest
    have elsewhere : s.irrigation.status ≠ .ready := by
      rcases acc.stopped stopped with finished | preparing
      · simp [finished]
      · simp [preparing]
    rw [spent, if_neg elsewhere]
    exact acc.halted stopped measured latest

/-- A start has just begun a stage. -/
theorem begun (stopped : t.irrigation.isStopped = 0)
    (cleaning : t.irrigation.program = .cleaning → t.irrigation.programCurrent = .cleaning)
    (start : t.irrigation.timeProgramStart = millis now) : Accounted now 0 stoppedReady t where
  stopped := by simp [stopped]
  cleaning := cleaning
  running _ _ := by
    rw [start, UInt32.sub_self]
    rfl
  halted := by simp [stopped]

/-- Nothing is stopped, and no measured stage is running. -/
theorem unmeasured (stopped : t.irrigation.isStopped = 0)
    (cleaning : t.irrigation.program = .cleaning → t.irrigation.programCurrent = .cleaning)
    (idle : t.irrigation.status = .ready → ¬ t.irrigation.programCurrent.Measured) :
    Accounted now ready stoppedReady t where
  stopped := by simp [stopped]
  cleaning := cleaning
  running status measured := absurd measured (idle status)
  halted := by simp [stopped]

theorem forceStop (acc : Accounted clock ready stoppedReady s) (ordered : clock ≤ now) :
    Accounted now (spent clock now ready s) (s.irrigation.status = .ready)
      (s.controlIrrigationTempForceStop now) where
  stopped := by simp
  cleaning := by simpa using acc.cleaning
  running := by simp
  halted := by
    simp only [forceStop_irrigation]
    intro _ measured status
    exact acc.advance ordered status measured

/-- What is known after a stop may be known under a stronger condition. -/
theorem strengthen {stronger : Prop} (acc : Accounted clock ready stoppedReady s)
    (implies : stronger → stoppedReady) : Accounted clock ready stronger s :=
  ⟨acc.stopped, acc.cleaning, acc.running,
    fun stopped measured latest => acc.halted stopped measured (implies latest)⟩

/-- `BOTH` relabels the program it has begun a group of. -/
theorem relabel (acc : Accounted clock ready stoppedReady s) :
    Accounted clock ready stoppedReady
      (s.withIrrigation fun irrigation => { irrigation with program := .both }) :=
  ⟨acc.stopped, by simp, acc.running, acc.halted⟩

/-- The generator goes on: the machine is in `PREPARING` and the timestamps are kept. -/
theorem prepareGenerator (acc : Accounted clock ready stoppedReady s)
    (elsewhere : s.irrigation.status ≠ .ready) :
    Accounted now (spent clock now ready s) stoppedReady (s.prepareGenerator now) where
  stopped _ := .inr rfl
  cleaning := acc.cleaning
  running := by simp
  halted := by
    rw [spent, if_neg elsewhere]
    exact acc.halted

/-- A program enters `READY` by a resume. -/
theorem resume_ready (acc : Accounted clock ready stoppedReady s)
    (stopped : s.irrigation.isStopped ≠ 0)
    (latest : s.irrigation.programCurrent.Measured → stoppedReady) :
    Accounted now ready stoppedReady ((s.beginPumping now).controlIrrigationTempResume now) := by
  have irrigation := resume_ready_irrigation now (s.beginPumping now) stopped rfl
  refine ⟨?_, ?_, ?_, ?_⟩
  · simp [irrigation]
  · rw [irrigation]
    exact acc.cleaning
  · rw [irrigation]
    intro _ measured
    have shown := acc.halted stopped measured (latest measured)
    simp only [beginPumping_irrigation] at measured ⊢
    rcases measured with current | current | current <;> rw [current] <;> grind
  · simp [irrigation]

variable [FlowArithmetic]

/-- A start in `READY` begins a stage, or leaves an unmeasured program. -/
theorem start_ready {stages passed : Nat} (program : Program) (isCleaning : Flag)
    (status : s.irrigation.status = .ready) (before : stagesBegun s.trace = stages) :
    Accounted now
      (if stagesBegun (s.controlIrrigationTempStart now program isCleaning).trace ≠ stages then 0
        else passed)
      stoppedReady (s.controlIrrigationTempStart now program isCleaning) := by
  have irrigation := start_ready_irrigation now s program isCleaning status
  have count := start_ready_stagesBegun now s program isCleaning status
  have cleaning : (s.controlIrrigationTempStart now program isCleaning).irrigation.program =
      .cleaning → (s.controlIrrigationTempStart now program isCleaning).irrigation.programCurrent =
      .cleaning := by
    rw [irrigation]
    rintro rfl
    rfl
  by_cases known : program.Known
  · rw [if_pos (by simp [count, known, before])]
    refine begun ?_ cleaning ?_
    · rw [irrigation]
    · rw [irrigation]
      exact if_pos known
  · refine unmeasured ?_ cleaning fun _ => ?_
    · rw [irrigation]
    · rw [irrigation]
      cases program with
      | unknown excess => simp [Program.firstStage, Program.Measured]
      | _ => exact absurd trivial known

theorem cleanOrFinish {stages passed : Nat} (isCleaning : Flag)
    (status : s.irrigation.status = .ready) (running : s.irrigation.isStopped = 0)
    (cleaning : s.irrigation.program = .cleaning → s.irrigation.programCurrent = .cleaning)
    (before : stagesBegun s.trace = stages) :
    Accounted now
      (if stagesBegun (s.cleanOrFinish now isCleaning).trace ≠ stages then 0 else passed)
      stoppedReady (s.cleanOrFinish now isCleaning) := by
  unfold Controller.cleanOrFinish
  split
  · exact start_ready .cleaning isCleaning status before
  · exact unmeasured running cleaning (by simp)

/-- One turn of a running program: it goes on, begins its next stage, or leaves `READY`. -/
theorem updateProgram (acc : Accounted clock ready stoppedReady s) (ordered : clock ≤ now)
    (status : s.irrigation.status = .ready) :
    Accounted now
      (if stagesBegun (s.updateProgram now).trace ≠ stagesBegun s.trace then 0
        else spent clock now ready s)
      stoppedReady (s.updateProgram now) := by
  have running := acc.unstopped (by simp [status]) (by simp [status])
  have waits : Accounted now
      (if stagesBegun s.trace ≠ stagesBegun s.trace then 0 else spent clock now ready s)
      stoppedReady s := by
    rw [if_neg (not_not_intro rfl)]
    exact acc.kept ordered (.of_eq rfl)
  have unlabelled : s.irrigation.program = .cleaning → ¬ s.irrigation.programCurrent.Measured := by
    intro program
    simp [acc.cleaning program, Program.Measured]
  have turn := programTurn now s
  generalize s.updateProgram now = t at turn ⊢
  cases turn with
  | waits | endless => exact waits
  | groupOver valve => exact cleanOrFinish 1 status running acc.cleaning (by simp)
  | bothNext => exact relabel (start_ready .group2 s.irrigation.isCleaning status (by simp))
  | bothOver => exact cleanOrFinish _ status running acc.cleaning (by simp)
  | washFirst expired program | washSecond expired program | washOver expired program =>
      exact unmeasured running acc.cleaning fun _ => unlabelled program
  | gardenOver => exact unmeasured running acc.cleaning (by simp)

theorem update (acc : Accounted clock ready stoppedReady s) (ordered : clock ≤ now)
    (resumes : Operation.Resumes now s .irrigationUpdate →
      s.irrigation.programCurrent.Measured → stoppedReady) :
    Accounted now
      (if stagesBegun (s.controlIrrigationTempUpdate now).trace ≠ stagesBegun s.trace then 0
        else spent clock now ready s)
      (Operation.Stops s .irrigationUpdate ∧ s.irrigation.status = .ready ∨
        ¬ Operation.Stops s .irrigationUpdate ∧ stoppedReady)
      (s.controlIrrigationTempUpdate now) := by
  have same : Accounted now
      (if stagesBegun s.trace ≠ stagesBegun s.trace then 0 else spent clock now ready s)
      stoppedReady s := by
    rw [if_neg (not_not_intro rfl)]
    exact acc.kept ordered (.of_eq rfl)
  have step := updateStep now s
  generalize s.controlIrrigationTempUpdate now = t at step ⊢
  cases step with
  | idle status => exact same.strengthen (by simp [Operation.Stops, status])
  | warming status => exact same.strengthen (by simp [Operation.Stops, status])
  | cooling status sound => exact same.strengthen (by simp [Operation.Stops, sound])
  | runs status sound =>
      exact (acc.updateProgram ordered status).strengthen (by simp [Operation.Stops, sound])
  | stops status faulty =>
      rw [if_neg (by simp)]
      refine (acc.forceStop ordered).strengthen ?_
      simp [Operation.Stops, status, faulty]
  | shuts status sound =>
      have running := acc.unstopped (by simp [status]) (by simp [status])
      exact unmeasured running acc.cleaning (by simp)
  | begins status expired =>
      unfold beginProgram
      split
      · exact start_ready s.irrigation.program s.irrigation.isCleaning rfl (by simp)
      · rename_i stopped
        rw [if_neg (by simp [resume_stagesBegun]), spent, if_neg (by simp [status])]
        refine (acc.resume_ready stopped (resumes ⟨status, expired, stopped⟩)).strengthen ?_
        simp [Operation.Stops, status]

/-- Every operation keeps the account. -/
theorem run {operation : Operation} (acc : Accounted clock ready stoppedReady s)
    (ordered : clock ≤ now)
    (resumes : operation.Resumes now s → s.irrigation.programCurrent.Measured → stoppedReady) :
    Accounted now
      (if stagesBegun (operation.run now s).trace ≠ stagesBegun s.trace then 0
        else spent clock now ready s)
      (operation.Stops s ∧ s.irrigation.status = .ready ∨ ¬ operation.Stops s ∧ stoppedReady)
      (operation.run now s) := by
  by_cases drives : operation.DrivesMachine
  · cases operation with
    | start program isCleaning =>
        change Accounted now (if stagesBegun
          (s.controlIrrigationTempStart now program isCleaning).trace ≠ stagesBegun s.trace then 0
          else spent clock now ready s) _ (s.controlIrrigationTempStart now program isCleaning)
        by_cases status : s.irrigation.status = .ready
        · exact start_ready program isCleaning status rfl
        · rw [start_of_not_ready now s program isCleaning status]
          exact unmeasured rfl id (by simp)
    | forceStop =>
        change Accounted now (if stagesBegun (s.controlIrrigationTempForceStop now).trace ≠
          stagesBegun s.trace then 0 else spent clock now ready s) _
          (s.controlIrrigationTempForceStop now)
        rw [if_neg (by simp)]
        exact (acc.forceStop ordered).strengthen (by simp [Operation.Stops])
    | resume =>
        change Accounted now (if stagesBegun (s.controlIrrigationTempResume now).trace ≠
          stagesBegun s.trace then 0 else spent clock now ready s) _
          (s.controlIrrigationTempResume now)
        rw [if_neg (by simp [resume_stagesBegun])]
        suffices kept : Accounted now (spent clock now ready s) stoppedReady
            (s.controlIrrigationTempResume now) from kept.strengthen (by simp [Operation.Stops])
        by_cases running : s.irrigation.isStopped = 0
        · rw [resume_of_not_stopped now s running]
          exact acc.kept ordered (.of_eq rfl)
        · have elsewhere : s.irrigation.status ≠ .ready := by
            rcases acc.stopped running with finished | preparing
            · simp [finished]
            · simp [preparing]
          rw [resume_of_not_ready now s running elsewhere]
          exact acc.prepareGenerator elsewhere
    | irrigationUpdate => exact acc.update ordered resumes
    | _ => exact drives.elim
  · rw [if_neg (not_not_intro (stagesBegun_kept drives now s))]
    refine (acc.kept ordered (machineKept drives now s)).strengthen ?_
    cases operation with
    | forceStop | irrigationUpdate => exact absurd trivial drives
    | _ => simp [Operation.Stops]

end Accounted

section

variable [FlowArithmetic] {history : List (Step Operation)}

theorem accounted_of_admitted (admitted : Machine.Admitted resumeGuard setupTime history) :
    Accounted (Machine.lastTime setupTime history) (readyTime history) (StoppedReady history)
      (controller.after boot history) :=
  admitted.along
    (fun history => Accounted (Machine.lastTime setupTime history) (readyTime history)
      (StoppedReady history) (controller.after boot history))
    (.boot setupTime) fun _ _ _ acc ordered resumes => acc.run ordered resumes

/-- In `READY` the time since `timeProgramStart` is the time the stage has been irrigated,
counted up to `now`. -/
theorem irrigation_time_accounted (admitted : Machine.Admitted resumeGuard setupTime history)
    (ready : (controller.after boot history).irrigation.status = .ready)
    (measured : (controller.after boot history).irrigation.programCurrent.Measured)
    {now : Nat} (later : Machine.lastTime setupTime history ≤ now) :
    millis now - (controller.after boot history).irrigation.timeProgramStart =
      Clock.reading (readyTime history + (now - Machine.lastTime setupTime history)) := by
  have shown := (accounted_of_admitted admitted).advance later ready measured
  rwa [Accounted.spent, if_pos ready] at shown

end

/-- A stop after one second of irrigation, and a resume eleven seconds later. -/
def stoppedOnce : List (Step Operation) :=
  [⟨26000, .irrigationUpdate⟩, ⟨21000, .resume⟩, ⟨10000, .forceStop⟩, ⟨9000, .irrigationUpdate⟩,
    ⟨4000, .start .group1 0⟩]

theorem irrigation_time_accounted_stoppedOnce :
    millis 30000 - (controller.after boot stoppedOnce).irrigation.timeProgramStart =
      Clock.reading (1000 + (30000 - 26000)) := by
  have admitted : Machine.Admitted resumeGuard setupTime stoppedOnce := by
    refine ⟨⟨⟨⟨⟨trivial, by decide, ?_⟩, by decide, ?_⟩, by decide, ?_⟩, by decide, ?_⟩,
      by decide, ?_⟩
    · exact fun resumes => resumes.elim
    · exact fun resumes => absurd resumes.2.2 (by decide)
    · exact fun resumes => resumes.elim
    · exact fun resumes => resumes.elim
    · exact fun _ _ => .inr ⟨id, .inl ⟨trivial, by decide⟩⟩
  have counted : readyTime stoppedOnce = 1000 := by decide
  have shown := irrigation_time_accounted admitted (by decide) (.inl (by decide))
    (show 26000 ≤ 30000 by decide)
  rwa [counted] at shown

/-- The same run with the stop repeated ten seconds later: the pause between the two stops
is counted as irrigation. -/
def stoppedTwice : List (Step Operation) :=
  [⟨26000, .irrigationUpdate⟩, ⟨21000, .resume⟩, ⟨20000, .forceStop⟩, ⟨10000, .forceStop⟩,
    ⟨9000, .irrigationUpdate⟩, ⟨4000, .start .group1 0⟩]

theorem repeated_stop_miscounted :
    let s := controller.after boot stoppedTwice
    s.irrigation.status = .ready ∧ s.irrigation.programCurrent = .group1 ∧
      millis 26000 - s.irrigation.timeProgramStart = 11000 ∧
      Clock.reading (readyTime stoppedTwice) = 1000 := by
  decide
end BlueberryIrrigation
