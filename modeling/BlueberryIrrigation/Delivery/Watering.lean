import BlueberryIrrigation.Resume.Accounting
import BlueberryIrrigation.Resume.Upkeep

/-!
# How long a zone is watered

The stage of a group is ended by the first update that finds its time over. Stops and resumes may
cut it into pieces, and each resume puts off the update that looks. So a zone is watered for all
of the stage's duration, and for one gap between two updates more at most, and one more for each
resume.
-/

namespace BlueberryIrrigation

open Semantics Controller

/-- What one step does to the stage of a state: the next one is begun, it goes on, it is stopped,
its generator goes on again, it is resumed, or it is given up. An update in `READY` lets a stage
go on only while its time runs. -/
inductive StageStep (now : Nat) (s : Controller) (operation : Operation) (t : Controller) :
    Prop where
  | begins (count : stagesBegun t.trace ≠ stagesBegun s.trace)
      (unstopped : t.irrigation.isStopped = 0)
  | waits (count : stagesBegun t.trace = stagesBegun s.trace)
      (kept : MachineKept s.irrigation t.irrigation)
      (looks : operation = .irrigationUpdate → s.irrigation.status = .ready →
        s.irrigation.program.Known → ¬ s.StageOver now)
  | stops (count : stagesBegun t.trace = stagesBegun s.trace) (stops : operation.Stops s)
      (status : t.irrigation.status = .finished)
      (label : t.irrigation.programCurrent = s.irrigation.programCurrent)
  | prepares (count : stagesBegun t.trace = stagesBegun s.trace)
      (elsewhere : s.irrigation.status ≠ .ready) (status : t.irrigation.status = .preparing)
      (stopped : t.irrigation.isStopped = s.irrigation.isStopped)
      (label : t.irrigation.programCurrent = s.irrigation.programCurrent)
  | resumes (count : stagesBegun t.trace = stagesBegun s.trace)
      (resumes : operation.Resumes now s) (preparing : s.irrigation.status = .preparing)
      (pending : s.irrigation.isStopped ≠ 0) (status : t.irrigation.status = .ready)
      (unstopped : t.irrigation.isStopped = 0)
      (label : t.irrigation.programCurrent = s.irrigation.programCurrent)
  | leaves (count : stagesBegun t.trace = stagesBegun s.trace)
      (unstopped : t.irrigation.isStopped = 0)
      (idle : t.irrigation.status = .ready → ¬ t.irrigation.programCurrent.Measured)

namespace StageStep

variable {now : Nat} {s t : Controller} {operation : Operation}

theorem of_idle (same : t = s)
    (looks : operation = .irrigationUpdate → s.irrigation.status = .ready →
      s.irrigation.program.Known → ¬ s.StageOver now) : StageStep now s operation t := by
  subst same
  exact .waits rfl (.of_eq rfl) looks

variable [FlowArithmetic]

/-- A start in `READY` begins a stage, or leaves an unknown program. -/
theorem start_ready (program : Program) (isCleaning : Flag)
    (status : s.irrigation.status = .ready) {before : Controller}
    (count : stagesBegun before.trace = stagesBegun s.trace) :
    StageStep now before operation (s.controlIrrigationTempStart now program isCleaning) := by
  have irrigation := start_ready_irrigation now s program isCleaning status
  have stages := start_ready_stagesBegun now s program isCleaning status
  by_cases known : program.Known
  · refine .begins ?_ (by rw [irrigation])
    rw [stages, if_pos known, count]
    exact Nat.succ_ne_self _
  · refine .leaves (by rw [stages, if_neg known, count]; rfl) (by rw [irrigation]) fun _ => ?_
    rw [irrigation]
    cases program with
    | unknown excess => simp [Program.firstStage, Program.Measured]
    | _ => exact absurd trivial known

theorem cleanOrFinish (isCleaning : Flag) (status : s.irrigation.status = .ready)
    (running : s.irrigation.isStopped = 0) {before : Controller}
    (count : stagesBegun before.trace = stagesBegun s.trace) :
    StageStep now before operation (s.cleanOrFinish now isCleaning) := by
  unfold Controller.cleanOrFinish
  split
  · exact start_ready .cleaning isCleaning status count
  · exact .leaves (by rw [finishProgram_stagesBegun, count]) running (by simp)

/-- One turn of a running program. -/
theorem updateProgram (status : s.irrigation.status = .ready)
    (running : s.irrigation.isStopped = 0)
    (cleaning : s.irrigation.program = .cleaning → s.irrigation.programCurrent = .cleaning) :
    StageStep now s operation (s.updateProgram now) := by
  have unlabelled : s.irrigation.program = .cleaning → ¬ s.irrigation.programCurrent.Measured := by
    intro program
    simp [cleaning program, Program.Measured]
  have turn := programTurn now s
  generalize s.updateProgram now = t at turn ⊢
  cases turn with
  | waits early => exact .of_idle rfl fun _ _ _ => early
  | endless unknown => exact .of_idle rfl fun _ _ known => absurd known unknown
  | groupOver valve =>
      apply cleanOrFinish
      · exact status
      · exact running
      · rw [deviceToggle_stagesBegun, deviceToggle_stagesBegun]
  | bothNext =>
      have second := start_ready_irrigation now (s.deviceToggle now 10 0) .group2
        s.irrigation.isCleaning status
      have stages := start_ready_stagesBegun now (s.deviceToggle now 10 0) .group2
        s.irrigation.isCleaning status
      refine .begins ?_ (congrArg Irrigation.isStopped second)
      rw [withIrrigation_trace, stages, deviceToggle_stagesBegun]
      exact Nat.succ_ne_self _
  | bothOver =>
      apply cleanOrFinish
      · exact status
      · exact running
      · rw [deviceToggle_stagesBegun, deviceToggle_stagesBegun]
  | washFirst expired program | washSecond expired program =>
      exact .leaves (by simp) running fun _ => unlabelled program
  | washOver => exact .leaves (by simp) running (by simp)
  | gardenOver => exact .leaves (by simp) running (by simp)

theorem update (cleaning : s.irrigation.program = .cleaning →
      s.irrigation.programCurrent = .cleaning)
    (resting : s.irrigation.isStopped ≠ 0 →
      s.irrigation.status = .finished ∨ s.irrigation.status = .preparing) :
    StageStep now s .irrigationUpdate (s.controlIrrigationTempUpdate now) := by
  have running (preparing : s.irrigation.status ≠ .preparing)
      (finished : s.irrigation.status ≠ .finished) : s.irrigation.isStopped = 0 := by
    by_contra pending
    exact (resting pending).elim finished preparing
  have step := updateStep now s
  generalize s.controlIrrigationTempUpdate now = t at step ⊢
  cases step with
  | idle status | warming status | cooling status => exact .of_idle rfl (by simp [status])
  | begins status expired =>
      unfold beginProgram
      split
      · exact start_ready s.irrigation.program s.irrigation.isCleaning rfl (by simp)
      · rename_i pending
        have irrigation := resume_ready_irrigation now (s.beginPumping now) pending rfl
        refine .resumes ?_ ⟨status, expired, pending⟩ status pending ?_ ?_ ?_
        · rw [resume_stagesBegun, beginPumping_stagesBegun]
        · rw [irrigation]
          rfl
        · rw [irrigation]
        · rw [irrigation]
          rfl
  | runs status =>
      exact updateProgram status (running (by simp [status]) (by simp [status])) cleaning
  | stops status faulty =>
      exact .stops (forceStop_stagesBegun now s) ⟨status, faulty⟩ (by simp) (by simp)
  | shuts status =>
      exact .leaves (by simp) (running (by simp [status]) (by simp [status])) (by simp)

/-- What any operation does to the stage. -/
theorem run (operation : Operation)
    (cleaning : s.irrigation.program = .cleaning → s.irrigation.programCurrent = .cleaning)
    (resting : s.irrigation.isStopped ≠ 0 →
      s.irrigation.status = .finished ∨ s.irrigation.status = .preparing) :
    StageStep now s operation (operation.run now s) := by
  by_cases drives : operation.DrivesMachine
  · cases operation with
    | start program isCleaning =>
        change StageStep now s _ (s.controlIrrigationTempStart now program isCleaning)
        by_cases status : s.irrigation.status = .ready
        · exact start_ready program isCleaning status rfl
        · rw [start_of_not_ready now s program isCleaning status]
          exact .leaves (prepareGenerator_stagesBegun now _) rfl (by simp)
    | forceStop =>
        change StageStep now s _ (s.controlIrrigationTempForceStop now)
        exact .stops (forceStop_stagesBegun now s) trivial (by simp) (by simp)
    | resume =>
        change StageStep now s _ (s.controlIrrigationTempResume now)
        by_cases running : s.irrigation.isStopped = 0
        · rw [resume_of_not_stopped now s running]
          exact .of_idle rfl (by simp)
        · have elsewhere : s.irrigation.status ≠ .ready := by
            rcases resting running with finished | preparing
            · simp [finished]
            · simp [preparing]
          rw [resume_of_not_ready now s running elsewhere]
          exact .prepares (prepareGenerator_stagesBegun now s) elsewhere rfl rfl rfl
    | irrigationUpdate => exact update cleaning resting
    | _ => exact drives.elim
  · refine .waits (stagesBegun_kept drives now s) (machineKept drives now s) ?_
    rintro rfl
    exact absurd trivial drives

end StageStep

/-! ## The relays of a stage -/

/-- The stage of a group opens the relay: the acid pump or the group's valve. -/
def Program.Waters (relay : Fin 15) (stage : Program) : Prop :=
  (stage = .group1 ∨ stage = .group2) ∧ relay ∈ stage.opened

theorem Program.Waters.measured {relay : Fin 15} {stage : Program} (waters : stage.Waters relay) :
    stage.Measured := waters.1.imp id .inl

/-- The operations of a run in which nobody switches the relays of the stages by hand, and no
program is started while another one runs. -/
def Operation.LeavesStagesAlone (s : Controller) : Operation → Prop
  | .start program _ => program.Known ∧ s.irrigation.status ≠ .ready
  | .deviceToggle device _ => device ∉ stageRelays
  | _ => True

namespace StageInvariant

variable [FlowArithmetic] {now : Nat} {s : Controller} {operation : Operation}

omit [FlowArithmetic] in
/-- No flow command writes a relay of a stage. -/
theorem flowCommand (inv : StageInvariant s) {t : Controller}
    (same : t.irrigation = s.irrigation)
    (untouched : ∀ device ∈ stageRelays, Untouched device s t) : StageInvariant t :=
  inv.frame (.of_eq same) fun device listed => (untouched device listed).isOn_iff

theorem keeps (inv : StageInvariant s)
    (running : s.irrigation.status = .ready → s.irrigation.isStopped = 0)
    (alone : operation.LeavesStagesAlone s) : StageInvariant (operation.run now s) := by
  cases operation with
  | start program isCleaning =>
      obtain ⟨known, elsewhere⟩ := alone
      change StageInvariant (s.controlIrrigationTempStart now program isCleaning)
      rw [start_of_not_ready now s program isCleaning elsewhere]
      refine prepareGenerator ?_ elsewhere
      have label : program.Runs program := by
        cases program <;> simp [Program.Runs]
      exact of_closed known label elsewhere (inv.closed elsewhere)
  | deviceToggle device isActive =>
      refine inv.flowCommand rfl fun relay listed => .deviceToggle ?_ now isActive s
      rintro rfl
      exact alone listed
  | flowStart flow volume time =>
      exact inv.flowCommand rfl fun relay _ => .controlFlowStart now flow s volume time relay
  | flowStop flow =>
      refine inv.flowCommand (controlFlowStop_irrigation now flow s) fun relay listed => ?_
      obtain ⟨pump, water, own⟩ := stageRelays_undriven flow relay listed
      exact .controlFlowStop now flow s own pump water
  | flowPause flow isPause =>
      refine inv.flowCommand (controlFlowPause_irrigation now flow s isPause) fun relay listed => ?_
      exact .controlFlowPause now flow s (stageRelays_undriven flow relay listed).2.2 isPause
  | pulsesTotalSet => exact inv.flowCommand rfl fun relay _ => .of_eq rfl rfl
  | assign setting =>
      exact inv.frame (machineKept id now s) fun relay _ => assign_isOn setting relay s
  | _ => exact inv.run running trivial

omit [FlowArithmetic] in
/-- The relays that a group's stage opens are on while it runs, and off outside `READY`. -/
theorem isOn_iff (inv : StageInvariant s) {relay : Fin 15}
    (waters : s.irrigation.programCurrent.Waters relay) :
    s.IsOn relay ↔ s.irrigation.status = .ready := by
  obtain ⟨group, listed⟩ := waters
  have stage : relay ∈ stageRelays := by
    rcases group with current | current <;> rw [current] at listed <;>
      simp only [Program.opened, List.mem_cons, List.not_mem_nil, or_false] at listed <;>
      rcases listed with rfl | rfl <;> decide
  constructor
  · intro on
    by_contra elsewhere
    exact inv.closed elsewhere relay stage on
  · intro ready
    have other : s.irrigation.programCurrent ≠ .cleaning := by
      rcases group with current | current <;> simp [current]
    exact (inv.opened ready other relay stage).mpr listed

end StageInvariant
/-! ## The time of a stage -/

/-- The clock at the newest update. -/
def lastUpdate : List (Step Operation) → Nat
  | [] => setupTime
  | ⟨now, .irrigationUpdate⟩ :: _ => now
  | _ :: prior => lastUpdate prior

section

variable [FlowArithmetic]

/-- The real time for which the relay has been on since a stage was last begun. -/
def openTime (relay : Fin 15) : List (Step Operation) → Nat
  | [] => 0
  | step :: prior =>
      let before := controller.after boot prior
      if stagesBegun (controller.after boot (step :: prior)).trace ≠ stagesBegun before.trace then 0
      else if before.IsOn relay then
        openTime relay prior + (step.now - Machine.lastTime setupTime prior)
      else openTime relay prior

/-- How often the machine has come back to `READY` since then. -/
def resumed : List (Step Operation) → Nat
  | [] => 0
  | step :: prior =>
      let before := controller.after boot prior
      let after := controller.after boot (step :: prior)
      if stagesBegun after.trace ≠ stagesBegun before.trace then 0
      else if before.irrigation.status ≠ .ready ∧ after.irrigation.status = .ready then
        resumed prior + 1
      else resumed prior

/-- The longest duration that a stage of the program has been given since then. -/
def longestDuration : List (Step Operation) → Nat
  | [] => boot.irrigation.timeProgramDuration.toNat
  | step :: prior =>
      let after := controller.after boot (step :: prior)
      let given := after.irrigation.timeProgramDuration.toNat
      if stagesBegun after.trace ≠ stagesBegun (controller.after boot prior).trace then given
      else max (longestDuration prior) given

/-- The steps of a run in which an update comes at least every `gap` milliseconds and a resume
follows a stop in `READY` and no other. -/
def wateringGuard (gap : Nat) (prior : List (Step Operation)) (step : Step Operation) : Prop :=
  step.operation.LeavesStagesAlone (controller.after boot prior) ∧ resumeGuard prior step ∧
    step.now ≤ lastUpdate prior + gap

/-- What a stage may have been watered when an update looks at it. -/
def wateringLimit (gap : Nat) (history : List (Step Operation)) : Nat :=
  longestDuration history + resumed history * gap

end

/-- A group's stage has been watered while it was `READY`, and not for longer than `limit` and
the time since the last update. -/
structure Watered (relay : Fin 15) (gap clock looked ready opened limit : Nat)
    (stoppedReady : Prop) (s : Controller) : Prop where
  running : s.irrigation.status = .ready → s.irrigation.programCurrent.Waters relay →
    opened = ready ∧ ready ≤ limit + (clock - looked)
  halted : s.irrigation.isStopped ≠ 0 → s.irrigation.programCurrent.Waters relay →
    stoppedReady → opened = ready ∧ ready ≤ limit + gap

namespace Watered

variable {relay : Fin 15} {gap clock looked now ready opened limit most : Nat}
  {stoppedReady : Prop} {s t : Controller} {operation : Operation}

theorem boot (gap limit : Nat) : Watered relay gap setupTime setupTime 0 0 limit False boot where
  running := by simp
  halted := by simp

/-- The time for which the relay has been on, one step on. -/
def spentOpen (relay : Fin 15) (clock now opened : Nat) (s : Controller) : Nat :=
  if s.IsOn relay then opened + (now - clock) else opened

/-- In `READY` both times pass, elsewhere neither does. -/
theorem spent_eq (inv : StageInvariant s) (waters : s.irrigation.programCurrent.Waters relay)
    (same : opened = ready) :
    spentOpen relay clock now opened s = Accounted.spent clock now ready s := by
  unfold spentOpen Accounted.spent
  rw [same]
  by_cases running : s.irrigation.status = .ready
  · rw [if_pos running, if_pos ((inv.isOn_iff waters).mpr running)]
  · rw [if_neg running, if_neg fun on => running ((inv.isOn_iff waters).mp on)]

/-- The stage of a group is over exactly when it has been irrigated for its duration. -/
theorem over_iff (acc : Accounted clock ready stoppedReady s) (ordered : clock ≤ now)
    (status : s.irrigation.status = .ready)
    (waters : s.irrigation.programCurrent.Waters relay)
    (short : Accounted.spent clock now ready s < Clock.period) :
    s.StageOver now ↔
      s.irrigation.timeProgramDuration.toNat ≤ Accounted.spent clock now ready s := by
  have duration : s.stageDuration = s.irrigation.timeProgramDuration := by
    unfold stageDuration
    cases program : s.irrigation.program with
    | cleaning =>
        have group := waters.1
        rw [acc.cleaning program] at group
        simp at group
    | _ => rfl
  have elapsed := acc.advance ordered status waters.measured
  unfold StageOver StageRunning
  rw [elapsed, duration, UInt32.lt_iff_toNat_lt, Clock.toNat_reading, Nat.mod_eq_of_lt short]
  exact Nat.not_lt

variable [FlowArithmetic]

/-- A stage that has just been begun has not been watered yet. -/
theorem begun
    (cleaning : s.irrigation.program = .cleaning → s.irrigation.programCurrent = .cleaning)
    (resting : s.irrigation.isStopped ≠ 0 →
      s.irrigation.status = .finished ∨ s.irrigation.status = .preparing)
    (count : stagesBegun (operation.run now s).trace ≠ stagesBegun s.trace) :
    Watered relay gap now looked 0 0 limit stoppedReady (operation.run now s) := by
  have step : StageStep now s operation (operation.run now s) := .run operation cleaning resting
  generalize operation.run now s = t at step count ⊢
  cases step with
  | begins _ unstopped =>
      exact ⟨fun _ _ => ⟨rfl, Nat.zero_le _⟩, fun stopped => absurd unstopped stopped⟩
  | _ => exact absurd ‹stagesBegun t.trace = stagesBegun s.trace› count

/-- Every other operation keeps the account of a stage. The limit grows by a gap with each
resume. -/
theorem run (watered : Watered relay gap clock looked ready opened limit stoppedReady s)
    (acc : Accounted clock ready stoppedReady s) (inv : StageInvariant s) (past : looked ≤ clock)
    (ordered : clock ≤ now) (paced : now ≤ looked + gap)
    (restores : operation.Resumes now s → s.irrigation.programCurrent.Measured → stoppedReady)
    (covers : s.irrigation.timeProgramDuration.toNat ≤ limit)
    (short : limit + gap < Clock.period) {nextLooked : Nat}
    (keeps : operation ≠ .irrigationUpdate → nextLooked = looked)
    (same : stagesBegun (operation.run now s).trace = stagesBegun s.trace) (grown : limit ≤ most)
    (pieced : s.irrigation.status ≠ .ready → (operation.run now s).irrigation.status = .ready →
      limit + gap ≤ most) :
    Watered relay gap now nextLooked (Accounted.spent clock now ready s)
      (spentOpen relay clock now opened s) most
      (operation.Stops s ∧ s.irrigation.status = .ready ∨ ¬ operation.Stops s ∧ stoppedReady)
      (operation.run now s) := by
  -- What the stage has been watered when a step ends that finds it in `READY`.
  have passed : s.irrigation.status = .ready → s.irrigation.programCurrent.Waters relay →
      spentOpen relay clock now opened s = Accounted.spent clock now ready s ∧
        Accounted.spent clock now ready s ≤ limit + (now - looked) := by
    intro status waters
    obtain ⟨same, bound⟩ := watered.running status waters
    refine ⟨spent_eq inv waters same, ?_⟩
    rw [Accounted.spent, if_pos status]
    omega
  have frozen : s.irrigation.status ≠ .ready → s.irrigation.isStopped ≠ 0 →
      s.irrigation.programCurrent.Waters relay → stoppedReady →
      spentOpen relay clock now opened s = Accounted.spent clock now ready s ∧
        Accounted.spent clock now ready s ≤ limit + gap := by
    intro elsewhere stopped waters latest
    obtain ⟨same, bound⟩ := watered.halted stopped waters latest
    refine ⟨spent_eq inv waters same, ?_⟩
    rwa [Accounted.spent, if_neg elsewhere]
  have resting : s.irrigation.isStopped ≠ 0 → s.irrigation.status ≠ .ready := by
    intro stopped status
    rcases acc.stopped stopped with is | is <;> simp [is] at status
  have step : StageStep now s operation (operation.run now s) :=
    .run operation acc.cleaning acc.stopped
  generalize operation.run now s = t at step same pieced ⊢
  cases step with
  | begins count => exact absurd same count
  | waits _ kept early =>
      have known := inv.known
      refine ⟨?_, ?_⟩
      · rw [kept.status, kept.programCurrent]
        intro status waters
        obtain ⟨same, bound⟩ := passed status waters
        refine ⟨same, ?_⟩
        by_cases update : operation = .irrigationUpdate
        · have still := mt (over_iff acc ordered status waters (by omega)).mpr
            (early update status known)
          omega
        · rw [keeps update]
          omega
      · rw [kept.isStopped, kept.programCurrent]
        intro stopped waters latest
        have elsewhere := resting stopped
        obtain ⟨same, bound⟩ := frozen elsewhere stopped waters
          (latest.elim (fun both => absurd both.2 elsewhere) And.right)
        exact ⟨same, by omega⟩
  | stops _ stops status label =>
      refine ⟨by simp [status], ?_⟩
      rw [label]
      intro _ waters latest
      obtain ⟨same, bound⟩ := passed
        (latest.elim And.right fun neither => absurd stops neither.1) waters
      exact ⟨same, by omega⟩
  | prepares _ elsewhere status stopped label =>
      refine ⟨by simp [status], ?_⟩
      rw [stopped, label]
      intro pending waters latest
      obtain ⟨same, bound⟩ := frozen elsewhere pending waters
        (latest.elim (fun both => absurd both.2 elsewhere) And.right)
      exact ⟨same, by omega⟩
  | resumes _ resumes preparing pending status unstopped label =>
      have elsewhere : s.irrigation.status ≠ .ready := by simp [preparing]
      have limits := pieced elsewhere status
      refine ⟨?_, fun stopped => absurd unstopped stopped⟩
      rw [label]
      intro _ waters
      obtain ⟨same, bound⟩ := frozen elsewhere pending waters (restores resumes waters.measured)
      exact ⟨same, by omega⟩
  | leaves _ unstopped idle =>
      exact ⟨fun status waters => absurd waters.measured (idle status),
        fun stopped => absurd unstopped stopped⟩

end Watered

section

variable {history : List (Step Operation)}

theorem lastUpdate_of_other {step : Step Operation} (other : step.operation ≠ .irrigationUpdate) :
    lastUpdate (step :: history) = lastUpdate history := by
  obtain ⟨now, operation⟩ := step
  cases operation with
  | irrigationUpdate => exact absurd rfl other
  | _ => rfl

theorem lastUpdate_of_update {step : Step Operation}
    (update : step.operation = .irrigationUpdate) :
    lastUpdate (step :: history) = step.now := by
  obtain ⟨now, operation⟩ := step
  subst update
  rfl

/-- The newest update is in the past. -/
theorem lastUpdate_le {allowed : List (Step Operation) → Step Operation → Prop}
    (admitted : Machine.Admitted allowed setupTime history) :
    lastUpdate history ≤ Machine.lastTime setupTime history := by
  refine admitted.along
    (fun history => lastUpdate history ≤ Machine.lastTime setupTime history) (Nat.le_refl _) ?_
  intro step prior _ past ordered _
  by_cases update : step.operation = .irrigationUpdate
  · exact (lastUpdate_of_update update).le
  · exact (lastUpdate_of_other update).trans_le (past.trans ordered)

variable [FlowArithmetic] {gap : Nat}

/-- A step that begins no stage makes the limit no smaller, and one that brings the machine back
to `READY` makes it larger by a gap. -/
theorem wateringLimit_cons (gap : Nat) {step : Step Operation}
    (same : stagesBegun (controller.after boot (step :: history)).trace =
      stagesBegun (controller.after boot history).trace) :
    wateringLimit gap history ≤ wateringLimit gap (step :: history) ∧
      ((controller.after boot history).irrigation.status ≠ .ready →
        (controller.after boot (step :: history)).irrigation.status = .ready →
        wateringLimit gap history + gap ≤ wateringLimit gap (step :: history)) := by
  have longer : longestDuration history ≤ longestDuration (step :: history) := by
    rw [longestDuration, if_neg (not_not_intro same)]
    exact Nat.le_max_left _ _
  have pieces : resumed history ≤ resumed (step :: history) := by
    rw [resumed, if_neg (not_not_intro same)]
    split <;> omega
  refine ⟨Nat.add_le_add longer (Nat.mul_le_mul_right gap pieces), fun elsewhere ready => ?_⟩
  have pieced : resumed (step :: history) = resumed history + 1 := by
    rw [resumed, if_neg (not_not_intro same), if_pos ⟨elsewhere, ready⟩]
  unfold wateringLimit
  rw [pieced, Nat.succ_mul]
  omega

theorem watered_of_admitted (relay : Fin 15)
    (admitted : Machine.Admitted (wateringGuard gap) setupTime history) :
    StageInvariant (controller.after boot history) ∧
      (controller.after boot history).irrigation.timeProgramDuration.toNat ≤
        longestDuration history ∧
      (wateringLimit gap history + gap < Clock.period →
        Watered relay gap (Machine.lastTime setupTime history) (lastUpdate history)
          (readyTime history) (openTime relay history) (wateringLimit gap history)
          (StoppedReady history) (controller.after boot history)) := by
  refine admitted.along (fun history => StageInvariant (controller.after boot history) ∧
      (controller.after boot history).irrigation.timeProgramDuration.toNat ≤
        longestDuration history ∧
      (wateringLimit gap history + gap < Clock.period →
        Watered relay gap (Machine.lastTime setupTime history) (lastUpdate history)
          (readyTime history) (openTime relay history) (wateringLimit gap history)
          (StoppedReady history) (controller.after boot history)))
    ⟨.boot, Nat.le_refl _, fun _ => .boot gap _⟩ ?_
  rintro step prior before ⟨inv, covers, watered⟩ ordered ⟨alone, restores, paced⟩
  have acc := accounted_of_admitted (before.mono fun _ _ met => met.2.1)
  refine ⟨inv.keeps (fun status => acc.unstopped (by simp [status]) (by simp [status])) alone,
    ?_, fun short => ?_⟩
  · rw [longestDuration]
    split_ifs
    · exact Nat.le_refl _
    · exact Nat.le_max_right _ _
  · by_cases same : stagesBegun (controller.after boot (step :: prior)).trace =
      stagesBegun (controller.after boot prior).trace
    · have limits := wateringLimit_cons gap same
      rw [readyTime, if_neg (not_not_intro same), openTime, if_neg (not_not_intro same)]
      exact (watered (by omega)).run acc inv (lastUpdate_le before) ordered paced restores
        (covers.trans (Nat.le_add_right _ _)) (by omega) lastUpdate_of_other same
        limits.1 limits.2
    · rw [readyTime, if_pos same, openTime, if_pos same]
      exact .begun acc.cleaning acc.stopped same

/-- The update that ends the stage of a group has watered its relays for the duration, and for no
more than a gap longer for each of the pieces the stage came in. -/
theorem zone_watered (relay : Fin 15) (now : Nat)
    (admitted : Machine.Admitted (wateringGuard gap) setupTime history)
    (ready : (controller.after boot history).irrigation.status = .ready)
    (waters : (controller.after boot history).irrigation.programCurrent.Waters relay)
    (sound : ¬ (controller.after boot history).IsFaulty)
    (later : Machine.lastTime setupTime history ≤ now) (paced : now ≤ lastUpdate history + gap)
    (short : longestDuration history + (resumed history + 1) * gap < Clock.period)
    (ends : (controller.after boot history).controlIrrigationTempUpdate now ≠
      controller.after boot history) :
    let watered := openTime relay history + (now - Machine.lastTime setupTime history)
    (controller.after boot history).irrigation.timeProgramDuration.toNat ≤ watered ∧
      watered ≤ longestDuration history + (resumed history + 1) * gap := by
  have limit : longestDuration history + (resumed history + 1) * gap =
      wateringLimit gap history + gap := by
    rw [Nat.succ_mul, wateringLimit, Nat.add_assoc]
  rw [limit] at short ⊢
  obtain ⟨inv, -, watered⟩ := watered_of_admitted relay admitted
  obtain ⟨same, bound⟩ := (watered short).running ready waters
  have acc := accounted_of_admitted (admitted.mono fun _ _ met => met.2.1)
  have past := lastUpdate_le admitted
  have expired : (controller.after boot history).StageOver now := by
    by_contra still
    refine ends ?_
    unfold controlIrrigationTempUpdate
    rw [ready]
    exact (if_neg sound).trans (updateProgram_of_running now _ still)
  have spent := (Watered.over_iff acc later ready waters
    (by rw [Accounted.spent, if_pos ready]; omega)).mp expired
  rw [Accounted.spent, if_pos ready, ← same] at spent
  exact ⟨spent, by omega⟩

end

/-- Eighteen seconds for the first group, stopped after the first of them and resumed. -/
def wateredInTwo : List (Step Operation) :=
  ⟨26000, .irrigationUpdate⟩ :: ⟨21000, .resume⟩ :: ⟨10000, .forceStop⟩ ::
    ⟨9000, .irrigationUpdate⟩ :: ⟨4000, .start .group1 0⟩ ::
    [⟨3000, .assign (.programDuration 18000)⟩]

theorem zone_watered_inTwo :
    18000 ≤ openTime 10 wateredInTwo + (43000 - 26000) ∧
      openTime 10 wateredInTwo + (43000 - 26000) ≤ 18000 + (1 + 1) * 17000 := by
  have admitted : Machine.Admitted (wateringGuard 17000) setupTime wateredInTwo := by
    refine ⟨⟨⟨⟨⟨⟨trivial, by decide, trivial, ?_, by decide⟩, by decide, ⟨trivial, by decide⟩, ?_,
      by decide⟩, by decide, trivial, ?_, by decide⟩, by decide, trivial, ?_, by decide⟩,
      by decide, trivial, ?_, by decide⟩, by decide, trivial, ?_, by decide⟩
    · exact fun resumes => resumes.elim
    · exact fun resumes => resumes.elim
    · exact fun resumes => absurd resumes.2.2 (by decide)
    · exact fun resumes => resumes.elim
    · exact fun resumes => resumes.elim
    · exact fun _ _ => .inr ⟨id, .inl ⟨trivial, by decide⟩⟩
  have pieces : resumed wateredInTwo = 1 := by decide
  have longest : longestDuration wateredInTwo = 18000 := by decide
  have shown := zone_watered 10 43000 admitted (by decide) ⟨.inl (by decide), by decide⟩
    (by decide) (by decide) (by decide) (by rw [pieces, longest]; decide)
    fun same => absurd (congrArg (fun t => t.irrigation.status) same) (by decide)
  rw [pieces, longest] at shown
  exact shown

end BlueberryIrrigation
