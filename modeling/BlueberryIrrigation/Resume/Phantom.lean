import BlueberryIrrigation.Resume.Accounting
import BlueberryIrrigation.Safety.Power

/-!
# What a resume may resume

`is_stopped` is the machine's only memory of an interrupted program. `CutOff` says in terms
of the run what the flag should mean: the latest start reached `READY` and a stop then cut
its program off. The flag is sound exactly as long as no stop is issued in `FINISHED` with
nothing stopped, because such a stop sets it for a program that has ended or never ran.
-/

namespace BlueberryIrrigation

open Semantics Controller

/-- A start command. -/
def Operation.IsStart : Operation → Prop
  | .start _ _ => True
  | _ => False

/-- The program runs: its stages, or the cool-down behind them. -/
def Underway (s : Controller) : Prop :=
  s.irrigation.status = .ready ∨ s.irrigation.status = .finishing

section

variable [FlowArithmetic]

/-- The latest start's program was underway when a stop cut it off, and has not been since. -/
def CutOff (history : List (Step Operation)) : Prop :=
  ∃ later stop during start earlier,
    history = later ++ stop :: (during ++ start :: earlier) ∧
    start.operation.IsStart ∧
    (∀ step ∈ later ++ stop :: during, ¬ step.operation.IsStart) ∧
    stop.operation.Stops (controller.after boot (during ++ start :: earlier)) ∧
    Underway (controller.after boot (during ++ start :: earlier)) ∧
    ∀ newer rest, later = newer ++ rest →
      ¬ Underway (controller.after boot (rest ++ stop :: (during ++ start :: earlier)))

/-- The steps of a run in which no stop is issued in `FINISHED` with nothing stopped. -/
def phantomGuard (prior : List (Step Operation)) (step : Step Operation) : Prop :=
  let s := controller.after boot prior
  step.operation.Stops s → s.irrigation.status = .finished → s.irrigation.isStopped ≠ 0

/-- The flag remembers a program that was cut off, and no machine runs without a start. -/
structure Remembers (history : List (Step Operation)) : Prop where
  cutOff : (controller.after boot history).irrigation.isStopped ≠ 0 → CutOff history
  resting : (controller.after boot history).irrigation.isStopped ≠ 0 →
    ¬ Underway (controller.after boot history)
  started : (controller.after boot history).irrigation.status ≠ .finished →
    ∃ step ∈ history, step.operation.IsStart

omit [FlowArithmetic] in
/-- A history with a start in it splits at the latest one. -/
theorem latest_start {history : List (Step Operation)}
    (started : ∃ step ∈ history, step.operation.IsStart) :
    ∃ during start earlier, history = during ++ start :: earlier ∧ start.operation.IsStart ∧
      ∀ step ∈ during, ¬ step.operation.IsStart := by
  induction history with
  | nil => simp at started
  | cons step prior ih =>
      by_cases newest : step.operation.IsStart
      · exact ⟨[], step, prior, rfl, newest, by simp⟩
      · have earlier : ∃ step ∈ prior, step.operation.IsStart := by
          obtain ⟨start, listed, starts⟩ := started
          rcases List.mem_cons.mp listed with rfl | listed
          · exact absurd starts newest
          · exact ⟨start, listed, starts⟩
        obtain ⟨during, start, before, rfl, starts, none⟩ := ih earlier
        refine ⟨step :: during, start, before, rfl, starts, ?_⟩
        intro other listed
        rcases List.mem_cons.mp listed with rfl | listed
        · exact newest
        · exact none other listed

/-- A stop that cuts off a program underway. -/
theorem CutOff.stop {step : Step Operation} {prior : List (Step Operation)}
    (started : ∃ step ∈ prior, step.operation.IsStart)
    (other : ¬ step.operation.IsStart)
    (stops : step.operation.Stops (controller.after boot prior))
    (underway : Underway (controller.after boot prior))
    (rests : ¬ Underway (controller.after boot (step :: prior))) : CutOff (step :: prior) := by
  obtain ⟨during, start, earlier, rfl, starts, none⟩ := latest_start started
  refine ⟨[], step, during, start, earlier, rfl, starts, ?_, stops, underway, ?_⟩
  · rintro kept (_ | ⟨_, listed⟩)
    · exact other
    · exact none kept listed
  · intro newer rest empty
    obtain ⟨-, rfl⟩ := List.append_eq_nil_iff.mp empty.symm
    exact rests

/-- A step that is no start and leaves the machine at rest keeps what was cut off. -/
theorem CutOff.cons {step : Step Operation} {prior : List (Step Operation)} (cut : CutOff prior)
    (other : ¬ step.operation.IsStart)
    (rests : ¬ Underway (controller.after boot (step :: prior))) : CutOff (step :: prior) := by
  obtain ⟨later, stop, during, start, earlier, rfl, starts, none, stops, underway, rested⟩ := cut
  refine ⟨step :: later, stop, during, start, earlier, rfl, starts, ?_, stops, underway, ?_⟩
  · rintro kept (_ | ⟨_, listed⟩)
    · exact other
    · exact none kept listed
  · rintro (_ | ⟨_, newer⟩) rest split
    · obtain rfl := split.symm
      exact rests
    · exact rested newer rest (List.cons.inj split).2

/-- Beside the machine nothing is stopped or resumed. -/
theorem flag_kept {operation : Operation} (beside : ¬ operation.DrivesMachine) (now : Nat)
    (s : Controller) :
    ((operation.run now s).irrigation.isStopped = s.irrigation.isStopped) ∧
      (Underway (operation.run now s) ↔ Underway s) := by
  have same := machineKept beside now s
  refine ⟨same.isStopped, ?_⟩
  unfold Underway
  rw [same.status]

/-- Where the flag can come from: it was set before, or this step is a stop that cuts off a
program underway. -/
theorem flag_step {now : Nat} {s : Controller} {operation : Operation}
    (resting : s.irrigation.isStopped ≠ 0 → ¬ Underway s)
    (guarded : operation.Stops s → s.irrigation.status = .finished → s.irrigation.isStopped ≠ 0)
    (set : (operation.run now s).irrigation.isStopped ≠ 0) :
    ¬ operation.IsStart ∧ ¬ Underway (operation.run now s) ∧
      (s.irrigation.isStopped ≠ 0 ∨ operation.Stops s ∧ Underway s) := by
  have stop : s.irrigation.status ≠ .preparing ∧ s.irrigation.isStopped = 0 →
      operation.Stops s → Underway s := by
    rintro ⟨elsewhere, running⟩ stops
    cases status : s.irrigation.status with
    | finished => exact absurd running (guarded stops status)
    | preparing => exact absurd status elsewhere
    | ready => exact .inl status
    | finishing => exact .inr status
  have stopped : (s.controlIrrigationTempForceStop now).irrigation.isStopped ≠ 0 →
      operation.Stops s → s.irrigation.isStopped ≠ 0 ∨ operation.Stops s ∧ Underway s := by
    intro set stops
    by_cases fresh : s.irrigation.status ≠ .preparing ∧ s.irrigation.isStopped = 0
    · exact .inr ⟨stops, stop fresh stops⟩
    · left
      simpa [forceStop_irrigation, if_neg fresh] using set
  have rests : ¬ Underway (s.controlIrrigationTempForceStop now) := by simp [Underway]
  by_cases drives : operation.DrivesMachine
  · cases operation with
    | start program isCleaning =>
        have cleared : (s.controlIrrigationTempStart now program isCleaning).irrigation.isStopped =
            0 := by
          by_cases ready : s.irrigation.status = .ready
          · rw [start_ready_irrigation now s program isCleaning ready]
          · rw [start_of_not_ready now s program isCleaning ready]
            rfl
        exact absurd cleared set
    | forceStop => exact ⟨id, rests, stopped set trivial⟩
    | resume =>
        change (s.controlIrrigationTempResume now).irrigation.isStopped ≠ 0 at set
        change _ ∧ ¬ Underway (s.controlIrrigationTempResume now) ∧ _
        by_cases running : s.irrigation.isStopped = 0
        · rw [resume_of_not_stopped now s running] at set
          exact absurd running set
        · have elsewhere : s.irrigation.status ≠ .ready := fun ready => resting running (.inl ready)
          rw [resume_of_not_ready now s running elsewhere]
          exact ⟨id, by simp [Underway], .inl running⟩
    | irrigationUpdate =>
        change (s.controlIrrigationTempUpdate now).irrigation.isStopped ≠ 0 at set
        change _ ∧ ¬ Underway (s.controlIrrigationTempUpdate now) ∧ _
        have step := updateStep now s
        generalize s.controlIrrigationTempUpdate now = t at step set ⊢
        cases step with
        | idle | warming | cooling => exact ⟨id, resting set, .inl set⟩
        | begins =>
            have cleared : (s.beginProgram now).irrigation.isStopped = 0 := by
              unfold beginProgram
              split
              · rw [start_ready_irrigation now _ _ _ rfl]
              · rename_i pending
                rw [resume_ready_irrigation now (s.beginPumping now) pending rfl]
            exact absurd cleared set
        | runs ready =>
            have running : s.irrigation.isStopped = 0 := by
              by_contra pending
              exact resting pending (.inl ready)
            rcases turn_updateProgram now s ready with stays | off
            · exact absurd (stays.stopped running) set
            · exact absurd (off.stopped running) set
        | stops underway faulty => exact ⟨id, rests, stopped set ⟨underway, faulty⟩⟩
        | shuts finishing => exact absurd (.inr finishing) (resting set)
    | _ => exact drives.elim
  · obtain ⟨flag, underway⟩ := flag_kept drives now s
    have pending : s.irrigation.isStopped ≠ 0 := flag ▸ set
    refine ⟨?_, fun active => resting pending (underway.mp active), .inl pending⟩
    cases operation with
    | start => exact absurd trivial drives
    | _ => exact id

/-- What can take the machine out of `FINISHED`: a start, or a resume of something stopped. -/
theorem leaves_finished {now : Nat} {s : Controller} {operation : Operation}
    (elsewhere : (operation.run now s).irrigation.status ≠ .finished) :
    operation.IsStart ∨ s.irrigation.status ≠ .finished ∨ s.irrigation.isStopped ≠ 0 := by
  by_cases drives : operation.DrivesMachine
  · cases operation with
    | start => exact .inl trivial
    | forceStop => exact absurd (by simp [Operation.run]) elsewhere
    | resume =>
        by_cases running : s.irrigation.isStopped = 0
        · refine .inr (.inl ?_)
          rwa [Operation.run, resume_of_not_stopped now s running] at elsewhere
        · exact .inr (.inr running)
    | irrigationUpdate =>
        refine .inr (.inl fun finished => ?_)
        change (s.controlIrrigationTempUpdate now).irrigation.status ≠ .finished at elsewhere
        rw [controlIrrigationTempUpdate, finished] at elsewhere
        exact elsewhere finished
    | _ => exact drives.elim
  · rw [(machineKept drives now s).status] at elsewhere
    exact .inr (.inl elsewhere)

variable {history : List (Step Operation)}

theorem remembers_of_admitted (admitted : Machine.Admitted phantomGuard setupTime history) :
    Remembers history := by
  refine admitted.along Remembers ?_ ?_
  · exact ⟨by simp, by simp, by simp⟩
  · intro step prior _ held _ guarded
    have started : (controller.after boot (step :: prior)).irrigation.status ≠ .finished →
        ∃ start ∈ step :: prior, start.operation.IsStart := by
      intro elsewhere
      rcases leaves_finished elsewhere with starts | busy | pending
      · exact ⟨step, List.mem_cons_self, starts⟩
      · obtain ⟨start, listed, starts⟩ := held.started busy
        exact ⟨start, List.mem_cons_of_mem step listed, starts⟩
      · obtain ⟨later, stop, during, start, earlier, rfl, starts, _⟩ := held.cutOff pending
        exact ⟨start, by simp, starts⟩
    refine ⟨fun set => ?_, fun set => (flag_step held.resting guarded set).2.1, started⟩
    obtain ⟨other, rests, pending | ⟨stops, underway⟩⟩ := flag_step held.resting guarded set
    · exact (held.cutOff pending).cons other rests
    · refine CutOff.stop (held.started ?_) other stops underway rests
      rcases underway with ready | finishing
      · simp [ready]
      · simp [finishing]

/-! ## Nothing to resume -/

/-- Power-up, the update that ends a cool-down, or a stop during the preparation that follows
a start. -/
def Concluded : List (Step Operation) → Prop
  | [] => True
  | step :: prior =>
      let before := controller.after boot prior
      let after := controller.after boot (step :: prior)
      (before.irrigation.status = .finishing ∧ after.irrigation.status = .finished ∧
          ¬ step.operation.Stops before) ∨
        (step.operation.Stops before ∧ before.irrigation.status = .preparing ∧
          before.irrigation.isStopped = 0)

theorem concluded_state (held : ∀ step prior, history = step :: prior → Remembers prior)
    (concluded : Concluded history) :
    (controller.after boot history).irrigation.status = .finished ∧
      (controller.after boot history).irrigation.isStopped = 0 := by
  cases history with
  | nil => exact ⟨rfl, rfl⟩
  | cons step prior =>
      have resting := (held step prior rfl).resting
      rcases concluded with ⟨finishing, finished, other⟩ | ⟨stops, preparing, running⟩
      · refine ⟨finished, ?_⟩
        by_contra set
        have guarded : step.operation.Stops (controller.after boot prior) →
            (controller.after boot prior).irrigation.status = .finished →
            (controller.after boot prior).irrigation.isStopped ≠ 0 :=
          fun stops => absurd stops other
        rcases (flag_step resting guarded set).2.2 with pending | ⟨stops, _⟩
        · exact resting pending (.inr finishing)
        · exact other stops
      · have stop : step.operation = .forceStop := by
          cases operation : step.operation with
          | forceStop => rfl
          | irrigationUpdate =>
              rw [operation] at stops
              simp [Operation.Stops, preparing] at stops
          | _ => simp [operation, Operation.Stops] at stops
        have after : controller.after boot (step :: prior) =
            (controller.after boot prior).controlIrrigationTempForceStop step.now := by
          rw [Machine.after_cons, stop]
          rfl
        simp [after, preparing, running]

end

/-- Stops at the given times, one after the other. -/
def Controller.forceStops (times : List Nat) (s : Controller) : Controller :=
  times.foldl (fun s now => s.controlIrrigationTempForceStop now) s

/-- The machine is idle, and nothing is on. -/
def Quiet (s : Controller) : Prop :=
  s.irrigation.status = .finished ∧ (∀ device, ¬ s.IsOn device) ∧ ∀ flow, ¬ s.FlowActive flow

theorem forceStops_pending {s : Controller} (times : List Nat)
    (finished : s.irrigation.status = .finished) (pending : s.irrigation.isStopped ≠ 0) :
    (s.forceStops times).irrigation.status = .finished ∧
      (s.forceStops times).irrigation.isStopped ≠ 0 := by
  induction times generalizing s with
  | nil => exact ⟨finished, pending⟩
  | cons now rest ih => exact ih (by simp) (by simp [pending])

/-- In `FINISHED` with nothing stopped, stops and a resume leave the machine idle only if
there is no stop. -/
theorem quiet_after_stops_iff {s : Controller} (finished : s.irrigation.status = .finished)
    (running : s.irrigation.isStopped = 0) (times : List Nat) (now : Nat) :
    Quiet ((s.forceStops times).controlIrrigationTempResume now) ↔ times = [] ∧ Quiet s := by
  cases times with
  | nil =>
      change Quiet (s.controlIrrigationTempResume now) ↔ _
      rw [resume_of_not_stopped now s running]
      simp
  | cons first rest =>
      have set : (s.controlIrrigationTempForceStop first).irrigation.isStopped ≠ 0 :=
        forceStop_isStopped first s (ne_of_eq_of_ne finished (by decide))
      obtain ⟨ended, pending⟩ := forceStops_pending rest (by simp) set
      have resumed : (s.forceStops (first :: rest)).controlIrrigationTempResume now =
          (s.forceStops (first :: rest)).prepareGenerator now :=
        resume_of_not_ready now _ pending (ne_of_eq_of_ne ended (by decide))
      rw [resumed]
      simp [Quiet]

section

variable [FlowArithmetic] {history : List (Step Operation)}

/-- A resume finds something to do only when the latest start's program was cut off. Where
nothing was, the machine stays idle exactly as long as no stop comes before the resume. -/
theorem resume_needs_cutOff (admitted : Machine.Admitted phantomGuard setupTime history) :
    (∀ now, (controller.after boot history).controlIrrigationTempResume now ≠
        controller.after boot history → CutOff history) ∧
      (Concluded history → ∀ times now,
        Quiet (((controller.after boot history).forceStops times).controlIrrigationTempResume now) ↔
          times = [] ∧ Quiet (controller.after boot history)) := by
  refine ⟨fun now changed => ?_, fun concluded times now => ?_⟩
  · refine (remembers_of_admitted admitted).cutOff fun running => changed ?_
    exact resume_of_not_stopped now _ running
  · have held : ∀ step prior, history = step :: prior → Remembers prior := by
      rintro step prior rfl
      exact remembers_of_admitted admitted.1
    obtain ⟨finished, running⟩ := concluded_state held concluded
    exact quiet_after_stops_iff finished running times now

end

/-- A start stopped during its preparation, and a resume after it. -/
def stoppedInPreparation : List (Step Operation) :=
  [⟨5000, .forceStop⟩, ⟨4000, .start .group2 0⟩]

theorem resume_needs_cutOff_stoppedInPreparation :
    Quiet (((controller.after boot stoppedInPreparation).forceStops
      []).controlIrrigationTempResume 6000) := by
  have admitted : Machine.Admitted phantomGuard setupTime stoppedInPreparation := by
    refine ⟨⟨trivial, by decide, ?_⟩, by decide, ?_⟩
    · exact fun stops => stops.elim
    · exact fun _ finished => absurd finished (by decide)
  have concluded : Concluded stoppedInPreparation := .inr ⟨trivial, by decide, by decide⟩
  exact ((resume_needs_cutOff admitted).2 concluded [] 6000).mpr
    ⟨rfl, by decide, by decide, by decide⟩

/-- One stop right after power-up arms a resume of a program nobody has started: the
generator, the pump, valve 10 and both supplement flows go on. -/
theorem phantom_resume :
    let armed : List (Step Operation) := [⟨4000, .forceStop⟩]
    ¬ CutOff armed ∧
      (controller.after boot armed).controlIrrigationTempResume 5000 ≠
        controller.after boot armed ∧
      (let s := controller.after boot (⟨10000, .irrigationUpdate⟩ :: ⟨5000, .resume⟩ :: armed)
       s.irrigation.status = .ready ∧ s.IsOn 0 ∧ s.IsOn 1 ∧ s.IsOn 10 ∧ s.FlowActive 1 ∧
         s.FlowActive 2) := by
  refine ⟨?_, ?_, by decide⟩
  · rintro ⟨later, stop, during, start, earlier, split, starts, _⟩
    have listed : start ∈ [(⟨4000, .forceStop⟩ : Step Operation)] := by
      rw [split]
      simp
    obtain rfl := List.mem_singleton.mp listed
    exact starts
  · intro same
    have status := congrArg (fun s => s.irrigation.status) same
    exact absurd status (by decide)
end BlueberryIrrigation
