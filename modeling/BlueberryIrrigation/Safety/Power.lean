import BlueberryIrrigation.Controller.IrrigationEffects
import BlueberryIrrigation.Controller.Operation

/-!
# Power sequencing

The generator runs in every status but `FINISHED`, the well pump in `READY` only, and one
timestamp serves both waits: it is the last switching on of the generator while the
generator warms up, and the last switching off of the pump while it cools down.
`PowerInvariant` ties that timestamp to the real time of the switch, so the modular
comparison of the update is a real wait.
-/

namespace BlueberryIrrigation

open Semantics Controller

/-- The operations of a run without manual switching: the well's own flow and the manual
device toggle drive the pump and the generator directly. -/
def Operation.LeavesPowerAlone : Operation → Prop
  | .deviceToggle _ _ => False
  | .flowStart flow _ _ | .flowStop flow | .flowPause flow _ => flow ≠ 0
  | _ => True

/-- The commands that switch the generator on. -/
def Operation.StartsGenerator : Operation → Prop
  | .start _ _ | .resume => True
  | _ => False

/-- `device` was last toggled towards `on` at `since`, which is what the shared timestamp
of the irrigation machine shows. -/
def Timed (device : Fin 15) (on : Bool) (clock : Nat) (s : Controller) : Prop :=
  ∃ since, lastToggle device on s.trace = some since ∧ since ≤ clock ∧
    s.irrigation.timeGeneratorStart = millis since

/-- A timestamp survives everything that toggles its relay no more. -/
theorem Timed.later {device : Fin 15} {on : Bool} {clock now : Nat} {s t : Controller}
    (timed : Timed device on clock s) (later : clock ≤ now)
    (toggles : lastToggle device on t.trace = lastToggle device on s.trace)
    (start : t.irrigation.timeGeneratorStart = s.irrigation.timeGeneratorStart) :
    Timed device on now t := by
  obtain ⟨since, last, before, shown⟩ := timed
  exact ⟨since, toggles.trans last, Nat.le_trans before later, start.trans shown⟩

structure PowerInvariant (clock : Nat) (s : Controller) : Prop where
  generator : s.IsOn 0 ↔ s.irrigation.status ≠ .finished
  pump : s.IsOn 1 ↔ s.irrigation.status = .ready
  stopped : s.irrigation.isStopped ≠ 0 →
    s.irrigation.status = .finished ∨ s.irrigation.status = .preparing
  warming : s.irrigation.status = .preparing → Timed 0 true clock s
  cooling : s.irrigation.status = .finishing → Timed 1 false clock s
  well : ¬ s.FlowActive 0

namespace PowerInvariant

variable {clock now : Nat} {s t : Controller}

theorem boot (clock : Nat) : PowerInvariant clock boot where
  generator := by simp
  pump := by simp
  stopped := by simp
  warming := by simp
  cooling := by simp
  well := by simp

/-- What is stopped does not run. -/
theorem elsewhere (inv : PowerInvariant clock s) (stopped : s.irrigation.isStopped ≠ 0) :
    s.irrigation.status ≠ .ready := by
  rcases inv.stopped stopped with finished | preparing
  · simp [finished]
  · simp [preparing]

/-- Steps that move neither the two relays nor the status keep the invariant. -/
theorem frame (inv : PowerInvariant clock s) (later : clock ≤ now)
    (generator : Untouched 0 s t) (pump : Untouched 1 s t)
    (status : t.irrigation.status = s.irrigation.status)
    (stopped : t.irrigation.isStopped ≠ 0 → s.irrigation.isStopped ≠ 0)
    (start : t.irrigation.timeGeneratorStart = s.irrigation.timeGeneratorStart)
    (well : ¬ t.FlowActive 0) : PowerInvariant now t where
  generator := by rw [generator.isOn_iff, status, inv.generator]
  pump := by rw [pump.isOn_iff, status, inv.pump]
  stopped := by rw [status]; exact fun on => inv.stopped (stopped on)
  warming := by
    rw [status]
    exact fun preparing => (inv.warming preparing).later later (generator.toggles true) start
  cooling := by
    rw [status]
    exact fun finishing => (inv.cooling finishing).later later (pump.toggles false) start
  well := well

/-- Steps of the clock alone keep the invariant. -/
theorem later (inv : PowerInvariant clock s) (ordered : clock ≤ now) : PowerInvariant now s :=
  inv.frame ordered (.refl 0 s) (.refl 1 s) rfl id rfl inv.well

/-- Switching the generator on starts the warm-up. -/
theorem prepareGenerator (inv : PowerInvariant clock s) (elsewhere : s.irrigation.status ≠ .ready) :
    PowerInvariant now (s.prepareGenerator now) where
  generator := by simp
  pump := by simp [inv.pump, elsewhere]
  stopped := by simp
  warming _ := ⟨now, by simp, Nat.le_refl _, rfl⟩
  cooling := by simp
  well := by simpa using inv.well

theorem startAssign (inv : PowerInvariant clock s) (program : Program) (isCleaning : Flag) :
    PowerInvariant clock (s.startAssign program isCleaning) :=
  inv.frame (Nat.le_refl _) (.startAssign s program isCleaning 0)
    (.startAssign s program isCleaning 1) rfl (fun on => absurd rfl on) rfl inv.well

/-- A state in `READY` with both relays on and nothing stopped. -/
theorem of_ready (status : s.irrigation.status = .ready) (stopped : s.irrigation.isStopped = 0)
    (generator : s.IsOn 0) (pump : s.IsOn 1) (well : ¬ s.FlowActive 0) :
    PowerInvariant clock s where
  generator := by simp [generator, status]
  pump := by simp [pump, status]
  stopped := by simp [stopped]
  warming := by simp [status]
  cooling := by simp [status]
  well := well

/-- The pump goes off and the cool-down begins. -/
theorem of_finishing (status : s.irrigation.status = .finishing)
    (stopped : s.irrigation.isStopped = 0) (generator : s.IsOn 0) (pump : ¬ s.IsOn 1)
    (off : lastToggle 1 false s.trace = some now)
    (start : s.irrigation.timeGeneratorStart = millis now) (well : ¬ s.FlowActive 0) :
    PowerInvariant now s where
  generator := by simp [generator, status]
  pump := by simp [pump, status]
  stopped := by simp [stopped]
  warming := by simp [status]
  cooling _ := ⟨now, off, Nat.le_refl _, start⟩
  well := well

theorem assign (inv : PowerInvariant clock s) (ordered : clock ≤ now) (setting : Setting) :
    PowerInvariant now (s.assign setting) := by
  cases setting with
  | timeSwitchMinimum device time =>
      have same : ∀ other, (s.assign (.timeSwitchMinimum device time)).IsOn other ↔
          s.IsOn other := s.assign_isOn (.timeSwitchMinimum device time)
      exact ⟨by rw [same]; exact inv.generator, by rw [same]; exact inv.pump, inv.stopped,
        fun preparing => (inv.warming preparing).later ordered rfl rfl,
        fun finishing => (inv.cooling finishing).later ordered rfl rfl, inv.well⟩
  | deliverVolume | deliverTime | generatorWait | programDuration | cleaningGroup3Duration
  | cleaningGroup12Duration | pulsesPerLiter =>
      exact inv.frame ordered (.of_eq rfl rfl) (.of_eq rfl rfl) rfl id rfl inv.well

theorem forceStop (inv : PowerInvariant clock s) :
    PowerInvariant now (s.controlIrrigationTempForceStop now) where
  generator := by simp
  pump := by simp
  stopped := by simp
  warming := by simp
  cooling := by simp
  well := by simp [inv.well]

variable [FlowArithmetic]

/-- A start in `READY` moves neither the generator nor the pump. -/
theorem start_ready (program : Program) (isCleaning : Flag) (ready : s.irrigation.status = .ready)
    (generator : s.IsOn 0) (pump : s.IsOn 1) (well : ¬ s.FlowActive 0) :
    PowerInvariant now (s.controlIrrigationTempStart now program isCleaning) := by
  refine of_ready ?_ ?_ ?_ ?_ ?_
  · rw [start_ready_irrigation now s program isCleaning ready]
    exact ready
  · rw [start_ready_irrigation now s program isCleaning ready]
  · exact (start_ready_isOn now s program isCleaning ready 0).mpr (.inr generator)
  · exact (start_ready_isOn now s program isCleaning ready 1).mpr (.inr pump)
  · rw [start_ready_flowActive now s program isCleaning ready]
    simp [well]

theorem start (inv : PowerInvariant clock s) (program : Program) (isCleaning : Flag) :
    PowerInvariant now (s.controlIrrigationTempStart now program isCleaning) := by
  by_cases ready : s.irrigation.status = .ready
  · exact start_ready program isCleaning ready (inv.generator.mpr (by simp [ready]))
      (inv.pump.mpr ready) inv.well
  · rw [start_of_not_ready now s program isCleaning ready]
    exact (inv.startAssign program isCleaning).prepareGenerator ready

omit [FlowArithmetic] in
theorem resume (inv : PowerInvariant clock s) (ordered : clock ≤ now) :
    PowerInvariant now (s.controlIrrigationTempResume now) := by
  by_cases running : s.irrigation.isStopped = 0
  · rw [resume_of_not_stopped now s running]
    exact inv.later ordered
  · rw [resume_of_not_ready now s running (inv.elsewhere running)]
    exact inv.prepareGenerator (inv.elsewhere running)

/-- The end of the preparation leads to `READY` with both relays on, by a start as by a
resume. -/
theorem beginProgram (inv : PowerInvariant clock s)
    (preparing : s.irrigation.status = .preparing) :
    PowerInvariant now (s.beginProgram now) := by
  have on : s.IsOn 0 := inv.generator.mpr (by simp [preparing])
  unfold Controller.beginProgram
  split
  · exact start_ready _ _ rfl (by simp [on]) (by simp) (by simpa using inv.well)
  · have stopped : (s.beginPumping now).irrigation.isStopped ≠ 0 := by simpa
    refine of_ready ?_ ?_ ?_ ?_ ?_
    · rw [resume_ready_irrigation _ _ stopped rfl]
      rfl
    · rw [resume_ready_irrigation _ _ stopped rfl]
    · exact (resume_ready_isOn _ _ stopped rfl 0).mpr (.inr (by simp [on]))
    · exact (resume_ready_isOn _ _ stopped rfl 1).mpr (.inr (by simp))
    · rw [resume_ready_flowActive _ _ stopped rfl]
      simp [inv.well]

/-! ## The update in `READY` -/

omit [FlowArithmetic] in
theorem of_turn (inv : PowerInvariant clock s) (ready : s.irrigation.status = .ready)
    (turn : Turn now s t) : PowerInvariant now t := by
  have on : s.IsOn 0 := inv.generator.mpr (by simp [ready])
  have running : s.irrigation.isStopped = 0 := by
    by_contra stopped
    exact inv.elsewhere stopped ready
  rcases turn with stays | off
  · exact of_ready stays.status (stays.stopped running) (stays.generator on)
      (stays.pump (inv.pump.mpr ready)) (inv.well ∘ stays.well)
  · exact of_finishing off.status (off.stopped running) (off.generator on) off.pump off.off
      off.start (inv.well ∘ off.well)

/-! ## Every operation -/

theorem update (inv : PowerInvariant clock s) (ordered : clock ≤ now) :
    PowerInvariant now (s.controlIrrigationTempUpdate now) := by
  have step := updateStep now s
  generalize s.controlIrrigationTempUpdate now = t at step ⊢
  cases step with
  | idle | warming | cooling => exact inv.later ordered
  | begins status => exact inv.beginProgram status
  | runs status => exact inv.of_turn status (turn_updateProgram now s status)
  | stops => exact inv.forceStop
  | shuts status =>
      have running : s.irrigation.isStopped = 0 := by
        by_contra stopped
        simpa [status] using inv.stopped stopped
      exact ⟨by simp, by simp [inv.pump, status], by simp, by simp, by simp,
        by simpa using inv.well⟩

/-- Every operation that leaves the power to the irrigation machine keeps the invariant. -/
theorem run (inv : PowerInvariant clock s) (ordered : clock ≤ now) {operation : Operation}
    (alone : operation.LeavesPowerAlone) : PowerInvariant now (operation.run now s) := by
  have only : ∀ t : Controller, SensorsOnly s t → PowerInvariant now t := fun t sensors =>
    inv.frame ordered (.of_eq sensors.deviceArray sensors.trace)
      (.of_eq sensors.deviceArray sensors.trace) (by rw [sensors.irrigation])
      (by rw [sensors.irrigation]; exact id) (by rw [sensors.irrigation])
      (inv.well ∘ (sensors.flowActive_iff 0).mp)
  have framed : ∀ t : Controller, Untouched 0 s t → Untouched 1 s t →
      t.irrigation = s.irrigation → (t.FlowActive 0 → s.FlowActive 0) → PowerInvariant now t :=
    fun t generator pump irrigation well =>
      inv.frame ordered generator pump (by rw [irrigation]) (by rw [irrigation]; exact id)
        (by rw [irrigation]) (inv.well ∘ well)
  cases operation with
  | start program isCleaning => exact inv.start program isCleaning
  | forceStop => exact inv.forceStop
  | resume => exact inv.resume ordered
  | faultyDetectionToggle isActive =>
      exact inv.frame ordered (.of_eq rfl rfl) (.of_eq rfl rfl) rfl id rfl inv.well
  | assign setting => exact inv.assign ordered setting
  | flowStart flow volume time =>
      refine framed _ (.controlFlowStart now flow s volume time 0)
        (.controlFlowStart now flow s volume time 1) rfl fun active => ?_
      exact ((controlFlowStart_flowActive now flow s volume time 0).mp active).resolve_left
        (Ne.symm alone)
  | flowStop flow =>
      exact framed _
        (.controlFlowStop now flow s (controlFlowDevice_ne_zero flow).symm (by decide) (by decide))
        (.controlFlowStop now flow s (controlFlowDevice_ne_one alone).symm (by decide) (by decide))
        (controlFlowStop_irrigation now flow s)
        fun active => ((controlFlowStop_flowActive now flow s 0).mp active).2
  | flowPause flow isPause =>
      exact framed _ (.controlFlowPause now flow s (controlFlowDevice_ne_zero flow).symm isPause)
        (.controlFlowPause now flow s (controlFlowDevice_ne_one alone).symm isPause)
        (controlFlowPause_irrigation now flow s isPause)
        (controlFlowPause_flowActive now flow s isPause 0).mp
  | deviceToggle => exact alone.elim
  | pulsesTotalSet sensor pulses => exact only _ (.sensorFlowPulsesTotalSet sensor pulses s)
  | deviceUpdate =>
      exact framed _ (.deviceUpdate 0 now s) (.deviceUpdate 1 now s)
        (deviceUpdate_fields now s).2.2.1 (deviceUpdate_flowActive now 0 s).mp
  | sensorFlowUpdate => exact only _ (.sensorFlowUpdate now s)
  | sensorPressureUpdate readings => exact only _ (.sensorPressureUpdate now readings s)
  | controlFlowUpdate =>
      have idle : ∀ flow, s.FlowActive flow → flow ≠ 0 := by
        rintro flow active rfl
        exact inv.well active
      exact framed _
        (.controlFlowUpdate now (fun flow _ => (controlFlowDevice_ne_zero flow).symm)
          (by decide) (by decide))
        (.controlFlowUpdate now
          (fun flow active => (controlFlowDevice_ne_one (idle flow active)).symm)
          (by decide) (by decide))
        (controlFlowUpdate_irrigation now s) (controlFlowUpdate_flowActive now)
  | irrigationUpdate => exact inv.update ordered
  | sensorInterrupt sensor => exact only _ (.sensorFlowInterrupt sensor s)

end PowerInvariant

/-! ## The two waits -/

section Waits

variable {clock now : Nat} {s : Controller}

/-- A timestamp of the machine whose wait the modular comparison calls over. -/
theorem Timed.waited {device : Fin 15} {on : Bool} (timed : Timed device on clock s)
    (ordered : clock ≤ now) (expired : ¬ s.GeneratorWaiting now) :
    ∃ since, lastToggle device on s.trace = some since ∧
      since + s.irrigation.timeGeneratorWait.toNat ≤ now := by
  obtain ⟨since, last, before, shown⟩ := timed
  refine ⟨since, last, Clock.wait_elapsed (Nat.le_trans before ordered) ?_⟩
  have pending := expired
  unfold GeneratorWaiting at pending
  rwa [shown] at pending

variable [FlowArithmetic]

/-- Nothing but a start or a resume switches the generator on. -/
theorem generatorToggles_kept {operation : Operation} (alone : operation.LeavesPowerAlone)
    (other : ¬ operation.StartsGenerator) :
    lastToggle 0 true (operation.run now s).trace = lastToggle 0 true s.trace := by
  cases operation with
  | start | resume => exact absurd trivial other
  | deviceToggle => exact alone.elim
  | forceStop => exact forceStop_lastToggle_on now s 0
  | faultyDetectionToggle | flowStart | pulsesTotalSet | sensorInterrupt => rfl
  | assign setting => cases setting <;> rfl
  | flowStop flow =>
      exact (Untouched.controlFlowStop now flow s (controlFlowDevice_ne_zero flow).symm
        (by decide) (by decide)).toggles true
  | flowPause flow isPause =>
      exact (Untouched.controlFlowPause now flow s (controlFlowDevice_ne_zero flow).symm
        isPause).toggles true
  | deviceUpdate => exact (Untouched.deviceUpdate 0 now s).toggles true
  | sensorFlowUpdate => exact congrArg _ (SensorsOnly.sensorFlowUpdate now s).trace
  | sensorPressureUpdate readings =>
      exact congrArg _ (SensorsOnly.sensorPressureUpdate now readings s).trace
  | controlFlowUpdate =>
      exact (Untouched.controlFlowUpdate now (fun flow _ => (controlFlowDevice_ne_zero flow).symm)
        (by decide) (by decide)).toggles true
  | irrigationUpdate =>
      have outside : (0 : Fin 15) ∉ programRelays := by decide
      have step := updateStep now s
      change lastToggle 0 true (s.controlIrrigationTempUpdate now).trace = _
      generalize s.controlIrrigationTempUpdate now = t at step ⊢
      cases step with
      | idle | warming | cooling => rfl
      | begins status => exact (Untouched.beginProgram now s outside).toggles true
      | runs status => exact (Untouched.updateProgram now s status outside).toggles true
      | stops => exact forceStop_lastToggle_on now s 0
      | shuts => simp

/-- A start or a resume may switch the generator on; nothing else does. -/
theorem generator_toggles {operation : Operation} (alone : operation.LeavesPowerAlone) :
    lastToggle 0 true (operation.run now s).trace = lastToggle 0 true s.trace ∨
      operation.StartsGenerator ∧ lastToggle 0 true (operation.run now s).trace = some now := by
  have outside : (0 : Fin 15) ∉ programRelays := by decide
  by_cases starts : operation.StartsGenerator
  · cases operation with
    | start program isCleaning =>
        by_cases ready : s.irrigation.status = .ready
        · exact .inl ((Untouched.start_ready now s program isCleaning ready
            (Program.not_opened outside _)).toggles true)
        · refine .inr ⟨trivial, ?_⟩
          change lastToggle 0 true (s.controlIrrigationTempStart now program isCleaning).trace = _
          rw [start_of_not_ready now s program isCleaning ready]
          simp
    | resume =>
        change lastToggle 0 true (s.controlIrrigationTempResume now).trace = _ ∨
          _ ∧ lastToggle 0 true (s.controlIrrigationTempResume now).trace = _
        by_cases running : s.irrigation.isStopped = 0
        · rw [resume_of_not_stopped now s running]
          exact .inl rfl
        · by_cases ready : s.irrigation.status = .ready
          · exact .inl ((Untouched.resume_ready now s running ready
              (Program.not_opened outside _)).toggles true)
          · rw [resume_of_not_ready now s running ready]
            exact .inr ⟨trivial, by simp⟩
    | _ => exact starts.elim
  · exact .inl (generatorToggles_kept alone starts)

/-- The machine goes to `FINISHED` by a stop or by the update that ends the cool-down. -/
theorem enters_finished {operation : Operation} (elsewhere : s.irrigation.status ≠ .finished)
    (finished : (operation.run now s).irrigation.status = .finished) :
    operation.run now s = s.controlIrrigationTempForceStop now ∨
      s.irrigation.status = .finishing ∧ ¬ s.GeneratorWaiting now := by
  by_cases drives : operation.DrivesMachine
  · cases operation with
    | start program isCleaning =>
        change (s.controlIrrigationTempStart now program isCleaning).irrigation.status = .finished
          at finished
        by_cases ready : s.irrigation.status = .ready
        · rw [start_ready_irrigation now s program isCleaning ready] at finished
          exact absurd finished elsewhere
        · rw [start_of_not_ready now s program isCleaning ready] at finished
          simp at finished
    | forceStop => exact .inl rfl
    | resume =>
        change (s.controlIrrigationTempResume now).irrigation.status = .finished at finished
        by_cases running : s.irrigation.isStopped = 0
        · rw [resume_of_not_stopped now s running] at finished
          exact absurd finished elsewhere
        · by_cases ready : s.irrigation.status = .ready
          · rw [resume_ready_irrigation now s running ready] at finished
            exact absurd finished elsewhere
          · rw [resume_of_not_ready now s running ready] at finished
            simp at finished
    | irrigationUpdate =>
        change (s.controlIrrigationTempUpdate now).irrigation.status = .finished at finished
        change s.controlIrrigationTempUpdate now = _ ∨ _
        have step := updateStep now s
        generalize s.controlIrrigationTempUpdate now = t at step finished ⊢
        cases step with
        | idle | warming | cooling => exact absurd finished elsewhere
        | begins => simp at finished
        | runs ready =>
            rcases turn_updateProgram now s ready with stays | off
            · simp [stays.status] at finished
            · simp [off.status] at finished
        | stops => exact .inl rfl
        | shuts finishing _ expired => exact .inr ⟨finishing, expired⟩
    | _ => exact drives.elim
  · exact absurd ((machineKept drives now s).status.symm.trans finished) elsewhere

end Waits

/-! ## Runs -/

section Runs

variable [FlowArithmetic] {history : List (Step Operation)}

/-- The steps of a run in which the power is left to the irrigation machine. -/
def powerGuard (_ : List (Step Operation)) (step : Step Operation) : Prop :=
  step.operation.LeavesPowerAlone

theorem powerInvariant_of_admitted
    (admitted : Machine.Admitted powerGuard setupTime history) :
    PowerInvariant (Machine.lastTime setupTime history) (controller.after boot history) :=
  admitted.invariant PowerInvariant (.boot setupTime)
    fun _ _ inv ordered alone => inv.run ordered alone

/-- Whenever the generator was last switched on, a start or a resume of the run did it. -/
def StartedByCommand (history : List (Step Operation)) : Prop :=
  ∀ since, lastToggle 0 true (controller.after boot history).trace = some since →
    ∃ command ∈ history, command.now = since ∧ command.operation.StartsGenerator

theorem startedByCommand_of_admitted
    (admitted : Machine.Admitted powerGuard setupTime history) :
    StartedByCommand history := by
  refine admitted.along StartedByCommand ?_ ?_
  · intro since last
    simp at last
  · intro step prior _ known _ alone since last
    rcases generator_toggles alone with kept | ⟨starts, toggled⟩
    · obtain ⟨command, made, time, starts⟩ := known since (kept.symm.trans last)
      exact ⟨command, List.mem_cons_of_mem step made, time, starts⟩
    · have time : step.now = since := Option.some.inj (toggled.symm.trans last)
      exact ⟨step, List.mem_cons_self, time, starts⟩

/-- The generator is on outside `FINISHED`, the well pump in `READY` only, and both waits are
kept in real time: the pump goes on no sooner than the wait after the start or resume that
switched the generator on, and a generator that no stop cuts goes off no sooner than the
wait after the pump. -/
theorem power_sequencing (admitted : Machine.Admitted powerGuard setupTime history) :
    let s := controller.after boot history
    (s.IsOn 0 ↔ s.irrigation.status ≠ .finished) ∧
    (s.IsOn 1 ↔ s.irrigation.status = .ready) ∧
    (s.irrigation.status = .ready → s.irrigation.isStopped = 0) ∧
    ∀ step prior, history = step :: prior →
      let before := controller.after boot prior
      (¬ before.IsOn 1 → s.IsOn 1 →
        ∃ command ∈ prior, command.operation.StartsGenerator ∧
          lastToggle 0 true before.trace = some command.now ∧
          command.now + before.irrigation.timeGeneratorWait.toNat ≤ step.now) ∧
      (before.IsOn 0 → ¬ s.IsOn 0 →
        s = before.controlIrrigationTempForceStop step.now ∨
        ∃ since, lastToggle 1 false before.trace = some since ∧
          since + before.irrigation.timeGeneratorWait.toNat ≤ step.now) := by
  have inv := powerInvariant_of_admitted admitted
  refine ⟨inv.generator, inv.pump, ?_, ?_⟩
  · intro ready
    by_contra stopped
    exact inv.elsewhere stopped ready
  · rintro step prior rfl
    obtain ⟨earlier, ordered, alone⟩ := admitted
    have held := powerInvariant_of_admitted earlier
    refine ⟨fun off on => ?_, fun on off => ?_⟩
    · have ready := inv.pump.mp on
      obtain ⟨-, preparing, expired⟩ :=
        run_enters_ready (fun ready => off (held.pump.mpr ready)) ready
      obtain ⟨since, last, waited⟩ := (held.warming preparing).waited ordered expired
      obtain ⟨command, made, rfl, starts⟩ := startedByCommand_of_admitted earlier since last
      exact ⟨command, made, starts, last, waited⟩
    · have finished :
          (step.operation.run step.now (controller.after boot prior)).irrigation.status =
            .finished := by
        by_contra elsewhere
        exact off (inv.generator.mpr elsewhere)
      rcases enters_finished (held.generator.mp on) finished with stop | ⟨finishing, expired⟩
      · exact .inl stop
      · exact .inr ((held.cooling finishing).waited ordered expired)

end Runs

/-- A first start whose warm-up is over: the update at 9000 ms is the first one that may
switch the pump on. -/
def warmedUp : List (Step Operation) :=
  [⟨9000, .irrigationUpdate⟩, ⟨8999, .irrigationUpdate⟩, ⟨4000, .start .group1 0⟩]

theorem power_sequencing_warmedUp :
    (controller.after boot warmedUp).IsOn 1 ∧
      ∃ command ∈ warmedUp.tail, command.operation.StartsGenerator ∧
        lastToggle 0 true (controller.after boot warmedUp.tail).trace = some command.now ∧
        command.now + 5000 ≤ 9000 := by
  have admitted : Machine.Admitted powerGuard setupTime warmedUp :=
    ⟨⟨⟨trivial, by decide, trivial⟩, by decide, trivial⟩, by decide, trivial⟩
  have on : (controller.after boot warmedUp).IsOn 1 := by decide
  have off : ¬ (controller.after boot warmedUp.tail).IsOn 1 := by decide
  exact ⟨on, ((power_sequencing admitted).2.2.2 _ _ rfl).1 off on⟩

end BlueberryIrrigation
