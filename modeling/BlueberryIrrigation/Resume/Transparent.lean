import BlueberryIrrigation.Resume.Accounting
import BlueberryIrrigation.Resume.Upkeep

/-!
# A stop and a resume are transparent

A stop in `READY` saves the time alone, and the update after the resume rebuilds relays, timer and
flows from the name of the stage. With what a running stage keeps up (`Upkeep`) this is the state
that was left: a flow that had ended is revived, and ends again in the next `control_flow_update`
because it is still due. The pulse totals decide that too, and they are counters of 32 bits.
-/

namespace BlueberryIrrigation

open Semantics Controller

namespace Controller

section

variable (now : Nat) (flow : Fin 6) (s : Controller)

theorem SameSchedule.withIrrigation (change : Irrigation → Irrigation) :
    SameSchedule flow s (s.withIrrigation change) := .of_eq flow rfl rfl

theorem SameSchedule.prepareGenerator : SameSchedule flow s (s.prepareGenerator now) :=
  .of_eq flow rfl rfl

theorem SameSchedule.beginPumping : SameSchedule flow s (s.beginPumping now) :=
  .of_eq flow rfl rfl

/-- A stop disturbs no schedule. -/
theorem SameSchedule.forceStop : SameSchedule flow s (s.controlIrrigationTempForceStop now) := by
  have safe : SameSchedule flow s (s.controlSafetyDevicesStop now) :=
    .of_eq flow (by simp) (by simp)
  have flows := ((safe.trans (.controlFlowStop now flow 1 _)).trans
    (.controlFlowStop now flow 2 _)).trans (.controlFlowStop now flow 5 _)
  unfold controlIrrigationTempForceStop
  exact flows.trans (.withIrrigation flow _ _)

end

/-- A stop, a resume, and the update that ends the wait for the generator. -/
def interrupted [FlowArithmetic] (stopTime resumeTime updateTime : Nat) (s : Controller) :
    Controller :=
  ((s.controlIrrigationTempForceStop stopTime).controlIrrigationTempResume
    resumeTime).controlIrrigationTempUpdate updateTime

/-- What the resume finds when the generator is ready again. -/
def atResume (stopTime resumeTime updateTime : Nat) (s : Controller) : Controller :=
  ((s.controlIrrigationTempForceStop stopTime).prepareGenerator resumeTime).beginPumping updateTime

section

variable {stopTime resumeTime updateTime : Nat} {s : Controller}

/-- The update that finds the generator ready resumes. -/
theorem interrupted_eq [FlowArithmetic] (ready : s.irrigation.status = .ready)
    (waited : s.irrigation.timeGeneratorWait ≤ millis updateTime - millis resumeTime) :
    s.interrupted stopTime resumeTime updateTime =
      (s.atResume stopTime resumeTime updateTime).controlIrrigationTempResume updateTime := by
  have pending := forceStop_isStopped stopTime s (by simp [ready])
  have resting : (s.controlIrrigationTempForceStop stopTime).irrigation.status ≠ .ready := by simp
  unfold interrupted atResume
  rw [resume_of_not_ready resumeTime _ pending resting, update_begins updateTime _ rfl]
  · unfold beginProgram
    rw [prepareGenerator_irrigation, if_neg pending]
  · unfold GeneratorWaiting
    simpa using waited

theorem atResume_irrigation :
    (s.atResume stopTime resumeTime updateTime).irrigation =
      { s.irrigation with
        timeProgramStop := millis stopTime
        isStopped := (s.controlIrrigationTempForceStop stopTime).irrigation.isStopped
        timeGeneratorStart := millis resumeTime
        status := .ready } := by
  unfold atResume
  rw [beginPumping_irrigation, prepareGenerator_irrigation, forceStop_irrigation]

theorem SameSchedule.atResume (flow : Fin 6) :
    SameSchedule flow s (s.atResume stopTime resumeTime updateTime) := by
  unfold Controller.atResume
  exact ((SameSchedule.forceStop stopTime flow s).trans (.prepareGenerator resumeTime flow _)).trans
    (.beginPumping updateTime flow _)

end

/-- `after` is ready to resume what was stopped in `before` at `stopTime`. -/
structure Suspended (stopTime : Nat) (before after : Controller) : Prop where
  status : after.irrigation.status = .ready
  pending : after.irrigation.isStopped ≠ 0
  program : after.irrigation.program = before.irrigation.program
  programCurrent : after.irrigation.programCurrent = before.irrigation.programCurrent
  isCleaning : after.irrigation.isCleaning = before.irrigation.isCleaning
  volume : after.irrigation.deliverVolume = before.irrigation.deliverVolume
  start : after.irrigation.timeProgramStart = before.irrigation.timeProgramStart
  stop : after.irrigation.timeProgramStop = millis stopTime
  isOn : ∀ device, after.IsOn device ↔ device = 1 ∨ device = 0
  schedule : ∀ flow, SameSchedule flow before after

theorem suspended_atResume (stopTime resumeTime updateTime : Nat) {s : Controller}
    (ready : s.irrigation.status = .ready) :
    Suspended stopTime s (s.atResume stopTime resumeTime updateTime) := by
  have irrigation : (s.atResume stopTime resumeTime updateTime).irrigation = _ :=
    atResume_irrigation
  constructor
  case pending =>
    rw [irrigation]
    dsimp only
    exact forceStop_isStopped stopTime s (by simp [ready])
  case isOn => simp [atResume]
  case schedule => exact fun flow => .atResume flow
  all_goals rw [irrigation]

namespace Suspended

variable {stopTime now : Nat} {s t : Controller} {flow : Fin 6}

/-- The elapsed time of the stage is what it was at the stop. -/
theorem elapsed (held : Suspended stopTime s t) (measured : s.irrigation.programCurrent.Measured) :
    millis now - (t.controlIrrigationTempResume now).irrigation.timeProgramStart =
      millis stopTime - s.irrigation.timeProgramStart := by
  have restored : millis now -
      (millis now - (t.irrigation.timeProgramStop - t.irrigation.timeProgramStart)) =
      millis stopTime - s.irrigation.timeProgramStart := by
    rw [held.stop, held.start]
    grind
  rw [resume_ready_irrigation now t held.pending held.status, held.programCurrent]
  rcases measured with stage | stage | stage <;> rw [stage] <;> exact restored

theorem sensors (held : Suspended stopTime s t) :
    (t.controlIrrigationTempResume now).sensorFlowArray = s.sensorFlowArray :=
  (resume_sensorFlowArray now t).trans (held.schedule 0).sensors

/-- The flows of the stage are revived, and every other flow is as the stop has left it. -/
theorem record (held : Suspended stopTime s t) (volume : s.irrigation.deliverVolume ≠ 1)
    (flow : Fin 6) :
    (t.controlIrrigationTempResume now).controlFlowArray flow =
      if flow ∈ s.irrigation.programCurrent.flows then
        { t.controlFlowArray flow with
          isActive := 1
          timeStart := (t.controlIrrigationTempResume now).irrigation.timeProgramStart }
      else t.controlFlowArray flow := by
  have delivered : t.irrigation.deliverVolume ≠ 1 := by rwa [held.volume]
  rw [← held.programCurrent]
  exact resume_ready_controlFlowArray now t held.pending held.status delivered flow

theorem targets (held : Suspended stopTime s t) (volume : s.irrigation.deliverVolume ≠ 1)
    (flow : Fin 6) :
    ((t.controlIrrigationTempResume now).controlFlowArray flow).pulsesToDeliver =
        (s.controlFlowArray flow).pulsesToDeliver ∧
      ((t.controlIrrigationTempResume now).controlFlowArray flow).timeToDeliver =
        (s.controlFlowArray flow).timeToDeliver := by
  rw [held.record volume flow]
  split <;> exact ⟨(held.schedule flow).target, (held.schedule flow).limit⟩

theorem revived (held : Suspended stopTime s t) (volume : s.irrigation.deliverVolume ≠ 1)
    (listed : flow ∈ s.irrigation.programCurrent.flows) :
    (t.controlIrrigationTempResume now).FlowActive flow := by
  unfold FlowActive
  rw [held.record volume flow, if_pos listed]
  change (1 : Flag) ≠ 0
  decide

/-- A flow of the stage is due after the resume exactly if it was due at the stop. -/
theorem due_iff (held : Suspended stopTime s t) (volume : s.irrigation.deliverVolume ≠ 1)
    (measured : s.irrigation.programCurrent.Measured)
    (listed : flow ∈ s.irrigation.programCurrent.flows)
    (start : (s.controlFlowArray flow).timeStart = s.irrigation.timeProgramStart) :
    (t.controlIrrigationTempResume now).FlowDue now flow ↔ s.FlowDue stopTime flow := by
  have restart : ((t.controlIrrigationTempResume now).controlFlowArray flow).timeStart =
      (t.controlIrrigationTempResume now).irrigation.timeProgramStart := by
    rw [held.record volume flow, if_pos listed]
  have schedule := @targets stopTime now s t held volume flow
  unfold FlowDue
  dsimp only
  rw [schedule.1, schedule.2, held.sensors, restart, held.elapsed measured, start]

end Suspended

end Controller

/-- The program goes on at `later` as it was at `now`. -/
structure GoesOn [FlowArithmetic] (now later : Nat) (before after : Controller) : Prop where
  status : after.irrigation.status = before.irrigation.status
  program : after.irrigation.program = before.irrigation.program
  programCurrent : after.irrigation.programCurrent = before.irrigation.programCurrent
  isCleaning : after.irrigation.isCleaning = before.irrigation.isCleaning
  relays : ∀ device ∈ 0 :: programRelays, (after.IsOn device ↔ before.IsOn device)
  elapsed : millis later - after.irrigation.timeProgramStart =
    millis now - before.irrigation.timeProgramStart
  targets : ∀ flow,
    (after.controlFlowArray flow).pulsesToDeliver = (before.controlFlowArray flow).pulsesToDeliver ∧
      (after.controlFlowArray flow).timeToDeliver = (before.controlFlowArray flow).timeToDeliver
  totals : ∀ sensor,
    (after.sensorFlowArray sensor).pulsesTotal = (before.sensorFlowArray sensor).pulsesTotal
  flows : ∀ flow ∈ before.irrigation.programCurrent.flows,
    ((after.controlFlowUpdate later).FlowActive flow ↔
      (before.controlFlowUpdate now).FlowActive flow)

/-! ## What a resume finds -/

/-- Everything that a running stage keeps up. -/
structure Upkeep (clock : Nat) (s : Controller) : Prop where
  power : PowerInvariant clock s
  stage : StageInvariant s
  flow : FlowInvariant clock s
  unpaused : Unpaused s

namespace Upkeep

variable {clock now : Nat} {s : Controller}

theorem boot (clock : Nat) : Upkeep clock boot :=
  ⟨.boot clock, .boot, .boot clock, fun _ => rfl⟩

/-- In `READY` nothing is to be resumed. -/
theorem running (keeps : Upkeep clock s) (ready : s.irrigation.status = .ready) :
    s.irrigation.isStopped = 0 := by
  by_contra pending
  rcases keeps.power.stopped pending with finished | preparing
  · simp [ready] at finished
  · simp [ready] at preparing

section

variable [FlowArithmetic]

/-- One more step of the run keeps everything up. -/
theorem run {operation : Operation} (keeps : Upkeep clock s) (ordered : clock ≤ now)
    (command : operation.StartsAtRest s)
    (fits : s.irrigation.status = .ready → s.StageFits clock now)
    (totals : operation = .sensorFlowUpdate → s.irrigation.status = .ready → s.TotalsFit) :
    Upkeep now (operation.run now s) where
  power := keeps.power.run ordered command.leavesPowerAlone
  stage := keeps.stage.run keeps.running command
  flow := keeps.flow.run keeps.stage keeps.unpaused keeps.running ordered fits totals command
  unpaused := keeps.unpaused.run command.leavesDeliveries

omit [FlowArithmetic] in
/-- The relays of a stage whose time is measured are on, and the others of the program off. -/
theorem isOn_iff (keeps : Upkeep clock s) (ready : s.irrigation.status = .ready)
    (measured : s.irrigation.programCurrent.Measured) {device : Fin 15}
    (listed : device ∈ 0 :: programRelays) :
    s.IsOn device ↔ device = 0 ∨ device = 1 ∨ device ∈ s.irrigation.programCurrent.opened := by
  have other : s.irrigation.programCurrent ≠ .cleaning := by
    rcases measured with current | current | current <;> simp [current]
  have opened := keeps.stage.opened ready other
  simp only [programRelays, List.mem_cons, List.not_mem_nil, or_false] at listed
  rcases listed with rfl | rfl | stage
  · simp [keeps.power.generator, ready]
  · simp [keeps.power.pump, ready]
  · have among : device ∈ stageRelays := by simpa [stageRelays] using stage
    rw [opened device among]
    have apart : device ≠ 0 ∧ device ≠ 1 := by
      rcases stage with rfl | rfl | rfl | rfl <;> decide
    simp [apart]

/-- A program in `READY` that is stopped and resumed goes on as it was. -/
theorem goesOn {stopTime resumeTime updateTime : Nat} (keeps : Upkeep stopTime s)
    (ready : s.irrigation.status = .ready) (measured : s.irrigation.programCurrent.Measured)
    (waited : s.irrigation.timeGeneratorWait ≤ millis updateTime - millis resumeTime) :
    GoesOn stopTime updateTime s (s.interrupted stopTime resumeTime updateTime) := by
  have held := suspended_atResume stopTime resumeTime updateTime ready
  have volume := keeps.flow.volume
  have unpaused : Unpaused (s.interrupted stopTime resumeTime updateTime) :=
    keeps.unpaused.forceStop.resume.update
  rw [interrupted_eq ready waited] at unpaused ⊢
  generalize s.atResume stopTime resumeTime updateTime = t at held unpaused ⊢
  have irrigation := resume_ready_irrigation updateTime t held.pending held.status
  constructor
  · rw [irrigation, held.status, ready]
  · rw [irrigation, held.program]
  · rw [irrigation, held.programCurrent]
  · rw [irrigation, held.isCleaning]
  · intro device listed
    rw [resume_ready_isOn updateTime t held.pending held.status, held.isOn, held.programCurrent,
      keeps.isOn_iff ready measured listed]
    grind
  · exact held.elapsed measured
  · exact held.targets volume
  · intro sensor
    rw [held.sensors]
  · intro flow listed
    have start := keeps.flow.start ready flow listed
    have ended := keeps.flow.ended ready flow listed
    rw [controlFlowUpdate_flowActive_iff updateTime (unpaused flow),
      controlFlowUpdate_flowActive_iff stopTime (keeps.unpaused flow),
      held.due_iff volume measured listed start]
    constructor
    · rintro ⟨-, notDue⟩
      exact ⟨not_not.mp fun inactive => notDue (ended inactive), notDue⟩
    · rintro ⟨-, notDue⟩
      exact ⟨held.revived volume listed, notDue⟩

end

end Upkeep

/-! ## Runs -/

section

variable [FlowArithmetic] {history : List (Step Operation)}

/-- The steps of a run in which every program is started from rest and no elapsed time of a stage
reaches the counter's period. -/
def restGuard (prior : List (Step Operation)) (step : Step Operation) : Prop :=
  let s := controller.after boot prior
  step.operation.StartsAtRest s ∧
    (s.irrigation.status = .ready → s.StageFits (Machine.lastTime setupTime prior) step.now)

/-- Besides, no pulse total of an ended flow wraps while its stage is in `READY`. -/
def upkeepGuard (prior : List (Step Operation)) (step : Step Operation) : Prop :=
  let s := controller.after boot prior
  restGuard prior step ∧
    (step.operation = .sensorFlowUpdate → s.irrigation.status = .ready → s.TotalsFit)

theorem upkeep_of_admitted (admitted : Machine.Admitted upkeepGuard setupTime history) :
    Upkeep (Machine.lastTime setupTime history) (controller.after boot history) := by
  refine admitted.invariant Upkeep (.boot setupTime) ?_
  intro prior step keeps ordered guarded
  exact keeps.run ordered guarded.1.1 guarded.1.2 guarded.2

/-- A stop in `READY`, a resume, and the update at least the generator wait later leave the program
as it was, whatever had happened to its flows. -/
theorem stop_resume_transparent (admitted : Machine.Admitted upkeepGuard setupTime history)
    (ready : (controller.after boot history).irrigation.status = .ready)
    (measured : (controller.after boot history).irrigation.programCurrent.Measured)
    {stopTime resumeTime updateTime : Nat}
    (later : Machine.lastTime setupTime history ≤ stopTime)
    (fits : (controller.after boot history).StageFits (Machine.lastTime setupTime history) stopTime)
    (waited : (controller.after boot history).irrigation.timeGeneratorWait ≤
      millis updateTime - millis resumeTime) :
    GoesOn stopTime updateTime (controller.after boot history)
      ((controller.after boot history).interrupted stopTime resumeTime updateTime) := by
  have keeps := upkeep_of_admitted admitted
  have power := keeps.power.later later
  have flow := keeps.flow.later later fun _ => fits
  exact Upkeep.goesOn ⟨power, keeps.stage, flow, keeps.unpaused⟩ ready measured waited

end

/-- The first group with a pulse on its micro line. -/
def pulsedRun : List (Step Operation) :=
  [⟨10000, .controlFlowUpdate⟩, ⟨10000, .sensorFlowUpdate⟩, ⟨9500, .sensorInterrupt 1⟩,
    ⟨9000, .irrigationUpdate⟩, ⟨4000, .start .group1 0⟩]

theorem pulsedRun_admitted : Machine.Admitted upkeepGuard setupTime pulsedRun := by
  refine ⟨⟨⟨⟨⟨trivial, by decide, ?_⟩, by decide, ?_⟩, by decide, ?_⟩, by decide, ?_⟩, by decide,
    ?_⟩
  · exact ⟨⟨⟨trivial, rfl⟩, by decide⟩, nofun⟩
  · exact ⟨⟨trivial, by decide⟩, nofun⟩
  · exact ⟨⟨trivial, by decide⟩, nofun⟩
  · exact ⟨⟨trivial, by decide⟩, fun _ => by decide⟩
  · exact ⟨⟨trivial, by decide⟩, nofun⟩

theorem stop_resume_transparent_pulsedRun :
    GoesOn 20000 40000 (controller.after boot pulsedRun)
      ((controller.after boot pulsedRun).interrupted 20000 30000 40000) :=
  stop_resume_transparent pulsedRun_admitted (by decide) (.inl (by decide)) (by decide) (by decide)
    (by decide)

/-! ## Counters that wrap -/

/-- The first group, stopped after a second. -/
def stoppedEarly : List (Step Operation) :=
  [⟨10000, .sensorFlowUpdate⟩, ⟨10000, .forceStop⟩, ⟨9000, .irrigationUpdate⟩,
    ⟨4000, .start .group1 0⟩]

/-- While the program is stopped, the micro line counts this many pulses a second. -/
def counted (pulses : Nat) : Nat → List (Step Operation)
  | 0 => stoppedEarly
  | seconds + 1 =>
      ⟨11000 + 1000 * seconds, .sensorFlowUpdate⟩ ::
        (List.replicate pulses ⟨11000 + 1000 * seconds, .sensorInterrupt 1⟩ ++
          counted pulses seconds)

/-- The memory that this count leads to. -/
def countedState (pulses seconds : Nat) : Controller :=
  let s := controller.after boot stoppedEarly
  { s.setSensor 1 { s.sensorFlowArray 1 with pulsesTotal := UInt32.ofNat (pulses * seconds) } with
    sensorFlowTimeUpdateLast := millis (10000 + 1000 * seconds) }

/-- Interrupts in a row. -/
theorem after_interrupts (pulses now : Nat) (sensor : Fin 5) (prior : List (Step Operation)) :
    controller.after boot (List.replicate pulses ⟨now, .sensorInterrupt sensor⟩ ++ prior) =
      (controller.after boot prior).setSensor sensor
        { (controller.after boot prior).sensorFlowArray sensor with
          pulsesInterrupt :=
            ((controller.after boot prior).sensorFlowArray sensor).pulsesInterrupt +
              UInt16.ofNat pulses } := by
  induction pulses with
  | zero => simp [setSensor]
  | succ pulses ih =>
      rw [List.replicate_succ, List.cons_append, Machine.after_cons, ih]
      change Controller.sensorFlowInterrupt sensor _ = _
      simp [sensorFlowInterrupt, setSensor, UInt16.ofNat_add, UInt16.add_assoc]

/-- The update then moves their count into the total. -/
theorem update_interrupts {s : Controller} {now pulses : Nat} (sensor : Fin 5)
    (due : ¬ millis now - s.sensorFlowTimeUpdateLast < sensorFlowUpdateInterval)
    (idle : ∀ sensor, (s.sensorFlowArray sensor).pulsesInterrupt = 0) (small : pulses < 2 ^ 16) :
    (s.setSensor sensor
        { s.sensorFlowArray sensor with
          pulsesInterrupt := (s.sensorFlowArray sensor).pulsesInterrupt + UInt16.ofNat pulses
        }).sensorFlowUpdate now =
      { s.setSensor sensor
          { s.sensorFlowArray sensor with
            pulsesTotal := (s.sensorFlowArray sensor).pulsesTotal + UInt32.ofNat pulses } with
        sensorFlowTimeUpdateLast := millis now } := by
  have moved : (UInt16.ofNat pulses).toUInt32 = UInt32.ofNat pulses := by
    apply UInt32.toNat_inj.mp
    rw [UInt16.toNat_toUInt32, UInt16.toNat_ofNat', UInt32.toNat_ofNat', Nat.mod_eq_of_lt small]
    omega
  rw [sensorFlowUpdate_eq]
  · unfold setSensor
    congr 1
    ext1 other
    have quiet := idle other
    by_cases own : other = sensor
    · subst own
      simp [quiet, moved]
    · dsimp only
      rw [Function.update_of_ne own, Function.update_of_ne own]
      generalize s.sensorFlowArray other = counting at quiet ⊢
      cases counting
      simp_all
  · exact due

theorem after_counted {pulses : Nat} (small : pulses < 2 ^ 16) (seconds : Nat) :
    controller.after boot (counted pulses seconds) = countedState pulses seconds := by
  induction seconds with
  | zero =>
      have total : ((controller.after boot stoppedEarly).sensorFlowArray 1).pulsesTotal = 0 := by
        decide
      have last : (controller.after boot stoppedEarly).sensorFlowTimeUpdateLast = millis 10000 := by
        decide
      unfold counted countedState
      generalize controller.after boot stoppedEarly = s at total last
      simp [setSensor, ← total, ← last]
  | succ seconds ih =>
      have due : ¬ millis (11000 + 1000 * seconds) -
          (countedState pulses seconds).sensorFlowTimeUpdateLast < sensorFlowUpdateInterval := by
        have passed : millis (11000 + 1000 * seconds) - millis (10000 + 1000 * seconds) =
            Clock.reading (11000 + 1000 * seconds - (10000 + 1000 * seconds)) :=
          Clock.reading_sub (by omega)
        have second : 11000 + 1000 * seconds - (10000 + 1000 * seconds) = 1000 := by omega
        have last : (countedState pulses seconds).sensorFlowTimeUpdateLast =
            millis (10000 + 1000 * seconds) := rfl
        rw [last, passed, second]
        decide
      have idle : ∀ sensor,
          ((countedState pulses seconds).sensorFlowArray sensor).pulsesInterrupt = 0 := by
        have quiet : ∀ sensor,
            ((controller.after boot stoppedEarly).sensorFlowArray sensor).pulsesInterrupt = 0 := by
          decide
        unfold countedState
        generalize controller.after boot stoppedEarly = s at quiet
        intro sensor
        by_cases own : sensor = 1
        · subst own
          simp [setSensor, quiet]
        · simp [setSensor, own, quiet]
      have total : UInt32.ofNat (pulses * (seconds + 1)) =
          UInt32.ofNat (pulses * seconds) + UInt32.ofNat pulses := by
        rw [Nat.mul_succ, UInt32.ofNat_add]
      have time : 10000 + 1000 * (seconds + 1) = 11000 + 1000 * seconds := by omega
      rw [counted, Machine.after_cons, after_interrupts, ih]
      refine Eq.trans (update_interrupts 1 due idle small) ?_
      unfold countedState
      generalize controller.after boot stoppedEarly = s
      rw [total, time]
      simp [setSensor]

/-- Outside `READY` pulses may come at any time. -/
theorem admitted_interrupts {prior : List (Step Operation)} {now : Nat} (pulses : Nat)
    (sensor : Fin 5) (admitted : Machine.Admitted restGuard setupTime prior)
    (ordered : Machine.lastTime setupTime prior ≤ now)
    (elsewhere : (controller.after boot prior).irrigation.status ≠ .ready) :
    Machine.Admitted restGuard setupTime
        (List.replicate pulses ⟨now, .sensorInterrupt sensor⟩ ++ prior) ∧
      Machine.lastTime setupTime
        (List.replicate pulses ⟨now, .sensorInterrupt sensor⟩ ++ prior) ≤ now ∧
      (controller.after boot (List.replicate pulses ⟨now, .sensorInterrupt sensor⟩ ++
        prior)).irrigation.status ≠ .ready := by
  induction pulses with
  | zero => exact ⟨admitted, ordered, elsewhere⟩
  | succ pulses ih =>
      obtain ⟨before, earlier, still⟩ := ih
      rw [List.replicate_succ, List.cons_append]
      exact ⟨⟨before, earlier, trivial, fun ready => absurd ready still⟩, Nat.le_refl now, still⟩

theorem admitted_counted (pulses seconds : Nat) :
    Machine.Admitted restGuard setupTime (counted pulses seconds) ∧
      Machine.lastTime setupTime (counted pulses seconds) = 10000 + 1000 * seconds ∧
      (controller.after boot (counted pulses seconds)).irrigation.status ≠ .ready := by
  have stopped : (controller.after boot stoppedEarly).irrigation.status ≠ .ready := by decide
  induction seconds with
  | zero =>
      refine ⟨⟨⟨⟨⟨trivial, by decide, ?_⟩, by decide, ?_⟩, by decide, ?_⟩, by decide, ?_⟩, rfl,
        stopped⟩
      · exact ⟨⟨trivial, rfl⟩, by decide⟩
      · exact ⟨trivial, by decide⟩
      · exact ⟨trivial, by decide⟩
      · exact ⟨trivial, by decide⟩
  | succ seconds ih =>
      obtain ⟨before, last, elsewhere⟩ := ih
      have ordered : Machine.lastTime setupTime (counted pulses seconds) ≤
          11000 + 1000 * seconds := by
        omega
      obtain ⟨interrupts, earlier, still⟩ := admitted_interrupts pulses 1 before ordered elsewhere
      have sensors := SensorsOnly.sensorFlowUpdate (11000 + 1000 * seconds)
        (controller.after boot
          (List.replicate pulses ⟨11000 + 1000 * seconds, .sensorInterrupt 1⟩ ++
            counted pulses seconds))
      rw [counted]
      refine ⟨⟨interrupts, earlier, trivial, fun ready => absurd ready still⟩, ?_, ?_⟩
      · change 11000 + 1000 * seconds = _
        omega
      · exact fun ready => still (sensors.irrigation ▸ ready)

/-- The program is resumed with its total at 2^32 - 1, and one more pulse follows. -/
def wrappedRun : List (Step Operation) :=
  [⟨65554000, .sensorFlowUpdate⟩, ⟨65553000, .sensorInterrupt 1⟩, ⟨65553000, .controlFlowUpdate⟩,
    ⟨65553000, .irrigationUpdate⟩, ⟨65548000, .resume⟩]

/-- The program is resumed after 65537 seconds of 65535 pulses, with its total at 2^32 - 1. -/
theorem wrapped_admitted :
    ∃ prior, Machine.Admitted restGuard setupTime (wrappedRun ++ prior) ∧
      ∀ steps, controller.after boot (steps ++ prior) =
        controller.after (countedState 65535 65537) steps := by
  obtain ⟨prior, admitted, last, reached⟩ : ∃ prior, Machine.Admitted restGuard setupTime prior ∧
      Machine.lastTime setupTime prior = 10000 + 1000 * 65537 ∧
      controller.after boot prior = countedState 65535 65537 := by
    obtain ⟨admitted, last, -⟩ := admitted_counted 65535 65537
    exact ⟨_, admitted, last, after_counted (by decide) 65537⟩
  have states : ∀ steps, controller.after boot (steps ++ prior) =
      controller.after (countedState 65535 65537) steps := fun steps => by
    rw [Machine.after_append, reached]
  refine ⟨prior, ?_, states⟩
  have finished : (controller.after boot prior).irrigation.status ≠ .ready := by
    rw [reached]
    decide +kernel
  have preparing : (controller.after boot (wrappedRun.drop 4 ++ prior)).irrigation.status ≠
      .ready := by
    rw [states]
    decide +kernel
  have earlier : Machine.lastTime setupTime prior ≤ 65548000 := by
    rw [last]
    decide
  refine ⟨⟨⟨⟨⟨admitted, earlier, ?_⟩, ?_, ?_⟩, ?_, ?_⟩, ?_, ?_⟩, ?_, ?_⟩
  · exact ⟨trivial, fun ready => absurd ready finished⟩
  · exact (by decide : 65548000 ≤ 65553000)
  · exact ⟨trivial, fun ready => absurd ready preparing⟩
  · exact Nat.le_refl 65553000
  · refine ⟨trivial, fun _ => ?_⟩
    change (controller.after boot (wrappedRun.drop 3 ++ prior)).StageFits 65553000 65553000
    rw [states]
    decide +kernel
  · exact Nat.le_refl 65553000
  · refine ⟨trivial, fun _ => ?_⟩
    change (controller.after boot (wrappedRun.drop 2 ++ prior)).StageFits 65553000 65553000
    rw [states]
    decide +kernel
  · exact (by decide : 65553000 ≤ 65554000)
  · refine ⟨trivial, fun _ => ?_⟩
    change (controller.after boot (wrappedRun.drop 1 ++ prior)).StageFits 65553000 65554000
    rw [states]
    decide +kernel

/-- A run to a program in `READY` without a detected fault, and the times at which it is stopped,
resumed and updated. -/
structure Interruption (history : List (Step Operation)) (stopTime resumeTime updateTime : Nat) :
    Prop where
  admitted : Machine.Admitted restGuard setupTime history
  ready : (controller.after boot history).irrigation.status = .ready
  sound : (controller.after boot history).faultyDetectionStatus = .notDetected
  measured : (controller.after boot history).irrigation.programCurrent.Measured
  later : Machine.lastTime setupTime history ≤ stopTime
  fits : (controller.after boot history).StageFits (Machine.lastTime setupTime history) stopTime
  resumed : stopTime ≤ resumeTime
  waited : resumeTime + (controller.after boot history).irrigation.timeGeneratorWait.toNat ≤
    updateTime

/-- Once a total has wrapped, a flow that had reached its target is active again after a stop and a
resume. And once the reading of `millis()` has wrapped, the generator is waited for again. -/
theorem stop_resume_wrapped :
    (∃ history stopTime resumeTime updateTime,
      Interruption history stopTime resumeTime updateTime ∧
        updateTime < resumeTime + Clock.period ∧
        ¬ GoesOn stopTime updateTime (controller.after boot history)
          ((controller.after boot history).interrupted stopTime resumeTime updateTime)) ∧
      ∃ stopTime resumeTime updateTime,
        Interruption pulsedRun stopTime resumeTime updateTime ∧
          ¬ GoesOn stopTime updateTime (controller.after boot pulsedRun)
            ((controller.after boot pulsedRun).interrupted stopTime resumeTime updateTime) := by
  constructor
  · obtain ⟨prior, run, states⟩ := wrapped_admitted
    have newest : Machine.lastTime setupTime (wrappedRun ++ prior) = 65554000 := rfl
    have wrapped := states wrappedRun
    refine ⟨wrappedRun ++ prior, 65554000, 65554000, 65559000, ?_, by decide, fun goes => ?_⟩
    · constructor
      · exact run
      · rw [wrapped]
        decide +kernel
      · rw [wrapped]
        decide +kernel
      · rw [wrapped]
        exact .inl (by decide +kernel)
      · exact Nat.le_of_eq newest
      · rw [wrapped, newest]
        decide +kernel
      · exact Nat.le_refl 65554000
      · rw [wrapped]
        decide +kernel
    · rw [wrapped] at goes
      have flow := goes.flows 1 (by decide +kernel)
      exact absurd flow (by decide +kernel)
  · have admitted : Machine.Admitted restGuard setupTime pulsedRun :=
      pulsedRun_admitted.mono fun _ _ guarded => guarded.1
    refine ⟨20000, 20000, 20000 + Clock.period, ⟨admitted, by decide, by decide, .inl (by decide),
      by decide, by decide, by decide, by decide⟩, fun goes => ?_⟩
    have status := goes.status
    exact absurd status (by decide +kernel)

end BlueberryIrrigation
