import BlueberryIrrigation.Controller.FlowWindows
import BlueberryIrrigation.Plan.Trace
import BlueberryIrrigation.Safety.Zones

/-!
# How long the garden is watered

The garden program waters through flow 5, whose limit is the program's duration in whole seconds,
narrowed to 16 bits, where zero is no limit. The machine ends the program by the duration itself and
closes nothing: that flow 5 is over by then is left to `control_flow_update`.
-/

namespace BlueberryIrrigation

open Semantics Controller

/-- `control_irrigation_temp_time_program_duration / 1000`, as flow 5 gets it. -/
def gardenSeconds (duration : UInt32) : UInt16 := (duration / 1000).toUInt16

/-- The step is a `control_flow_update` that finds the limit of the garden's flow reached. -/
def LimitPassed (origin : Nat) (duration : UInt32) (step : Step Operation) : Prop :=
  step.operation = .controlFlowUpdate ∧ gardenSeconds duration ≠ 0 ∧
    (gardenSeconds duration).toNat * 1000 ≤ (step.now - origin) % Clock.period

/-- From one second to 65535 the limit is the duration without its milliseconds, and what finds it
passed is not early. -/
theorem limit_in_time {origin : Nat} {duration : UInt32} {step : Step Operation}
    (least : 1000 ≤ duration.toNat) (most : duration.toNat < 65536000)
    (limit : LimitPassed origin duration step) : origin + duration.toNat ≤ step.now + 1000 := by
  have seconds : (gardenSeconds duration).toNat = duration.toNat / 1000 := by
    unfold gardenSeconds
    rw [UInt32.toNat_toUInt16, UInt32.toNat_div]
    exact Nat.mod_eq_of_lt (by simp; omega)
  obtain ⟨-, -, reached⟩ := limit
  rw [seconds] at reached
  have elapsed : (step.now - origin) % Clock.period ≤ step.now - origin := Nat.mod_le _ _
  omega

/-- The garden's program waits for the generator. -/
structure GardenPrepares (duration : UInt32) (s : Controller) : Prop where
  status : s.irrigation.status = .preparing
  program : s.irrigation.program = .garden
  lasts : s.irrigation.timeProgramDuration = duration
  unstopped : s.irrigation.isStopped = 0
  valve : s.IsOn 13 → s.FlowActive 5

/-- The garden's program has run since `origin`, and flow 5 until its limit was passed. -/
structure GardenRuns (origin : Nat) (duration : UInt32) (passed : Prop) (s : Controller) :
    Prop where
  status : s.irrigation.status = .ready
  program : s.irrigation.program = .garden
  lasts : s.irrigation.timeProgramDuration = duration
  since : s.irrigation.timeProgramStart = millis origin
  target : (s.controlFlowArray 5).pulsesToDeliver = 0
  limit : (s.controlFlowArray 5).timeToDeliver = gardenSeconds duration
  start : (s.controlFlowArray 5).timeStart = millis origin
  unpaused : (s.controlFlowArray 5).isPause = 0
  active : s.FlowActive 5 ↔ ¬ passed
  valve : s.IsOn 13 → s.FlowActive 5

variable {now origin : Nat} {duration : UInt32} {s : Controller} {operation : Operation}

/-! ## The calls beside the machine -/

/-- The calls beside the machine and `control_flow_update` leave every flow and valve 13 alone. -/
theorem beside_flows (now : Nat) (s : Controller) (periodic : operation.Periodic)
    (beside : ¬ operation.DrivesMachine) (other : operation ≠ .controlFlowUpdate) :
    (operation.run now s).controlFlowArray = s.controlFlowArray ∧
      ((operation.run now s).IsOn 13 ↔ s.IsOn 13) := by
  cases operation with
  | deviceUpdate =>
      exact ⟨(deviceUpdate_fields now s).2.1, (Untouched.deviceUpdate 13 now s).isOn_iff⟩
  | sensorFlowUpdate =>
      have sensors := SensorsOnly.sensorFlowUpdate now s
      exact ⟨sensors.controlFlowArray, sensors.isOn_iff 13⟩
  | sensorPressureUpdate readings =>
      have sensors := SensorsOnly.sensorPressureUpdate now readings s
      exact ⟨sensors.controlFlowArray, sensors.isOn_iff 13⟩
  | sensorInterrupt sensor => exact ⟨rfl, Iff.rfl⟩
  | controlFlowUpdate => exact absurd rfl other
  | irrigationUpdate => exact absurd trivial beside
  | _ => exact periodic.elim

/-- Valve 13 stays closed without flow 5. -/
theorem beside_valve (now : Nat) (periodic : operation.Periodic)
    (beside : ¬ operation.DrivesMachine) (valve : s.IsOn 13 → s.FlowActive 5) :
    (operation.run now s).IsOn 13 → (operation.run now s).FlowActive 5 := by
  by_cases update : operation = .controlFlowUpdate
  · rw [update]
    exact (ZoneInvariant.controlFlowUpdate_zones now valve).2
  · obtain ⟨flows, same⟩ := beside_flows now s periodic beside update
    unfold FlowActive
    rw [flows]
    exact fun on => valve (same.mp on)

/-! ## The preparation -/

/-- A start from idle prepares the garden's program. -/
theorem GardenPrepares.start (idle : s.Idle) (isCleaning : Flag) :
    GardenPrepares s.irrigation.timeProgramDuration
      (s.controlIrrigationTempStart now .garden isCleaning) := by
  have elsewhere : s.irrigation.status ≠ .ready := by simp [idle.status]
  rw [start_of_not_ready now s .garden isCleaning elsewhere]
  refine ⟨rfl, rfl, rfl, rfl, fun on => ?_⟩
  rw [prepareGenerator_isOn, startAssign_isOn] at on
  exact absurd (on.resolve_left (by decide)) (idle.off 13)

/-- Until the generator is ready the program waits. -/
theorem GardenPrepares.run (prepares : GardenPrepares duration s) (periodic : operation.Periodic)
    (still : (operation.run now s).irrigation.status = .preparing) :
    GardenPrepares duration (operation.run now s) := by
  by_cases drives : operation.DrivesMachine
  · obtain rfl := periodic.drivesMachine.mp drives
    change (s.controlIrrigationTempUpdate now).irrigation.status = _ at still
    change GardenPrepares duration (s.controlIrrigationTempUpdate now)
    unfold controlIrrigationTempUpdate at still ⊢
    simp only [prepares.status] at still ⊢
    split at still
    · rename_i waiting
      rw [if_pos waiting]
      exact prepares
    · rw [beginProgram_status] at still
      exact Status.noConfusion still
  · have irrigation := Operation.Periodic.irrigation now s periodic drives
    refine ⟨still, ?_, ?_, ?_, beside_valve now periodic drives prepares.valve⟩ <;> rw [irrigation]
    · exact prepares.program
    · exact prepares.lasts
    · exact prepares.unstopped

/-- What the start branch of the garden's program leaves. -/
theorem gardenRuns_begin (program : s.irrigation.program = .garden)
    (ready : s.irrigation.status = .ready) (lasts : s.irrigation.timeProgramDuration = duration) :
    GardenRuns now duration False (s.beginGarden now) := by
  have record : (s.beginGarden now).controlFlowArray 5 =
      s.startedFlow now 5 0 (gardenSeconds duration) := by
    rw [← lasts]
    exact (controlFlowStart_controlFlowArray now s 5 5 0 _).trans (if_pos rfl)
  have active : (s.beginGarden now).FlowActive 5 := by
    unfold FlowActive
    rw [record]
    exact (by decide : (1 : Flag) ≠ 0)
  have target : FlowArithmetic.pulsesToDeliver
      (s.sensorFlowArray (controlFlowSensor 5)).pulsesPerLiter 0 = 0 := by
    simp [FlowArithmetic.pulsesToDeliver]
  refine ⟨ready, program, lasts, rfl, ?_, ?_, ?_, ?_, by simpa using active, fun _ => active⟩ <;>
    rw [record]
  · exact target
  · rfl
  · rfl
  · rfl

/-- With the generator ready, the program and its flow begin together. -/
theorem GardenPrepares.begins (prepares : GardenPrepares duration s)
    (periodic : operation.Periodic)
    (ready : (operation.run now s).irrigation.status = .ready) :
    GardenRuns now duration False (operation.run now s) := by
  by_cases drives : operation.DrivesMachine
  · obtain rfl := periodic.drivesMachine.mp drives
    change (s.controlIrrigationTempUpdate now).irrigation.status = _ at ready
    change GardenRuns now duration False (s.controlIrrigationTempUpdate now)
    unfold controlIrrigationTempUpdate at ready ⊢
    simp only [prepares.status] at ready ⊢
    split at ready
    · exact Status.noConfusion (prepares.status.symm.trans ready)
    · rename_i expired
      have pumping : ¬ (s.beginPumping now).irrigation.status ≠ .ready := not_not.mpr rfl
      rw [if_neg expired]
      unfold beginProgram controlIrrigationTempStart
      rw [if_pos prepares.unstopped, prepares.program]
      dsimp only
      rw [if_neg pumping]
      exact gardenRuns_begin rfl rfl prepares.lasts
  · have irrigation := Operation.Periodic.irrigation now s periodic drives
    rw [irrigation, prepares.status] at ready
    exact Status.noConfusion ready

/-! ## The watering -/

namespace GardenRuns

variable {passed : Prop}

/-- `control_flow_update` ends the flow exactly by its limit. -/
theorem due_iff (runs : GardenRuns origin duration passed s) (ordered : origin ≤ now) :
    s.FlowDue now 5 ↔ LimitPassed origin duration ⟨now, .controlFlowUpdate⟩ := by
  have expired : (gardenSeconds duration).toUInt32 * 1000 ≤ millis now - millis origin ↔
      (gardenSeconds duration).toNat * 1000 ≤ (now - origin) % Clock.period := by
    rw [UInt32.le_iff_toNat_le, toNat_limit, Clock.toNat_reading_sub ordered]
  unfold FlowDue LimitPassed
  dsimp only
  rw [runs.target, runs.limit, runs.start, expired]
  simp

/-- The calls beside the machine go on with the watering. -/
theorem beside (runs : GardenRuns origin duration passed s) (ordered : origin ≤ now)
    (periodic : operation.Periodic) (beside : ¬ operation.DrivesMachine) :
    GardenRuns origin duration (passed ∨ LimitPassed origin duration ⟨now, operation⟩)
      (operation.run now s) := by
  have irrigation := Operation.Periodic.irrigation now s periodic beside
  have valve := beside_valve now periodic beside runs.valve
  have due := runs.due_iff ordered
  obtain ⟨status, program, lasts, since, target, limit, start, unpaused, active, -⟩ := runs
  rw [← irrigation] at status program lasts since
  by_cases update : operation = .controlFlowUpdate
  · subst update
    have kept := SameSchedule.controlFlowUpdate now 5 s
    refine ⟨status, program, lasts, since, kept.target.trans target, kept.limit.trans limit,
      kept.start.trans start, controlFlowUpdate_isPause now unpaused, ?_, valve⟩
    change (s.controlFlowUpdate now).FlowActive 5 ↔ _
    rw [controlFlowUpdate_flowActive_iff now unpaused, active, due, not_or]
  · obtain ⟨flows, -⟩ := beside_flows now s periodic beside update
    have unpassed : ¬ LimitPassed origin duration ⟨now, operation⟩ := fun met => update met.1
    rw [← flows] at target limit start unpaused
    refine ⟨status, program, lasts, since, target, limit, start, unpaused, ?_, valve⟩
    rw [or_iff_left unpassed, ← active]
    unfold FlowActive
    rw [flows]

/-- The machine ends the watering by the duration alone. -/
theorem update_eq (runs : GardenRuns origin duration passed s) (ordered : origin ≤ now)
    (sound : ¬ s.StopsFaulty) :
    s.controlIrrigationTempUpdate now =
      if (now - origin) % Clock.period < duration.toNat then s else s.finishProgram now := by
  have faultless : ¬ s.IsFaulty := fun faulty => sound ⟨.inl runs.status, faulty⟩
  have still : s.StageRunning now s.irrigation.timeProgramDuration ↔
      (now - origin) % Clock.period < duration.toNat := by
    unfold StageRunning
    rw [runs.since, runs.lasts, UInt32.lt_iff_toNat_lt, Clock.toNat_reading_sub ordered]
  unfold controlIrrigationTempUpdate updateProgram updateGarden
  simp only [runs.status, runs.program, if_neg faultless, still]

/-- The call is the update that finds the duration over. -/
def Finishes (now origin : Nat) (duration : UInt32) (operation : Operation) : Prop :=
  operation = .irrigationUpdate ∧ duration.toNat ≤ (now - origin) % Clock.period

/-- A call goes on with the watering or is the update that finishes it. -/
theorem step (runs : GardenRuns origin duration passed s) (ordered : origin ≤ now)
    (periodic : operation.Periodic) (sound : operation = .irrigationUpdate → ¬ s.StopsFaulty) :
    GardenRuns origin duration (passed ∨ LimitPassed origin duration ⟨now, operation⟩)
        (operation.run now s) ∧ ¬ Finishes now origin duration operation ∨
      operation.run now s = s.finishProgram now ∧ Finishes now origin duration operation := by
  by_cases drives : operation.DrivesMachine
  · obtain rfl := periodic.drivesMachine.mp drives
    have unpassed : ¬ LimitPassed origin duration ⟨now, .irrigationUpdate⟩ :=
      fun met => Operation.noConfusion met.1
    have result : Operation.irrigationUpdate.run now s = _ := runs.update_eq ordered (sound rfl)
    by_cases still : (now - origin) % Clock.period < duration.toNat
    · rw [if_pos still] at result
      refine .inl ⟨?_, fun finishes => absurd finishes.2 (Nat.not_le.mpr still)⟩
      rw [or_iff_left unpassed, result]
      exact runs
    · rw [if_neg still] at result
      exact .inr ⟨result, rfl, Nat.not_lt.mp still⟩
  · refine .inl ⟨runs.beside ordered periodic drives, fun finishes => ?_⟩
    rw [finishes.1] at drives
    exact drives trivial

end GardenRuns

/-! ## Runs -/

section

variable {begun : Controller} {history : List (Step Operation)}

/-- The garden is watered until its limit, or the duration is over and the program with it. -/
def GardenPhase (begun : Controller) (origin : Nat) (duration : UInt32)
    (history : List (Step Operation)) : Prop :=
  GardenRuns origin duration (∃ step ∈ history, LimitPassed origin duration step)
      (controller.after begun history) ∨
    ((controller.after begun history).irrigation.status = .finishing ∨
        (controller.after begun history).irrigation.status = .finished) ∧
      origin + duration.toNat ≤ Machine.lastTime origin history

/-- A program that is over stays over. -/
theorem over_stays (now : Nat) (periodic : operation.Periodic)
    (ended : s.irrigation.status = .finishing ∨ s.irrigation.status = .finished) :
    (operation.run now s).irrigation.status = .finishing ∧ s.irrigation.status = .finishing ∨
      (operation.run now s).irrigation.status = .finished := by
  by_cases drives : operation.DrivesMachine
  · obtain rfl := periodic.drivesMachine.mp drives
    change (s.controlIrrigationTempUpdate now).irrigation.status = _ ∧ _ ∨
      (s.controlIrrigationTempUpdate now).irrigation.status = _
    have step := updateStep now s
    generalize s.controlIrrigationTempUpdate now = t at step ⊢
    cases step with
    | idle status => exact .inr status
    | warming status | begins status | runs status => simp [status] at ended
    | stops => exact .inr (by simp [controlIrrigationTempForceStop, withIrrigation])
    | cooling status => exact .inl ⟨status, status⟩
    | shuts => exact .inr rfl
  · rw [Operation.Periodic.irrigation now s periodic drives]
    rcases ended with status | status
    · exact .inl ⟨status, status⟩
    · exact .inr status

/-- What was found before this step or is found in it. -/
theorem passed_cons {step : Step Operation} :
    (∃ earlier ∈ step :: history, LimitPassed origin duration earlier) ↔
      (∃ earlier ∈ history, LimitPassed origin duration earlier) ∨
        LimitPassed origin duration ⟨step.now, step.operation⟩ := by
  rw [List.exists_mem_cons_iff, or_comm]

theorem GardenPhase.step {step : Step Operation} (phase : GardenPhase begun origin duration history)
    (since : origin ≤ Machine.lastTime origin history)
    (ordered : Machine.lastTime origin history ≤ step.now)
    (sound : soundGuard begun history step) :
    GardenPhase begun origin duration (step :: history) := by
  obtain ⟨periodic, sound⟩ := sound
  rcases phase with runs | ⟨ended, late⟩
  · unfold GardenPhase
    rw [passed_cons]
    rcases runs.step (since.trans ordered) periodic sound with ⟨goesOn, -⟩ | ⟨result, -, expired⟩
    · exact .inl goesOn
    · have most : (step.now - origin) % Clock.period ≤ step.now - origin := Nat.mod_le _ _
      refine .inr ⟨.inl (congrArg (fun t : Controller => t.irrigation.status) result), ?_⟩
      rw [Machine.lastTime_cons]
      have reached := since.trans ordered
      omega
  · refine .inr ⟨?_, late.trans ordered⟩
    rw [Machine.after_cons]
    exact (over_stays step.now periodic ended).imp And.left id

/-- Flow 5 is active until a second before the duration is over, and when the status becomes
`FINISHING` it is inactive with its valve closed. -/
def gardenLasts (begun : Controller) (origin : Nat) (duration : UInt32)
    (prior : List (Step Operation)) (step : Step Operation) : Prop :=
  let s := controller.after begun (step :: prior)
  (step.now + 1000 < origin + duration.toNat → s.FlowActive 5) ∧
    ((controller.after begun prior).irrigation.status ≠ .finishing →
      s.irrigation.status = .finishing → ¬ s.FlowActive 5 ∧ ¬ s.IsOn 13)

/-- No `control_flow_update` finds the limit passed earlier than a second before the duration is
over, and one has found it passed before the update that finishes the program. -/
def gardenTimed (begun : Controller) (origin : Nat) (duration : UInt32)
    (prior : List (Step Operation)) (step : Step Operation) : Prop :=
  (LimitPassed origin duration step → origin + duration.toNat ≤ step.now + 1000) ∧
    ((controller.after begun prior).irrigation.status = .ready →
      GardenRuns.Finishes step.now origin duration step.operation →
      ∃ earlier ∈ prior, LimitPassed origin duration earlier)

theorem gardenPhase (runs : GardenRuns origin duration False begun)
    (admitted : Machine.Admitted (soundGuard begun) origin history) :
    GardenPhase begun origin duration history ∧ origin ≤ Machine.lastTime origin history := by
  refine admitted.along (fun history => GardenPhase begun origin duration history ∧
    origin ≤ Machine.lastTime origin history) ⟨.inl (by simpa using runs), le_rfl⟩ ?_
  rintro step prior - ⟨phase, since⟩ ordered sound
  exact ⟨phase.step since ordered sound, since.trans ordered⟩

/-- While every step so far was timed, one more step waters on exactly if it is timed too. -/
theorem gardenLasts_iff {step : Step Operation} (phase : GardenPhase begun origin duration history)
    (since : origin ≤ Machine.lastTime origin history)
    (ordered : Machine.lastTime origin history ≤ step.now)
    (sound : soundGuard begun history step)
    (timed : ∀ earlier ∈ history, LimitPassed origin duration earlier →
      origin + duration.toNat ≤ earlier.now + 1000)
    (times : ∀ earlier ∈ history, earlier.now ≤ Machine.lastTime origin history) :
    gardenLasts begun origin duration history step ↔
      gardenTimed begun origin duration history step := by
  obtain ⟨periodic, sound⟩ := sound
  have past : ∀ earlier ∈ history, LimitPassed origin duration earlier →
      origin + duration.toNat ≤ step.now + 1000 := by
    intro earlier listed limit
    have found := timed earlier listed limit
    have before := times earlier listed
    omega
  have reached := since.trans ordered
  unfold gardenLasts gardenTimed
  rcases phase with runs | ⟨ended, late⟩
  · rcases runs.step reached periodic sound with ⟨runsOn, unfinished⟩ | ⟨result, finishes⟩
    · rw [← passed_cons] at runsOn
      have goesOn : GardenRuns origin duration _ (controller.after begun (step :: history)) :=
        runsOn
      constructor
      · rintro ⟨lasting, -⟩
        refine ⟨fun limit => ?_, fun _ finishes => absurd finishes unfinished⟩
        by_contra early
        exact goesOn.active.mp (lasting (by omega)) ⟨step, List.mem_cons_self, limit⟩
      · rintro ⟨late, -⟩
        refine ⟨fun early => goesOn.active.mpr ?_, fun _ finishing => ?_⟩
        · rintro ⟨earlier, listed, limit⟩
          rcases List.mem_cons.mp listed with rfl | before
          · exact absurd (late limit) (by omega)
          · exact absurd (past earlier before limit) (by omega)
        · exact Status.noConfusion (goesOn.status.symm.trans finishing)
    · have most : (step.now - origin) % Clock.period ≤ step.now - origin := Nat.mod_le _ _
      have late : origin + duration.toNat ≤ step.now := by
        have expired := finishes.2
        omega
      have finished : controller.after begun (step :: history) =
          (controller.after begun history).finishProgram step.now := result
      rw [finished]
      constructor
      · rintro ⟨-, ends⟩
        refine ⟨fun _ => by omega, fun _ _ => ?_⟩
        by_contra unpassed
        exact (ends (by simp [runs.status]) rfl).1 (runs.active.mpr unpassed)
      · rintro ⟨-, found⟩
        have inactive : ¬ (controller.after begun history).FlowActive 5 :=
          fun active => runs.active.mp active (found runs.status finishes)
        refine ⟨fun early => by omega, fun _ _ => ⟨inactive, fun on => ?_⟩⟩
        exact inactive (runs.valve (by simpa [finishProgram] using on))
  · refine iff_of_true ⟨fun early => by omega, fun before after => ?_⟩
      ⟨fun _ => by omega, fun ready => ?_⟩
    · have finished := ended.resolve_left before
      rcases over_stays step.now periodic ended with ⟨-, same⟩ | gone
      · exact absurd same before
      · exact Status.noConfusion (gone.symm.trans after)
    · rcases ended with status | status <;> exact Status.noConfusion (status.symm.trans ready)

/-- In a timed run no limit is found passed early. -/
theorem limit_timed
    (admitted : Machine.Admitted (gardenTimed begun origin duration) origin history) :
    ∀ earlier ∈ history, LimitPassed origin duration earlier →
      origin + duration.toNat ≤ earlier.now + 1000 :=
  admitted.forall_mem fun _ _ timed => timed.1

theorem gardenLasts_run (runs : GardenRuns origin duration False begun)
    (admitted : Machine.Admitted (soundGuard begun) origin history) :
    Machine.Admitted (gardenLasts begun origin duration) origin history ↔
      Machine.Admitted (gardenTimed begun origin duration) origin history := by
  induction history with
  | nil => exact Iff.rfl
  | cons step prior ih =>
      obtain ⟨before, ordered, sound⟩ := admitted
      obtain ⟨phase, since⟩ := gardenPhase runs before
      have same (timed : Machine.Admitted (gardenTimed begun origin duration) origin prior) :=
        gardenLasts_iff phase since ordered sound (limit_timed timed) before.now_le_lastTime
      constructor
      · rintro ⟨lasts, -, last⟩
        have timed := (ih before).mp lasts
        exact ⟨timed, ordered, (same timed).mp last⟩
      · rintro ⟨timed, -, last⟩
        exact ⟨(ih before).mpr timed, ordered, (same timed).mpr last⟩

/-- Only a start or a resume goes back to the preparation. -/
theorem preparing_earlier (periodic : operation.Periodic)
    (prepares : (operation.run now s).irrigation.status = .preparing) :
    s.irrigation.status = .preparing := by
  by_cases drives : operation.DrivesMachine
  · obtain rfl := periodic.drivesMachine.mp drives
    change (s.controlIrrigationTempUpdate now).irrigation.status = _ at prepares
    have step := updateStep now s
    generalize s.controlIrrigationTempUpdate now = t at step prepares
    cases step with
    | idle | warming | cooling => exact prepares
    | begins status => exact status
    | runs status =>
        rcases turn_updateProgram now s status with goesOn | ends
        · exact Status.noConfusion (goesOn.status.symm.trans prepares)
        · exact Status.noConfusion (ends.status.symm.trans prepares)
    | stops => simp [controlIrrigationTempForceStop, withIrrigation] at prepares
    | shuts => exact Status.noConfusion prepares
  · rwa [Operation.Periodic.irrigation now s periodic drives] at prepares

/-- From the start to the end of the preparation nothing but the preparation happens. -/
theorem gardenPrepares (idle : s.Idle) (isCleaning : Flag)
    (admitted : Machine.Admitted
      (soundGuard (s.controlIrrigationTempStart origin .garden isCleaning)) origin history)
    (waits : (controller.after (s.controlIrrigationTempStart origin .garden isCleaning)
      history).irrigation.status = .preparing) :
    GardenPrepares s.irrigation.timeProgramDuration
      (controller.after (s.controlIrrigationTempStart origin .garden isCleaning) history) := by
  induction history with
  | nil => exact .start idle isCleaning
  | cons step prior ih =>
      obtain ⟨before, -, periodic, -⟩ := admitted
      exact (ih before (preparing_earlier periodic waits)).run periodic waits

end

/-- The garden is watered as long as its program says, and its flow is over when the program is,
exactly in the runs that are timed so. -/
theorem garden_lasts {startTime : Nat} {isCleaning : Flag} {before during : List (Step Operation)}
    {begin : Step Operation} (idle : s.Idle)
    (prepared : Machine.Admitted
      (soundGuard (s.controlIrrigationTempStart startTime .garden isCleaning)) startTime
      (begin :: before))
    (waits : (controller.after (s.controlIrrigationTempStart startTime .garden isCleaning)
      before).irrigation.status = .preparing)
    (begins : (controller.after (s.controlIrrigationTempStart startTime .garden isCleaning)
      (begin :: before)).irrigation.status = .ready)
    (admitted : Machine.Admitted
      (soundGuard (controller.after (s.controlIrrigationTempStart startTime .garden isCleaning)
        (begin :: before))) begin.now during) :
    let begun := controller.after (s.controlIrrigationTempStart startTime .garden isCleaning)
      (begin :: before)
    Machine.Admitted (gardenLasts begun begin.now s.irrigation.timeProgramDuration) begin.now
        during ↔
      Machine.Admitted (gardenTimed begun begin.now s.irrigation.timeProgramDuration) begin.now
        during := by
  obtain ⟨waited, -, periodic, -⟩ := prepared
  have prepares := gardenPrepares idle isCleaning waited waits
  exact gardenLasts_run (prepares.begins periodic begins) admitted

/-! ## Three durations -/

/-- The memory after power-up and the assignment of a duration. -/
def booted (duration : UInt32) : Controller := boot.assign (.programDuration duration)

theorem booted_idle (duration : UInt32) : (booted duration).Idle :=
  ⟨rfl, boot_isOn, boot_flowActive⟩

/-- The garden's program is started at 4000, and its watering begins when the generator is ready. -/
def gardenBegun (duration : UInt32) : Controller :=
  controller.after ((booted duration).controlIrrigationTempStart 4000 .garden 0)
    [⟨9000, .irrigationUpdate⟩]

/-- With two and a half seconds the flow is over after two, and the program finds it closed. -/
theorem garden_lasts_twoSeconds :
    Machine.Admitted (gardenLasts (gardenBegun 2500) 9000 2500) 9000
      [⟨11500, .irrigationUpdate⟩, ⟨11000, .controlFlowUpdate⟩, ⟨10000, .controlFlowUpdate⟩] := by
  have prepared : Machine.Admitted
      (soundGuard ((booted 2500).controlIrrigationTempStart 4000 .garden 0)) 4000
      [(⟨9000, .irrigationUpdate⟩ : Step Operation)] :=
    ⟨trivial, by decide, trivial, fun _ => by decide⟩
  have admitted : Machine.Admitted (soundGuard (gardenBegun 2500)) 9000
      [⟨11500, .irrigationUpdate⟩, ⟨11000, .controlFlowUpdate⟩, ⟨10000, .controlFlowUpdate⟩] :=
    ⟨⟨⟨trivial, by decide, trivial, fun _ => by decide⟩, by decide, trivial, fun _ => by decide⟩,
      by decide, trivial, fun _ => by decide⟩
  have reached : LimitPassed 9000 2500 ⟨11000, .controlFlowUpdate⟩ := ⟨rfl, by decide, by decide⟩
  have early : ¬ LimitPassed 9000 2500 ⟨10000, .controlFlowUpdate⟩ :=
    fun limit => absurd limit.2.2 (by decide)
  have timed : Machine.Admitted (gardenTimed (gardenBegun 2500) 9000 2500) 9000
      [⟨11500, .irrigationUpdate⟩, ⟨11000, .controlFlowUpdate⟩, ⟨10000, .controlFlowUpdate⟩] :=
    ⟨⟨⟨trivial, by decide, fun limit => absurd limit early,
      fun _ finishes => Operation.noConfusion finishes.1⟩, by decide, fun _ => by decide,
      fun _ finishes => Operation.noConfusion finishes.1⟩, by decide,
      fun limit => Operation.noConfusion limit.1,
      fun _ _ => ⟨_, List.mem_cons_self, reached⟩⟩
  exact (garden_lasts (booted_idle 2500) prepared rfl rfl admitted).mpr timed

/-- With half a second the flow has no limit: it is active and its valve open when the program
finishes. With 65536 seconds it has none either, and with 65537 it is over after one. -/
theorem garden_floods :
    let updates : List (Step Operation) :=
      [⟨10500, .irrigationUpdate⟩, ⟨10500, .controlFlowUpdate⟩]
    let short := controller.after (gardenBegun 500) updates
    let long := controller.after (gardenBegun 65537000) updates
    short.irrigation.status = .finishing ∧ short.FlowActive 5 ∧ short.IsOn 13 ∧
      gardenSeconds 65536000 = 0 ∧ long.irrigation.status = .ready ∧ ¬ long.FlowActive 5 := by
  decide

end BlueberryIrrigation
