import BlueberryIrrigation.Controller.FlowWindows
import BlueberryIrrigation.Safety.Latch
import BlueberryIrrigation.Safety.Stop

/-!
# Dry runs

A pump that draws no water shows as a pressure of zero or as too few pulses. `control_flow_update`
looks for that every ten seconds and latches what it finds, and `control_irrigation_temp_update`
cuts a running program off when something is latched. `controlFlowUpdate_detected_iff` says what
one look finds; `dry_run_is_cut` puts the two functions together: a run whose looks keep finding a
fault ends with every relay off, ten seconds and two calls after it began, however the clock
stands.
-/

namespace BlueberryIrrigation

open Semantics Controller

/-- The status is one that the detection sets. -/
def FaultyDetectionStatus.Detected (status : FaultyDetectionStatus) : Prop :=
  status = .detectedFlowLess ∨ status = .detectedFlowMore ∨ status = .detectedPressureZero

namespace Controller

/-- A running flow that goes on shows no pressure, or pulses outside the bounds. -/
def FindsFault (now : Nat) (s : Controller) : Prop :=
  ∃ flow, s.FlowRunning flow ∧ ¬ s.FlowDue now flow ∧
    (s.sensorPressureArray 2 = 0 ∨ flow ≠ 5 ∧ s.WindowMissed flow)

/-! ## One look -/

section Look

variable (flow : Fin 6) (s : Controller)

/-- The latch after a flow's turn in the second loop. -/
theorem controlFlowDetect_status : (s.controlFlowDetect flow).faultyDetectionStatus =
    if s.FlowRunning flow then
      if s.sensorPressureArray 2 = 0 then .detectedPressureZero
      else if flow ≠ 5 ∧ s.windowPulses flow < faultyDetectionMinimumPulses then .detectedFlowLess
      else if flow ≠ 5 ∧ faultyDetectionMaximumPulses < s.windowPulses flow then .detectedFlowMore
      else s.faultyDetectionStatus
    else s.faultyDetectionStatus := by
  unfold controlFlowDetect
  by_cases running : s.FlowRunning flow
  · simp only [if_neg running.busy, if_pos running]
    by_cases pressure : s.sensorPressureArray 2 = 0
    · simp only [if_pos pressure]
    · by_cases garden : flow = 5
      · simp [garden, pressure]
      · simp only [if_neg pressure, ne_eq, garden, not_false_eq_true, true_and]
        rfl
  · have idle : (s.controlFlowArray flow).isActive = 0 ∨ (s.controlFlowArray flow).isPause ≠ 0 := by
      unfold FlowRunning FlowActive at running
      grind
    simp only [if_pos idle, if_neg running]

/-- In its turn a running flow latches what it shows; a fault of an earlier turn stays. -/
theorem controlFlowDetect_detected_iff :
    (s.controlFlowDetect flow).faultyDetectionStatus.Detected ↔
      s.faultyDetectionStatus.Detected ∨ s.FlowRunning flow ∧
        (s.sensorPressureArray 2 = 0 ∨ flow ≠ 5 ∧ s.WindowMissed flow) := by
  rw [controlFlowDetect_status]
  unfold FaultyDetectionStatus.Detected WindowMissed
  grind

end Look

section

variable [FlowArithmetic] (now : Nat) (s : Controller)

omit [FlowArithmetic] in
theorem controlFlowSupplementPump_faultyDetectionStatus :
    (s.controlFlowSupplementPump now).faultyDetectionStatus = s.faultyDetectionStatus := by
  rcases controlFlowSupplementPump_cases now s with same | ⟨-, toggled⟩
  · rw [same]
  · rw [toggled, deviceToggle_faultyDetectionStatus]

omit [FlowArithmetic] in
theorem controlFlowWaterValve_faultyDetectionStatus :
    (s.controlFlowWaterValve now).faultyDetectionStatus = s.faultyDetectionStatus := by
  rcases controlFlowWaterValve_cases now s with same | ⟨-, isActive, toggled⟩
  · rw [same]
  · rw [toggled, deviceToggle_faultyDetectionStatus]

/-- The first loop and the two rules after it leave the latch alone. -/
theorem regulated_faultyDetectionStatus :
    (s.regulated now).faultyDetectionStatus = s.faultyDetectionStatus := by
  unfold regulated
  rw [controlFlowWaterValve_faultyDetectionStatus, controlFlowSupplementPump_faultyDetectionStatus]
  refine controlFlowRegulateAll_turns now
    (fun t => t.faultyDetectionStatus = s.faultyDetectionStatus) (fun flow t held => ?_) rfl
  rcases controlFlowRegulate_cases now flow t with same | ⟨-, -, stopped⟩ |
    ⟨-, -, isActive, toggled⟩
  · rw [same]
    exact held
  · rw [stopped, controlFlowStop_faultyDetectionStatus]
    exact held
  · rw [toggled, deviceToggle_faultyDetectionStatus]
    exact held

omit [FlowArithmetic] in
/-- The second loop finds what any flow shows in its turn. -/
theorem detectionLoop_detected_iff :
    ((List.finRange 6).foldl (fun t flow => t.controlFlowDetect flow)
        s).faultyDetectionStatus.Detected ↔
      s.faultyDetectionStatus.Detected ∨ ∃ flow, s.FlowRunning flow ∧
        (s.sensorPressureArray 2 = 0 ∨ flow ≠ 5 ∧ s.WindowMissed flow) := by
  -- The turns still to come find their flows as they were before the loop.
  have turns : ∀ (flows : List (Fin 6)) (t : Controller), flows.Nodup →
      (∀ flow ∈ flows, SameReadings flow s t) →
      ((flows.foldl (fun t flow => t.controlFlowDetect flow) t).faultyDetectionStatus.Detected ↔
        t.faultyDetectionStatus.Detected ∨ ∃ flow ∈ flows, s.FlowRunning flow ∧
          (s.sensorPressureArray 2 = 0 ∨ flow ≠ 5 ∧ s.WindowMissed flow)) := by
    intro flows
    induction flows with
    | nil =>
        intro t _ _
        simp
    | cons flow rest ih =>
        intro t distinct same
        obtain ⟨fresh, distinct⟩ := List.nodup_cons.mp distinct
        have own := same flow List.mem_cons_self
        have window : t.WindowMissed flow ↔ s.WindowMissed flow := by
          unfold WindowMissed windowPulses
          rw [own.record, own.sensors.flows]
        rw [List.foldl_cons, ih (t.controlFlowDetect flow) distinct ?_,
          controlFlowDetect_detected_iff, own.running_iff, own.sensors.pressures, window, or_assoc,
          List.exists_mem_cons_iff]
        intro other listed
        refine (same other (List.mem_cons_of_mem flow listed)).controlFlowDetect s ?_
        rintro rfl
        exact fresh listed
  rw [turns (List.finRange 6) s (List.nodup_finRange 6) fun flow _ => ⟨rfl, .refl s⟩]
  simp

/-- A fault is latched after an update if one was before, or if the look was due and found one. -/
theorem controlFlowUpdate_detected_iff :
    (s.controlFlowUpdate now).faultyDetectionStatus.Detected ↔
      s.faultyDetectionStatus.Detected ∨ s.DetectionDue now ∧ s.FindsFault now := by
  have sensors := regulated_sensors now s
  have shows : ∀ flow, (s.regulated now).FlowRunning flow ∧
      ((s.regulated now).sensorPressureArray 2 = 0 ∨
        flow ≠ 5 ∧ (s.regulated now).WindowMissed flow) ↔
      s.FlowRunning flow ∧ ¬ s.FlowDue now flow ∧
        (s.sensorPressureArray 2 = 0 ∨ flow ≠ 5 ∧ s.WindowMissed flow) := by
    intro flow
    rw [regulated_running, and_assoc]
    refine and_congr_right fun running => and_congr_right fun goesOn => ?_
    have record : (s.regulated now).controlFlowArray flow = s.controlFlowArray flow :=
      (regulated_record now flow s).trans (if_neg fun ended => goesOn ended.2)
    unfold WindowMissed windowPulses
    rw [sensors.pressures, sensors.flows, record]
  rw [controlFlowUpdate_eq, ← sensors.detectionDue_iff]
  unfold controlFlowDetection
  split
  · rename_i due
    dsimp only
    rw [detectionLoop_detected_iff, regulated_faultyDetectionStatus,
      and_iff_right (show (s.regulated now).DetectionDue now from due)]
    exact or_congr Iff.rfl (exists_congr shows)
  · rename_i waiting
    rw [regulated_faultyDetectionStatus]
    exact ⟨.inl, fun found => found.resolve_right fun looked => waiting looked.1⟩

/-- An update that does not look leaves the latch and its clock. -/
theorem controlFlowUpdate_of_waiting (waiting : ¬ s.DetectionDue now) :
    (s.controlFlowUpdate now).faultyDetectionStatus = s.faultyDetectionStatus ∧
      (s.controlFlowUpdate now).faultyDetectionTimeLast = s.faultyDetectionTimeLast := by
  have sensors := regulated_sensors now s
  have waits : ¬ (s.regulated now).DetectionDue now := mt (sensors.detectionDue_iff now).mp waiting
  have same : s.controlFlowUpdate now = s.regulated now :=
    (controlFlowUpdate_eq now s).trans (if_neg waits)
  rw [same]
  exact ⟨regulated_faultyDetectionStatus now s, sensors.timeLast⟩

/-- The other periodic calls leave the latch and its clock too. -/
theorem detection_kept {operation : Operation} (periodic : operation.Periodic)
    (beside : ¬ operation.DrivesMachine) (other : operation ≠ .controlFlowUpdate) :
    (operation.run now s).faultyDetectionStatus = s.faultyDetectionStatus ∧
      (operation.run now s).faultyDetectionTimeLast = s.faultyDetectionTimeLast := by
  cases operation with
  | deviceUpdate =>
      refine ⟨deviceUpdate_faultyDetectionStatus now s, ?_⟩
      change (s.deviceRelease now 0).faultyDetectionTimeLast = _
      unfold deviceRelease
      dsimp only
      split
      · rfl
      · split <;> rfl
  | sensorFlowUpdate =>
      refine ⟨(SensorsOnly.sensorFlowUpdate now s).faultyDetectionStatus, ?_⟩
      change (s.sensorFlowUpdate now).faultyDetectionTimeLast = _
      by_cases waiting : millis now - s.sensorFlowTimeUpdateLast < sensorFlowUpdateInterval
      · exact congrArg faultyDetectionTimeLast (if_pos waiting)
      · rw [sensorFlowUpdate_eq waiting]
  | sensorPressureUpdate readings =>
      refine ⟨(SensorsOnly.sensorPressureUpdate now readings s).faultyDetectionStatus, ?_⟩
      change (s.sensorPressureUpdate now readings).faultyDetectionTimeLast = _
      unfold sensorPressureUpdate
      split <;> rfl
  | sensorInterrupt => exact ⟨rfl, rfl⟩
  | controlFlowUpdate => exact absurd rfl other
  | irrigationUpdate => exact absurd trivial beside
  | _ => exact periodic.elim

end

end Controller

/-! ## Runs -/

section

variable [FlowArithmetic]

/-- No flow is active and no relay is on. -/
structure Dormant (s : Controller) : Prop where
  idle : ∀ flow, ¬ s.FlowActive flow
  off : ∀ device, ¬ s.IsOn device

omit [FlowArithmetic] in
theorem Dormant.of_sensors {s t : Controller} (dormant : Dormant s) (sensors : SensorsOnly s t) :
    Dormant t where
  idle flow := mt (sensors.flowActive_iff flow).mp (dormant.idle flow)
  off device := mt (sensors.isOn_iff device).mp (dormant.off device)

theorem Dormant.controlFlowUpdate {s : Controller} (dormant : Dormant s) (now : Nat) :
    Dormant (s.controlFlowUpdate now) := by
  refine Controller.controlFlowUpdate_preserves now Dormant ?_ ?_ ?_ ?_ ?_ dormant
  · exact fun flow t held running _ => absurd running.1 (held.idle flow)
  · exact fun flow _ t held running _ => absurd running.1 (held.idle flow)
  · rintro t held (active | active | active)
    · exact absurd active (held.idle 1)
    · exact absurd active (held.idle 2)
    · exact absurd active (held.idle 3)
  · rintro _ t held (active | active)
    · exact absurd active (held.idle 1)
    · exact absurd active (held.idle 2)
  · exact fun t u held detection =>
      ⟨fun flow => mt (detection.flowActive_iff flow).mp (held.idle flow),
        fun device => mt (detection.isOn_iff device).mp (held.off device)⟩

/-- The program that ran in `s` is still running, on the flows of `s`. -/
structure OnProgram (s t : Controller) : Prop where
  ready : t.irrigation.status = .ready
  unbroken : t.irrigation.isStopped = 0
  detecting : t.irrigation.isFaultyDetectionActive ≠ 0
  flows : ∀ flow, t.FlowActive flow → s.FlowActive flow

/-- The program has been cut off by a fault, and what else could run a relay was not active. -/
structure CutShort (s t : Controller) : Prop where
  finished : t.irrigation.status = .finished
  fault : ∃ status : FaultyDetectionStatus, status.Detected ∧
    t.irrigation.isStopped = status.number
  dormant : (∀ flow, flow = 0 ∨ flow = 3 ∨ flow = 4 → ¬ s.FlowActive flow) → Dormant t

/-- A fault is latched while the program runs, or has cut it off. -/
def Tripped (s t : Controller) : Prop :=
  (OnProgram s t ∧ t.faultyDetectionStatus.Detected) ∨ CutShort s t

/-- The detection has looked, or had no need to, when the clock stood at `since`, and nothing is
latched. -/
structure Watching (since : Nat) (s t : Controller) : Prop where
  underway : OnProgram s t
  unlatched : t.faultyDetectionStatus = .notDetected
  recent : (millis since - t.faultyDetectionTimeLast).toNat ≤ faultyDetectionTimeInterval.toNat

variable {s t : Controller} {since now : Nat} {operation : Operation}

/-- The periodic calls beside the machine's own keep a program underway. -/
theorem OnProgram.beside (now : Nat) (operation : Operation) (underway : OnProgram s t)
    (periodic : operation.Periodic) (beside : ¬ operation.DrivesMachine) :
    OnProgram s (operation.run now t) := by
  have irrigation := Operation.Periodic.irrigation now t periodic beside
  refine ⟨?_, ?_, ?_, fun flow active => underway.flows flow ?_⟩
  · rw [irrigation]
    exact underway.ready
  · rw [irrigation]
    exact underway.unbroken
  · rw [irrigation]
    exact underway.detecting
  · cases operation with
    | deviceUpdate => exact (deviceUpdate_flowActive now flow t).mp active
    | sensorFlowUpdate => exact ((SensorsOnly.sensorFlowUpdate now t).flowActive_iff flow).mp active
    | sensorPressureUpdate readings =>
        exact ((SensorsOnly.sensorPressureUpdate now readings t).flowActive_iff flow).mp active
    | sensorInterrupt sensor =>
        exact ((SensorsOnly.sensorFlowInterrupt sensor t).flowActive_iff flow).mp active
    | controlFlowUpdate => exact controlFlowUpdate_flowActive now active
    | irrigationUpdate => exact absurd trivial beside
    | _ => exact periodic.elim

theorem CutShort.run (now : Nat) (operation : Operation) (cut : CutShort s t)
    (periodic : operation.Periodic) :
    CutShort s (operation.run now t) := by
  by_cases drives : operation.DrivesMachine
  · cases operation with
    | irrigationUpdate =>
        change CutShort s (t.controlIrrigationTempUpdate now)
        rw [controlIrrigationTempUpdate, cut.finished]
        exact cut
    | start | forceStop | resume => exact periodic.elim
    | _ => exact drives.elim
  · have irrigation := Operation.Periodic.irrigation now t periodic drives
    refine ⟨?_, ?_, fun alone => ?_⟩
    · rw [irrigation]
      exact cut.finished
    · rw [irrigation]
      exact cut.fault
    · have dormant := cut.dormant alone
      cases operation with
      | deviceUpdate =>
          exact ⟨fun flow => mt (deviceUpdate_flowActive now flow t).mp (dormant.idle flow),
            fun device => mt (deviceUpdate_isOn now device t).mp (dormant.off device)⟩
      | sensorFlowUpdate => exact dormant.of_sensors (.sensorFlowUpdate now t)
      | sensorPressureUpdate readings =>
          exact dormant.of_sensors (.sensorPressureUpdate now readings t)
      | sensorInterrupt sensor => exact dormant.of_sensors (.sensorFlowInterrupt sensor t)
      | controlFlowUpdate => exact dormant.controlFlowUpdate now
      | irrigationUpdate => exact absurd trivial drives
      | _ => exact periodic.elim

/-- With a fault latched the next update of the machine cuts the program off. -/
theorem Tripped.update (tripped : Tripped s t) :
    CutShort s (t.controlIrrigationTempUpdate now) := by
  rcases tripped with ⟨underway, detected⟩ | cut
  · have latched : t.faultyDetectionStatus ≠ .notDetected := by
      rcases detected with same | same | same <;> simp [same]
    have faulty : t.IsFaulty := ⟨underway.detecting, latched⟩
    have stops : t.controlIrrigationTempUpdate now = t.controlIrrigationTempForceStop now := by
      unfold controlIrrigationTempUpdate
      rw [underway.ready]
      exact if_pos faulty
    rw [stops]
    refine ⟨by simp, ⟨t.faultyDetectionStatus, detected, ?_⟩, fun alone => ⟨fun flow active => ?_,
      forceStop_isOn now t⟩⟩
    · simp [underway.ready, underway.unbroken, underway.detecting, latched]
    · obtain ⟨first, second, garden, active⟩ := (forceStop_flowActive now t flow).mp active
      have others : ∀ flow : Fin 6, flow ≠ 1 → flow ≠ 2 → flow ≠ 5 →
          flow = 0 ∨ flow = 3 ∨ flow = 4 := by decide
      exact alone flow (others flow first second garden) (underway.flows flow active)
  · exact cut.run now .irrigationUpdate trivial

/-- Nothing periodic forgets a fault before the program is cut off. -/
theorem Tripped.run (now : Nat) (operation : Operation) (tripped : Tripped s t)
    (periodic : operation.Periodic) :
    Tripped s (operation.run now t) := by
  by_cases drives : operation.DrivesMachine
  · cases operation with
    | irrigationUpdate => exact .inr tripped.update
    | start | forceStop | resume => exact periodic.elim
    | _ => exact drives.elim
  · rcases tripped with ⟨underway, detected⟩ | cut
    · refine .inl ⟨underway.beside now operation periodic drives, ?_⟩
      by_cases looks : operation = .controlFlowUpdate
      · rw [looks]
        exact (controlFlowUpdate_detected_iff now t).mpr (.inl detected)
      · rw [(detection_kept now t periodic drives looks).1]
        exact detected
    · exact .inr (cut.run now operation periodic)

/-- While nothing is latched, no stage ends and every look that is due finds a fault. -/
def DryStep (now : Nat) (operation : Operation) (t : Controller) : Prop :=
  operation.Periodic ∧ (¬ t.IsFaulty →
    (operation = .irrigationUpdate → ¬ t.StageOver now) ∧
    (operation = .controlFlowUpdate → t.DetectionDue now → t.FindsFault now))

/-- A dry step goes on watching, or it has found the fault. -/
theorem Watching.run (watching : Watching since s t) (dry : DryStep now operation t) :
    Watching since s (operation.run now t) ∨ Tripped s (operation.run now t) := by
  obtain ⟨periodic, dry⟩ := dry
  obtain ⟨stage, finds⟩ := dry fun faulty => faulty.2 watching.unlatched
  by_cases drives : operation.DrivesMachine
  · cases operation with
    | irrigationUpdate =>
        have same : t.controlIrrigationTempUpdate now = t := by
          unfold controlIrrigationTempUpdate
          rw [watching.underway.ready]
          exact (if_neg fun faulty => faulty.2 watching.unlatched).trans
            (updateProgram_of_running now t (stage rfl))
        change Watching since s (t.controlIrrigationTempUpdate now) ∨ _
        rw [same]
        exact .inl watching
    | start | forceStop | resume => exact periodic.elim
    | _ => exact drives.elim
  · have underway := watching.underway.beside now operation periodic drives
    by_cases looks : operation = .controlFlowUpdate
    · by_cases due : t.DetectionDue now
      · refine .inr (.inl ⟨underway, ?_⟩)
        rw [looks]
        exact (controlFlowUpdate_detected_iff now t).mpr (.inr ⟨due, finds looks due⟩)
      · have kept := controlFlowUpdate_of_waiting now t due
        rw [looks] at underway ⊢
        exact .inl ⟨underway, kept.1.trans watching.unlatched, by
          rw [show (Operation.controlFlowUpdate.run now t).faultyDetectionTimeLast = _ from kept.2]
          exact watching.recent⟩
    · obtain ⟨status, timeLast⟩ := detection_kept now t periodic drives looks
      refine .inl ⟨underway, status.trans watching.unlatched, ?_⟩
      rw [timeLast]
      exact watching.recent

omit [FlowArithmetic] in
/-- A look more than ten seconds later is due, however the counter has wrapped on the way. -/
theorem Watching.due (watching : Watching since s t)
    (late : since + faultyDetectionTimeInterval.toNat < now)
    (close : now + faultyDetectionTimeInterval.toNat < since + Clock.period) :
    t.DetectionDue now := by
  have recent : (Clock.reading since - t.faultyDetectionTimeLast).toNat ≤
      faultyDetectionTimeInterval.toNat := watching.recent
  have age : (Clock.reading now - t.faultyDetectionTimeLast).toNat =
      (Clock.reading since - t.faultyDetectionTimeLast).toNat + (now - since) :=
    Clock.toNat_sub_later (by omega) (by omega)
  change faultyDetectionTimeInterval < Clock.reading now - t.faultyDetectionTimeLast
  rw [UInt32.lt_iff_toNat_lt, age]
  omega

/-- Every step of a dry run from `s` is dry. -/
def dryGuard (s : Controller) (prior : List (Step Operation)) (step : Step Operation) : Prop :=
  DryStep step.now step.operation (controller.after s prior)

/-- The first update of a dry run looks, or has no need to. -/
theorem watching_first {first : Nat} (underway : OnProgram s s)
    (unlatched : s.faultyDetectionStatus = .notDetected)
    (dry : DryStep first .controlFlowUpdate s) :
    Watching first s (s.controlFlowUpdate first) ∨ Tripped s (s.controlFlowUpdate first) := by
  have after : OnProgram s (s.controlFlowUpdate first) :=
    underway.beside _ .controlFlowUpdate trivial id
  by_cases due : s.DetectionDue first
  · have finds := (dry.2 fun faulty => faulty.2 unlatched).2 rfl due
    exact .inr (.inl ⟨after, (controlFlowUpdate_detected_iff first s).mpr (.inr ⟨due, finds⟩)⟩)
  · obtain ⟨status, timeLast⟩ := controlFlowUpdate_of_waiting first s due
    refine .inl ⟨after, status.trans unlatched, ?_⟩
    rw [timeLast]
    exact UInt32.le_iff_toNat_le.mp (UInt32.not_lt.mp due)

/-- What is tripped stays so through every run of the periodic calls. -/
theorem Tripped.runs (tripped : Tripped s t) {later : List (Step Operation)}
    (periodic : ∀ step ∈ later, step.operation.Periodic) :
    Tripped s (controller.after t later) := by
  induction later with
  | nil => exact tripped
  | cons step prior ih =>
      have before := ih fun earlier listed => periodic earlier (List.mem_cons_of_mem step listed)
      exact before.run _ _ (periodic step List.mem_cons_self)

/-- A dry run watches until it has found the fault. -/
theorem watching_along {origin first : Nat} (underway : OnProgram s s)
    (unlatched : s.faultyDetectionStatus = .notDetected) {middle : List (Step Operation)}
    (admitted : Machine.Admitted (dryGuard s) origin (middle ++ [⟨first, .controlFlowUpdate⟩])) :
    Watching first s (controller.after s (middle ++ [⟨first, .controlFlowUpdate⟩])) ∨
      Tripped s (controller.after s (middle ++ [⟨first, .controlFlowUpdate⟩])) := by
  induction middle with
  | nil => exact watching_first underway unlatched admitted.2.2
  | cons step prior ih =>
      obtain ⟨before, -, dry⟩ := admitted
      rcases ih before with watching | tripped
      · exact watching.run dry
      · exact .inr (tripped.run _ _ dry.1)

/-- Dry-run protection: take a running program whose detection is on, and any run of the periodic
calls and interrupts in which every look that is due finds a running flow without pressure or with
too few or too many pulses. When two flow updates lie more than ten seconds apart, the next update
of the machine has cut the program off with the fault as the reason; unless a flow that the
programs do not use was active, every relay is off. -/
theorem dry_run_is_cut (origin first check stop : Nat) (middle later : List (Step Operation))
    (ready : s.irrigation.status = .ready) (unbroken : s.irrigation.isStopped = 0)
    (detecting : s.irrigation.isFaultyDetectionActive ≠ 0)
    (unlatched : s.faultyDetectionStatus = .notDetected)
    (late : first + faultyDetectionTimeInterval.toNat < check)
    (close : check + faultyDetectionTimeInterval.toNat < first + Clock.period)
    (admitted : Machine.Admitted (dryGuard s) origin
      (⟨stop, .irrigationUpdate⟩ :: (later ++ ⟨check, .controlFlowUpdate⟩ ::
        (middle ++ [⟨first, .controlFlowUpdate⟩])))) :
    let t := controller.after s (⟨stop, .irrigationUpdate⟩ :: (later ++
      ⟨check, .controlFlowUpdate⟩ :: (middle ++ [⟨first, .controlFlowUpdate⟩])))
    t.irrigation.status = .finished ∧
      (∃ status : FaultyDetectionStatus, status.Detected ∧
        t.irrigation.isStopped = status.number) ∧
      ((∀ flow, flow = 0 ∨ flow = 3 ∨ flow = 4 → ¬ s.FlowActive flow) →
        ∀ device, ¬ t.IsOn device) := by
  intro t
  have underway : OnProgram s s := ⟨ready, unbroken, detecting, fun _ active => active⟩
  obtain ⟨through, -, -⟩ := admitted
  obtain ⟨watched, -, dry⟩ := through.earlier
  have found : Tripped s (controller.after s (⟨check, .controlFlowUpdate⟩ ::
      (middle ++ [⟨first, .controlFlowUpdate⟩]))) := by
    rcases watching_along underway unlatched watched with watching | tripped
    · have due := watching.due late close
      have sound : ¬ (controller.after s (middle ++ [⟨first, .controlFlowUpdate⟩])).IsFaulty :=
        fun faulty => faulty.2 watching.unlatched
      refine .inl ⟨watching.underway.beside _ .controlFlowUpdate trivial id, ?_⟩
      exact (controlFlowUpdate_detected_iff check _).mpr (.inr ⟨due, (dry.2 sound).2 rfl due⟩)
    · exact tripped.run check .controlFlowUpdate trivial
  have periodic : ∀ step ∈ later, step.operation.Periodic := fun step listed =>
    through.forall_mem (fun _ _ dry => dry.1) step (List.mem_append_left _ listed)
  have held := found.runs periodic
  rw [← Machine.after_append] at held
  have cut : CutShort s t := held.update
  exact ⟨cut.finished, cut.fault, fun alone => (cut.dormant alone).off⟩

end

/-- The first group runs without any pressure: ten seconds later everything is off. -/
theorem dry_run_is_cut_group1 :
    groupRunning.IsOn 1 ∧
      ¬ (controller.after groupRunning
        [⟨19200, .irrigationUpdate⟩, ⟨19100, .controlFlowUpdate⟩, ⟨15000, .irrigationUpdate⟩,
          ⟨9050, .controlFlowUpdate⟩]).IsOn 1 := by
  refine ⟨by decide, ?_⟩
  have dry : Machine.Admitted (dryGuard groupRunning) 9000
      [⟨19200, .irrigationUpdate⟩, ⟨19100, .controlFlowUpdate⟩, ⟨15000, .irrigationUpdate⟩,
        ⟨9050, .controlFlowUpdate⟩] := by
    refine ⟨⟨⟨⟨trivial, by decide, trivial, fun _ => ⟨by simp, fun _ due => ?_⟩⟩, by decide,
      trivial, fun _ => ⟨fun _ ended => ended (by decide), by simp⟩⟩, by decide, trivial,
      fun _ => ⟨by simp, fun _ _ => ?_⟩⟩, by decide, trivial, fun sound => absurd (by decide) sound⟩
    · exact absurd due (by decide)
    · exact ⟨1, by decide, by decide, .inl (by decide)⟩
  have cut := dry_run_is_cut 9000 9050 19100 19200 [⟨15000, .irrigationUpdate⟩] [] (by decide)
    (by decide) (by decide) (by decide) (by decide) (by decide) dry
  exact cut.2.2 (by decide) 1

end BlueberryIrrigation
