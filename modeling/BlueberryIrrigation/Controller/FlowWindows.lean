import BlueberryIrrigation.Controller.FlowStarts

/-!
# The fault windows of the flows

`control_flow_update` runs two loops over all flows, and the turn of a flow reads and writes that
flow's own record alone. `controlFlowUpdate_record` is the whole effect of an update on one flow,
and `setsFlowAlarm_iff` says when the flow's turn in the second loop raises an alarm about its
pulses.
-/

namespace BlueberryIrrigation

open Semantics Controller

namespace Controller

section

variable (now : Nat) (flow : Fin 6) (s : Controller)

/-- The interval after which `control_flow_update` looks for faults is over. -/
def DetectionDue : Prop := millis now - s.faultyDetectionTimeLast > faultyDetectionTimeInterval

instance decidableDetectionDue : Decidable (s.DetectionDue now) :=
  inferInstanceAs (Decidable (_ > _))

/-- `control_flow_update` looks at the pulses of the flow. -/
def Checked : Prop :=
  flow ≠ 5 ∧ s.FlowRunning flow ∧ ¬ s.FlowDue now flow ∧ s.DetectionDue now

instance decidableChecked : Decidable (s.Checked now flow) :=
  inferInstanceAs (Decidable (_ ∧ _ ∧ _ ∧ _))

/-- The record of the flow when all flows have been regulated. -/
def regulatedFlow : ControlFlow :=
  if s.FlowRunning flow ∧ s.FlowDue now flow then
    { s.controlFlowArray flow with isActive := 0, isPause := 0 }
  else s.controlFlowArray flow

/-- The record of the flow after its turn in the detection. -/
def detectedFlow : ControlFlow :=
  if flow ≠ 5 ∧ s.FlowRunning flow then
    { s.controlFlowArray flow with
      pulsesLast := (s.sensorFlowArray (controlFlowSensor flow)).pulsesTotal }
  else s.controlFlowArray flow

end

/-! ## What the turns read -/

/-- The sensors and the clock of the detection are as they were. -/
structure SameSensors (before after : Controller) : Prop where
  flows : after.sensorFlowArray = before.sensorFlowArray
  pressures : after.sensorPressureArray = before.sensorPressureArray
  timeLast : after.faultyDetectionTimeLast = before.faultyDetectionTimeLast

namespace SameSensors

variable {first second third : Controller}

theorem refl (s : Controller) : SameSensors s s := ⟨rfl, rfl, rfl⟩

theorem trans (before : SameSensors first second) (after : SameSensors second third) :
    SameSensors first third :=
  ⟨after.flows.trans before.flows, after.pressures.trans before.pressures,
    after.timeLast.trans before.timeLast⟩

theorem deviceToggle (now : Nat) (device : Fin 15) (isActive : Flag) (s : Controller) :
    SameSensors s (s.deviceToggle now device isActive) := ⟨rfl, rfl, rfl⟩

theorem controlFlowStop (now : Nat) (flow : Fin 6) (s : Controller) :
    SameSensors s (s.controlFlowStop now flow) := by
  unfold Controller.controlFlowStop
  dsimp only
  split
  · split <;> exact ⟨rfl, rfl, rfl⟩
  · exact ⟨rfl, rfl, rfl⟩

theorem controlFlowRegulate [FlowArithmetic] (now : Nat) (flow : Fin 6) (s : Controller) :
    SameSensors s (s.controlFlowRegulate now flow) := by
  rcases controlFlowRegulate_cases now flow s with same | ⟨-, -, stopped⟩ |
    ⟨-, -, isActive, toggled⟩
  · rw [same]
    exact .refl s
  · rw [stopped]
    exact .controlFlowStop now flow s
  · rw [toggled]
    exact .deviceToggle now _ isActive s

theorem controlFlowSupplementPump (now : Nat) (s : Controller) :
    SameSensors s (s.controlFlowSupplementPump now) := by
  rcases controlFlowSupplementPump_cases now s with same | ⟨-, toggled⟩
  · rw [same]
    exact .refl s
  · rw [toggled]
    exact .deviceToggle now 3 1 s

theorem controlFlowWaterValve (now : Nat) (s : Controller) :
    SameSensors s (s.controlFlowWaterValve now) := by
  rcases controlFlowWaterValve_cases now s with same | ⟨-, isActive, toggled⟩
  · rw [same]
    exact .refl s
  · rw [toggled]
    exact .deviceToggle now 9 isActive s

theorem detectionDue_iff (same : SameSensors first second) (now : Nat) :
    second.DetectionDue now ↔ first.DetectionDue now := by
  unfold DetectionDue
  rw [same.timeLast]

end SameSensors

/-- A turn of the flow finds what it found before. -/
structure SameReadings (flow : Fin 6) (before after : Controller) : Prop where
  record : after.controlFlowArray flow = before.controlFlowArray flow
  sensors : SameSensors before after

namespace SameReadings

variable {flow : Fin 6} {first second : Controller}

theorem running_iff (same : SameReadings flow first second) :
    second.FlowRunning flow ↔ first.FlowRunning flow := by
  unfold FlowRunning FlowActive
  rw [same.record]

theorem due_iff (same : SameReadings flow first second) (now : Nat) :
    second.FlowDue now flow ↔ first.FlowDue now flow := by
  unfold FlowDue
  dsimp only
  rw [same.record, same.sensors.flows]

theorem regulatedFlow (same : SameReadings flow first second) (now : Nat) :
    second.regulatedFlow now flow = first.regulatedFlow now flow := by
  unfold Controller.regulatedFlow
  simp only [same.running_iff, same.due_iff, same.record]

theorem detectedFlow (same : SameReadings flow first second) :
    second.detectedFlow flow = first.detectedFlow flow := by
  unfold Controller.detectedFlow
  simp only [same.running_iff, same.record, same.sensors.flows]

end SameReadings

/-! ## The first loop -/

section

variable [FlowArithmetic] (now : Nat) (flow : Fin 6) (s : Controller)

/-- In its own turn a running flow that is due is ended. -/
theorem controlFlowRegulate_own :
    (s.controlFlowRegulate now flow).controlFlowArray flow = s.regulatedFlow now flow := by
  unfold regulatedFlow
  by_cases running : s.FlowRunning flow
  · by_cases due : s.FlowDue now flow
    · rw [if_pos ⟨running, due⟩, controlFlowRegulate_of_due now running due]
      simp
    · rw [if_neg fun met => due met.2]
      rcases controlFlowRegulate_cases now flow s with same | ⟨-, ended, -⟩ |
        ⟨-, -, isActive, toggled⟩
      · rw [same]
      · exact absurd ended due
      · rw [toggled]
        rfl
  · rw [if_neg fun met => running met.1, controlFlowRegulate_of_idle now running]

/-- The state in which `control_flow_update` looks for faults. -/
def regulated : Controller :=
  ((s.controlFlowRegulateAll now).controlFlowSupplementPump now).controlFlowWaterValve now

theorem regulated_sensors : SameSensors s (s.regulated now) := by
  have all : SameSensors s (s.controlFlowRegulateAll now) :=
    controlFlowRegulateAll_turns now (SameSensors s)
      (fun other t same => same.trans (.controlFlowRegulate now other t)) (.refl s)
  have pumped := all.trans (.controlFlowSupplementPump now (s.controlFlowRegulateAll now))
  exact pumped.trans (.controlFlowWaterValve now _)

omit [FlowArithmetic] in
theorem controlFlowSupplementPump_controlFlowArray :
    (s.controlFlowSupplementPump now).controlFlowArray = s.controlFlowArray := by
  rcases controlFlowSupplementPump_cases now s with same | ⟨-, toggled⟩
  · rw [same]
  · rw [toggled]
    rfl

omit [FlowArithmetic] in
theorem controlFlowWaterValve_controlFlowArray :
    (s.controlFlowWaterValve now).controlFlowArray = s.controlFlowArray := by
  rcases controlFlowWaterValve_cases now s with same | ⟨-, isActive, toggled⟩
  · rw [same]
  · rw [toggled]
    rfl

/-- The record of the flow when all flows have had their turn. -/
theorem regulated_record : (s.regulated now).controlFlowArray flow = s.regulatedFlow now flow := by
  unfold regulated
  rw [controlFlowWaterValve_controlFlowArray, controlFlowSupplementPump_controlFlowArray]
  refine controlFlowRegulateAll_reaches now flow (SameReadings flow s)
    (fun t => t.controlFlowArray flow = s.regulatedFlow now flow) ?_ ?_ ?_ ⟨rfl, .refl s⟩
  · intro other t different same
    obtain ⟨record, -⟩ := controlFlowRegulate_other now (Ne.symm different) t
    exact ⟨record.trans same.record,
      same.sensors.trans (.controlFlowRegulate now other t)⟩
  · intro t same
    rw [controlFlowRegulate_own, same.regulatedFlow]
  · intro other t different held
    obtain ⟨record, -⟩ := controlFlowRegulate_other now (Ne.symm different) t
    exact record.trans held

/-- The flows that run on are those that were running and not due. -/
theorem regulated_running :
    (s.regulated now).FlowRunning flow ↔ s.FlowRunning flow ∧ ¬ s.FlowDue now flow := by
  have record := regulated_record now flow s
  unfold FlowRunning FlowActive
  rw [record]
  unfold regulatedFlow
  split
  · rename_i ended
    exact iff_of_false (fun runs => runs.1 rfl) fun runs => runs.2 ended.2
  · rename_i goesOn
    exact ⟨fun runs => ⟨runs, fun due => goesOn ⟨runs, due⟩⟩, And.left⟩

/-! ## The second loop -/

omit [FlowArithmetic] in
theorem controlFlowDetect_other {flow other : Fin 6} (different : other ≠ flow) :
    (s.controlFlowDetect flow).controlFlowArray other = s.controlFlowArray other := by
  unfold controlFlowDetect
  dsimp only
  split
  · rfl
  · split <;> split <;> simp [setFlow, different]

omit [FlowArithmetic] in
theorem controlFlowDetect_own :
    (s.controlFlowDetect flow).controlFlowArray flow = s.detectedFlow flow := by
  by_cases running : s.FlowRunning flow
  · by_cases garden : flow = 5
    · have detected : s.detectedFlow flow = s.controlFlowArray flow :=
        if_neg fun met => met.1 garden
      unfold controlFlowDetect
      simp only [if_neg running.busy, if_pos garden, detected]
      split <;> rfl
    · have detected : s.detectedFlow flow = { s.controlFlowArray flow with
          pulsesLast := (s.sensorFlowArray (controlFlowSensor flow)).pulsesTotal } :=
        if_pos ⟨garden, running⟩
      unfold controlFlowDetect
      simp only [if_neg running.busy, if_neg garden, detected]
      split <;> simp [setFlow]
  · have idle : (s.controlFlowArray flow).isActive = 0 ∨ (s.controlFlowArray flow).isPause ≠ 0 := by
      unfold FlowRunning FlowActive at running
      grind
    have detected : s.detectedFlow flow = s.controlFlowArray flow := if_neg fun met => running met.2
    unfold controlFlowDetect
    simp only [if_pos idle, detected]

omit [FlowArithmetic] in
theorem SameSensors.controlFlowDetect : SameSensors s (s.controlFlowDetect flow) := by
  unfold Controller.controlFlowDetect
  dsimp only
  split
  · exact .refl s
  · split <;> split <;> exact ⟨rfl, rfl, rfl⟩

omit [FlowArithmetic] in
theorem SameReadings.controlFlowDetect {flow other : Fin 6} {t : Controller}
    (same : SameReadings flow s t) (different : other ≠ flow) :
    SameReadings flow s (t.controlFlowDetect other) :=
  ⟨(controlFlowDetect_other t (Ne.symm different)).trans same.record,
    same.sensors.trans (.controlFlowDetect other t)⟩

omit [FlowArithmetic] in
theorem detectionLoop_record :
    ((List.finRange 6).foldl (fun t other => t.controlFlowDetect other) s).controlFlowArray flow =
      s.detectedFlow flow :=
  foldl_reaches (SameReadings flow s) (fun t => t.controlFlowArray flow = s.detectedFlow flow)
    (fun _ _ different same => same.controlFlowDetect s different)
    (fun t same => (controlFlowDetect_own flow t).trans same.detectedFlow)
    (fun t _ different held => (controlFlowDetect_other t (Ne.symm different)).trans held)
    (List.nodup_finRange 6) (List.mem_finRange flow) ⟨rfl, .refl s⟩

omit [FlowArithmetic] in
/-- The record of the flow after the detection. -/
theorem controlFlowDetection_record :
    (s.controlFlowDetection now).controlFlowArray flow =
      if s.DetectionDue now then s.detectedFlow flow else s.controlFlowArray flow := by
  unfold controlFlowDetection
  split
  · rename_i due
    rw [if_pos (show s.DetectionDue now from due), ← detectionLoop_record]
  · rename_i waiting
    rw [if_neg (show ¬ s.DetectionDue now from waiting)]

theorem controlFlowUpdate_eq :
    s.controlFlowUpdate now = (s.regulated now).controlFlowDetection now := by
  unfold controlFlowUpdate regulated
  rfl

/-- What `control_flow_update` leaves of a flow. -/
theorem controlFlowUpdate_record :
    (s.controlFlowUpdate now).controlFlowArray flow =
      if s.Checked now flow then
        { s.controlFlowArray flow with
          pulsesLast := (s.sensorFlowArray (controlFlowSensor flow)).pulsesTotal }
      else s.regulatedFlow now flow := by
  have sensors := regulated_sensors now s
  have record := regulated_record now flow s
  have detected : (s.regulated now).detectedFlow flow =
      if flow ≠ 5 ∧ s.FlowRunning flow ∧ ¬ s.FlowDue now flow then
        { s.regulatedFlow now flow with
          pulsesLast := (s.sensorFlowArray (controlFlowSensor flow)).pulsesTotal }
      else s.regulatedFlow now flow := by
    unfold detectedFlow
    simp only [regulated_running, record, sensors.flows]
  rw [controlFlowUpdate_eq, controlFlowDetection_record, detected, record]
  simp only [sensors.detectionDue_iff]
  by_cases checked : s.Checked now flow
  · obtain ⟨counted, running, goesOn, due⟩ := checked
    have same : s.regulatedFlow now flow = s.controlFlowArray flow :=
      if_neg fun ended => goesOn ended.2
    rw [if_pos due, if_pos ⟨counted, running, goesOn⟩,
      if_pos (show s.Checked now flow from ⟨counted, running, goesOn, due⟩), same]
  · rw [if_neg checked]
    split
    · rename_i due
      exact if_neg fun met => checked ⟨met.1, met.2.1, met.2.2, due⟩
    · rfl

variable {flow s} in
/-- `control_flow_update` pauses no flow. -/
theorem controlFlowUpdate_isPause (unpaused : (s.controlFlowArray flow).isPause = 0) :
    ((s.controlFlowUpdate now).controlFlowArray flow).isPause = 0 := by
  rw [controlFlowUpdate_record]
  unfold regulatedFlow
  split
  · exact unpaused
  · split
    · rfl
    · exact unpaused

/-! ## Alarms -/

/-- The state in which the second loop comes to the flow. -/
def detectionTurn : Controller :=
  ((List.finRange 6).take flow).foldl (fun t other => t.controlFlowDetect other) (s.regulated now)

/-- The body of the second loop sets `DETECTED_FLOW_LESS` or `DETECTED_FLOW_MORE`: one of them is
found after it although nothing was before. -/
def LatchesPulses : Prop :=
  let found := { s with faultyDetectionStatus := .notDetected }.controlFlowDetect flow
  found.faultyDetectionStatus = .detectedFlowLess ∨ found.faultyDetectionStatus = .detectedFlowMore

/-- `control_flow_update` sets `DETECTED_FLOW_LESS` or `DETECTED_FLOW_MORE` in the flow's turn. -/
def SetsFlowAlarm : Prop :=
  (s.regulated now).DetectionDue now ∧ (s.detectionTurn now flow).LatchesPulses flow

/-- The pulses of the flow that the detection compares with its bounds. -/
def windowPulses : UInt32 :=
  (s.sensorFlowArray (controlFlowSensor flow)).pulsesTotal - (s.controlFlowArray flow).pulsesLast

theorem detectionTurn_readings :
    SameReadings flow (s.regulated now) (s.detectionTurn now flow) := by
  have absent : flow ∉ (List.finRange 6).take flow := by
    revert flow
    decide
  refine List.foldlRecOn _ _ ⟨rfl, .refl _⟩ fun t same other listed => ?_
  refine same.controlFlowDetect _ ?_
  rintro rfl
  exact absent listed

/-- The bounds of the fault detection are missed. -/
def WindowMissed : Prop :=
  s.windowPulses flow < faultyDetectionMinimumPulses ∨
    faultyDetectionMaximumPulses < s.windowPulses flow

omit [FlowArithmetic] in
/-- A turn of a flow whose pulses are checked latches what the pulses say. -/
theorem controlFlowDetect_counted (counted : flow ≠ 5) (running : s.FlowRunning flow)
    (pressure : s.sensorPressureArray 2 ≠ 0) :
    s.LatchesPulses flow ↔ s.WindowMissed flow := by
  let found := { s with faultyDetectionStatus := .notDetected }.controlFlowDetect flow
  have status : found.faultyDetectionStatus =
      if s.windowPulses flow < faultyDetectionMinimumPulses then .detectedFlowLess
      else if s.windowPulses flow > faultyDetectionMaximumPulses then .detectedFlowMore
      else .notDetected := by
    unfold found controlFlowDetect
    simp only [if_neg running.busy, if_neg counted]
    rw [if_neg (show ¬ _ = _ from pressure)]
    rfl
  change found.faultyDetectionStatus = _ ∨ found.faultyDetectionStatus = _ ↔ _
  rw [status]
  unfold WindowMissed
  by_cases few : s.windowPulses flow < faultyDetectionMinimumPulses
  · simp [few]
  · by_cases many : s.windowPulses flow > faultyDetectionMaximumPulses <;> simp [few, many]

omit [FlowArithmetic] in
/-- A turn of a flow whose pulses are not checked raises no alarm about them. -/
theorem controlFlowDetect_uncounted (uncounted : ¬ (flow ≠ 5 ∧ s.FlowRunning flow)) :
    ¬ s.LatchesPulses flow := by
  let found := { s with faultyDetectionStatus := .notDetected }.controlFlowDetect flow
  have status : found.faultyDetectionStatus = .notDetected ∨
      found.faultyDetectionStatus = .detectedPressureZero := by
    unfold found controlFlowDetect
    dsimp only
    split
    · exact .inl rfl
    · rename_i busy
      have garden : flow = 5 := by
        unfold FlowRunning FlowActive at uncounted
        grind
      rw [if_pos garden]
      split
      · exact .inr rfl
      · exact .inl rfl
  change ¬ (found.faultyDetectionStatus = _ ∨ found.faultyDetectionStatus = _)
  rcases status with status | status <;> simp [status]

/-- The flow raises an alarm about its pulses in a check that finds too few or too many. -/
theorem setsFlowAlarm_iff (pressure : s.Checked now flow → s.sensorPressureArray 2 ≠ 0) :
    s.SetsFlowAlarm now flow ↔ s.Checked now flow ∧ s.WindowMissed flow := by
  have sensors := regulated_sensors now s
  have turn := detectionTurn_readings now flow s
  have running : (s.detectionTurn now flow).FlowRunning flow ↔
      s.FlowRunning flow ∧ ¬ s.FlowDue now flow := by
    rw [turn.running_iff, regulated_running]
  unfold SetsFlowAlarm
  rw [sensors.detectionDue_iff]
  by_cases checked : s.Checked now flow
  · obtain ⟨counted, runs, goesOn, due⟩ := checked
    have same : s.regulatedFlow now flow = s.controlFlowArray flow :=
      if_neg fun ended => goesOn ended.2
    have pulses : (s.detectionTurn now flow).windowPulses flow = s.windowPulses flow := by
      unfold windowPulses
      rw [turn.sensors.flows, sensors.flows, turn.record, regulated_record, same]
    have reading : (s.detectionTurn now flow).sensorPressureArray 2 ≠ 0 := by
      rw [turn.sensors.pressures, sensors.pressures]
      exact pressure ⟨counted, runs, goesOn, due⟩
    have found := controlFlowDetect_counted flow (s.detectionTurn now flow) counted
      (running.mpr ⟨runs, goesOn⟩) reading
    rw [and_iff_right due, found, and_iff_right (show s.Checked now flow from
      ⟨counted, runs, goesOn, due⟩)]
    unfold WindowMissed
    rw [pulses]
  · refine iff_of_false ?_ fun met => checked met.1
    rintro ⟨due, found⟩
    refine controlFlowDetect_uncounted flow (s.detectionTurn now flow) ?_ found
    rintro ⟨counted, runs⟩
    obtain ⟨runs, goesOn⟩ := running.mp runs
    exact checked ⟨counted, runs, goesOn, due⟩

end
end Controller

/-! ## Checks of a run -/

def Operation.isControlFlowUpdate : Operation → Bool
  | .controlFlowUpdate => true
  | _ => false

theorem Operation.isControlFlowUpdate_iff (operation : Operation) :
    operation.isControlFlowUpdate = true ↔ operation = .controlFlowUpdate := by
  cases operation <;> simp [isControlFlowUpdate]

instance decidableEqControlFlowUpdate (operation : Operation) :
    Decidable (operation = .controlFlowUpdate) :=
  decidable_of_iff _ operation.isControlFlowUpdate_iff

section

variable [FlowArithmetic]

/-- The step is a `control_flow_update` that looks at the pulses of the flow. -/
def ChecksFlow (flow : Fin 6) (prior : List (Step Operation)) (step : Step Operation) : Prop :=
  step.operation = .controlFlowUpdate ∧ (controller.after boot prior).Checked step.now flow

instance decidableChecksFlow (flow : Fin 6) (prior : List (Step Operation))
    (step : Step Operation) : Decidable (ChecksFlow flow prior step) :=
  inferInstanceAs (Decidable (_ ∧ _))

/-- The window of a flow is taken at its starts and its checks. -/
theorem pulsesLast_cons (flow : Fin 6) (prior : List (Step Operation)) (step : Step Operation) :
    ((controller.after boot (step :: prior)).controlFlowArray flow).pulsesLast =
      if StartsFlow flow prior step then 0
      else if ChecksFlow flow prior step then
        ((controller.after boot prior).sensorFlowArray (controlFlowSensor flow)).pulsesTotal
      else ((controller.after boot prior).controlFlowArray flow).pulsesLast := by
  rw [Machine.after_cons]
  change ((step.operation.run step.now (controller.after boot prior)).controlFlowArray
    flow).pulsesLast = _
  by_cases update : step.operation = .controlFlowUpdate
  · have spared : ¬ StartsFlow flow prior step := by
      unfold StartsFlow
      rw [update]
      exact List.not_mem_nil
    have record := controlFlowUpdate_record step.now flow (controller.after boot prior)
    rw [if_neg spared, update]
    change (((controller.after boot prior).controlFlowUpdate step.now).controlFlowArray
      flow).pulsesLast = _
    rw [record]
    by_cases checked : (controller.after boot prior).Checked step.now flow
    · rw [if_pos checked, if_pos (show ChecksFlow flow prior step from ⟨update, checked⟩)]
    · rw [if_neg checked, if_neg fun checks : ChecksFlow flow prior step => checked checks.2]
      unfold regulatedFlow
      split <;> rfl
  · have unchecked : ¬ ChecksFlow flow prior step := fun checks => update checks.1
    cases run_outcome step.now (controller.after boot prior) update flow with
    | starts listed volume time record =>
        rw [if_pos (show StartsFlow flow prior step from listed), record]
        rfl
    | keeps spared record =>
        rw [if_neg (show ¬ StartsFlow flow prior step from spared), if_neg unchecked]
        exact record.last

end

end BlueberryIrrigation
