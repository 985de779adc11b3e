import BlueberryIrrigation.Controller.FlowWindows

/-!
# Schedules and alarms

`control_flow_update` regulates a flow with a pulse target and a time limit to a constant rate, and
the fault detection of the same function asks for a fixed number of pulses between two checks. A
flow that is on its schedule at every check raises an alarm exactly when the schedule itself has too
few or too many pulses for the window between two checks.
-/

namespace BlueberryIrrigation

open Semantics Controller

/-- The largest pulse target: 65535 ml at 65535 pulses per litre. -/
def pulsesToDeliverMax : Nat := 4294836

namespace Controller

/-- The pulses of the flow's schedule up to now: the target times the elapsed part of the limit. -/
def scheduledPulses (now : Nat) (flow : Fin 6) (s : Controller) : Nat :=
  let running := s.controlFlowArray flow
  running.pulsesToDeliver.toNat * (millis now - running.timeStart).toNat /
    (running.timeToDeliver.toNat * 1000)

/-- The flow has a target and a limit that is not over, exactly the pulses of its schedule, and
pressure. -/
structure OnSchedule (now : Nat) (flow : Fin 6) (s : Controller) : Prop where
  target : (s.controlFlowArray flow).pulsesToDeliver ≠ 0
  limit : (s.controlFlowArray flow).timeToDeliver ≠ 0
  lasts : (millis now - (s.controlFlowArray flow).timeStart).toNat <
    (s.controlFlowArray flow).timeToDeliver.toNat * 1000
  pulses : (s.sensorFlowArray (controlFlowSensor flow)).pulsesTotal.toNat =
    s.scheduledPulses now flow
  pressure : s.sensorPressureArray 2 ≠ 0

/-- The schedule stays below the target until the limit. -/
theorem OnSchedule.below {now : Nat} {flow : Fin 6} {s : Controller}
    (onSchedule : s.OnSchedule now flow) :
    s.scheduledPulses now flow ≤ (s.controlFlowArray flow).pulsesToDeliver.toNat := by
  have most : (s.controlFlowArray flow).pulsesToDeliver.toNat *
      (millis now - (s.controlFlowArray flow).timeStart).toNat ≤
        (s.controlFlowArray flow).pulsesToDeliver.toNat *
          ((s.controlFlowArray flow).timeToDeliver.toNat * 1000) :=
    Nat.mul_le_mul_left _ onSchedule.lasts.le
  exact Nat.div_le_of_le_mul (by rwa [Nat.mul_comm (_ * 1000)])

/-- Between pulse counts that a target can have, the bounds are missed as in the integers. -/
theorem windowMissed_iff {flow : Fin 6} {s : Controller} {last total : Nat}
    (window : (s.controlFlowArray flow).pulsesLast.toNat = last)
    (pulses : (s.sensorFlowArray (controlFlowSensor flow)).pulsesTotal.toNat = total)
    (lastFits : last ≤ pulsesToDeliverMax) (totalFits : total ≤ pulsesToDeliverMax) :
    s.WindowMissed flow ↔ ¬ (last + 100 ≤ total ∧ total ≤ last + 1000) := by
  have minimum : faultyDetectionMinimumPulses.toNat = 100 := rfl
  have maximum : faultyDetectionMaximumPulses.toNat = 1000 := rfl
  have bound : pulsesToDeliverMax = 4294836 := rfl
  unfold WindowMissed windowPulses
  rw [UInt32.lt_iff_toNat_lt, UInt32.lt_iff_toNat_lt, UInt32.toNat_sub, window, pulses, minimum,
    maximum]
  omega

end Controller

/-! ## Targets -/

/-- A start asks for no more than the largest target. -/
theorem pulsesToDeliver_le (pulsesPerLiter volume : UInt16) :
    (FlowArithmetic.pulsesToDeliver pulsesPerLiter volume).toNat ≤ pulsesToDeliverMax := by
  have product : pulsesPerLiter.toNat * volume.toNat ≤ 65535 * 65535 :=
    Nat.mul_le_mul (Nat.le_of_lt_succ pulsesPerLiter.toNat_lt)
      (Nat.le_of_lt_succ volume.toNat_lt)
  change (UInt32.ofNat (pulsesPerLiter.toNat * volume.toNat / 1000)).toNat ≤ 4294836
  rw [UInt32.toNat_ofNat']
  exact (Nat.mod_le _ _).trans (by omega)

/-- No flow ever has a larger target. -/
theorem target_le (flow : Fin 6) (history : List (Step Operation)) :
    ((controller.after boot history).controlFlowArray flow).pulsesToDeliver.toNat ≤
      pulsesToDeliverMax := by
  induction history with
  | nil => exact Nat.zero_le _
  | cons step prior ih =>
      rw [Machine.after_cons]
      change ((step.operation.run step.now (controller.after boot prior)).controlFlowArray
        flow).pulsesToDeliver.toNat ≤ _
      by_cases starts : flow ∈ step.operation.flowsStarted step.now (controller.after boot prior)
      · have other : step.operation ≠ .controlFlowUpdate := by
          intro update
          rw [update] at starts
          exact absurd starts List.not_mem_nil
        cases run_outcome step.now (controller.after boot prior) other flow with
        | starts _ volume time record =>
            rw [record]
            exact pulsesToDeliver_le _ volume
        | keeps spared => exact absurd starts spared
      · rw [(run_target step.now (controller.after boot prior) starts).1]
        exact ih

/-! ## Checks of a run -/

/-- The pulses that the schedule had at the flow's last check, or none since its start. -/
def scheduledAtLast (flow : Fin 6) : List (Step Operation) → Nat
  | [] => 0
  | step :: prior =>
      if StartsFlow flow prior step then 0
      else if ChecksFlow flow prior step then
        (controller.after boot prior).scheduledPulses step.now flow
      else scheduledAtLast flow prior

/-- Every check finds the flow on its schedule. -/
def onScheduleAtChecks (flow : Fin 6) (prior : List (Step Operation)) (step : Step Operation) :
    Prop :=
  ChecksFlow flow prior step → (controller.after boot prior).OnSchedule step.now flow

/-- The step raises no alarm about the pulses of the flow. -/
def raisesNoAlarm (flow : Fin 6) (prior : List (Step Operation)) (step : Step Operation) : Prop :=
  step.operation = .controlFlowUpdate → ¬ (controller.after boot prior).SetsFlowAlarm step.now flow

/-- From the last check to this one the schedule has as many pulses as the detection asks for. -/
def scheduleFillsWindow (flow : Fin 6) (prior : List (Step Operation)) (step : Step Operation) :
    Prop :=
  ChecksFlow flow prior step →
    scheduledAtLast flow prior + 100 ≤
        (controller.after boot prior).scheduledPulses step.now flow ∧
      (controller.after boot prior).scheduledPulses step.now flow ≤
        scheduledAtLast flow prior + 1000

/-- The window of a flow begins at a count of its schedule. -/
structure WindowOnSchedule (flow : Fin 6) (history : List (Step Operation)) : Prop where
  last : ((controller.after boot history).controlFlowArray flow).pulsesLast.toNat =
    scheduledAtLast flow history
  fits : scheduledAtLast flow history ≤ pulsesToDeliverMax

theorem WindowOnSchedule.step {flow : Fin 6} {prior : List (Step Operation)}
    {step : Step Operation} (window : WindowOnSchedule flow prior)
    (onSchedule : onScheduleAtChecks flow prior step) :
    WindowOnSchedule flow (step :: prior) := by
  have last := pulsesLast_cons flow prior step
  by_cases starts : StartsFlow flow prior step
  · rw [if_pos starts] at last
    refine ⟨?_, ?_⟩ <;> rw [scheduledAtLast, if_pos starts]
    · rw [last]
      rfl
    · exact Nat.zero_le _
  · rw [if_neg starts] at last
    by_cases checks : ChecksFlow flow prior step
    · have found := onSchedule checks
      rw [if_pos checks] at last
      refine ⟨?_, ?_⟩ <;> rw [scheduledAtLast, if_neg starts, if_pos checks]
      · rw [last, found.pulses]
      · exact found.below.trans (target_le flow prior)
    · rw [if_neg checks] at last
      refine ⟨?_, ?_⟩ <;> rw [scheduledAtLast, if_neg starts, if_neg checks]
      · rw [last, window.last]
      · exact window.fits

/-- A check on schedule raises an alarm exactly if the schedule does not fill its window. -/
theorem WindowOnSchedule.alarm_iff {flow : Fin 6} {prior : List (Step Operation)}
    {step : Step Operation} (window : WindowOnSchedule flow prior)
    (onSchedule : onScheduleAtChecks flow prior step) :
    raisesNoAlarm flow prior step ↔ scheduleFillsWindow flow prior step := by
  unfold raisesNoAlarm scheduleFillsWindow
  by_cases checks : ChecksFlow flow prior step
  · have found := onSchedule checks
    have missed := windowMissed_iff window.last found.pulses window.fits
      (found.below.trans (target_le flow prior))
    rw [setsFlowAlarm_iff step.now flow _ fun _ => found.pressure, missed]
    simp [checks, checks.1, checks.2]
  · refine iff_of_true ?_ fun other => absurd other checks
    intro update alarm
    have unchecked : ¬ (controller.after boot prior).Checked step.now flow :=
      fun checked => checks ⟨update, checked⟩
    have found :=
      (setsFlowAlarm_iff step.now flow _ fun checked => absurd checked unchecked).mp alarm
    exact unchecked found.1

theorem windowOnSchedule {flow : Fin 6} {history : List (Step Operation)}
    (healthy : Machine.Admitted (onScheduleAtChecks flow) setupTime history) :
    WindowOnSchedule flow history :=
  healthy.along _ ⟨rfl, Nat.zero_le _⟩ fun _ _ _ window _ onSchedule => window.step onSchedule

/-- A flow that every check finds on its schedule raises no alarm in a run exactly if the schedule
fills the window of each check. -/
theorem healthy_schedule_alarms {flow : Fin 6} {history : List (Step Operation)}
    (healthy : Machine.Admitted (onScheduleAtChecks flow) setupTime history) :
    Machine.Admitted (raisesNoAlarm flow) setupTime history ↔
      Machine.Admitted (scheduleFillsWindow flow) setupTime history := by
  induction history with
  | nil => exact Iff.rfl
  | cons step prior ih =>
      obtain ⟨before, _, onSchedule⟩ := healthy
      exact and_congr (ih before)
        (and_congr_right fun _ => (windowOnSchedule before).alarm_iff onSchedule)

/-! ## Two deliveries -/

/-- Flow 1 is to deliver this volume in this time, and its sensor has counted so many pulses. -/
def counting (volume time : UInt16) (pulses : Nat) : List (Step Operation) :=
  List.replicate pulses ⟨14000, .sensorInterrupt 1⟩ ++
    [⟨6000, .sensorPressureUpdate fun _ => 500⟩, ⟨5000, .flowStart 1 volume time⟩]

/-- The flow is checked after ten seconds. -/
def tenSeconds (volume time : UInt16) (pulses : Nat) : List (Step Operation) :=
  ⟨15001, .controlFlowUpdate⟩ :: ⟨15000, .sensorFlowUpdate⟩ :: counting volume time pulses

/-- The last step is the only check. -/
theorem admitted_tenSeconds {guard : List (Step Operation) → Step Operation → Prop}
    {volume time : UInt16} {pulses : Nat}
    (passes : ∀ prior step, step.operation ≠ .controlFlowUpdate → guard prior step)
    (check : guard (tenSeconds volume time pulses).tail ⟨15001, .controlFlowUpdate⟩) :
    Machine.Admitted guard setupTime (tenSeconds volume time pulses) := by
  have counted (pulses : Nat) : Machine.Admitted guard setupTime (counting volume time pulses) ∧
      Machine.lastTime setupTime (counting volume time pulses) ≤ 14000 := by
    induction pulses with
    | zero =>
        exact ⟨⟨⟨trivial, by simp [setupTime], passes _ _ (by simp)⟩, by simp,
          passes _ _ (by simp)⟩, by simp [counting]⟩
    | succ pulses ih => exact ⟨⟨ih.1, ih.2, passes _ _ (by simp)⟩, le_rfl⟩
  obtain ⟨admitted, ordered⟩ := counted pulses
  exact ⟨⟨admitted, ordered.trans (by simp), passes _ _ (by simp)⟩, by simp, check⟩

set_option maxRecDepth 2048 in
/-- Five litres in 47 minutes and a half make a hundred pulses in ten seconds. -/
theorem healthy_schedule_alarms_hundred :
    Machine.Admitted (raisesNoAlarm 1) setupTime (tenSeconds 5000 2850 100) :=
  (healthy_schedule_alarms
      (admitted_tenSeconds (fun _ _ other checks => absurd checks.1 other)
        fun _ => ⟨by decide, by decide, by decide, by decide, by decide⟩)).mpr
    (admitted_tenSeconds (fun _ _ other checks => absurd checks.1 other)
      fun _ => ⟨by decide, by decide⟩)

/-- A litre in an hour is too slow for the detection: it raises an alarm at the first check although
the flow has exactly the pulses of its schedule. -/
theorem healthy_schedule_alarmed :
    let s := controller.after boot (tenSeconds 1000 3600 15).tail
    Machine.Admitted (onScheduleAtChecks 1) setupTime (tenSeconds 1000 3600 15) ∧
      s.SetsFlowAlarm 15001 1 ∧
      (s.controlFlowUpdate 15001).faultyDetectionStatus = .detectedFlowLess := by
  intro s
  refine ⟨?_, ?_, by decide⟩
  · exact admitted_tenSeconds (fun _ _ other checks => absurd checks.1 other)
      fun _ => ⟨by decide, by decide, by decide, by decide, by decide⟩
  · exact (setsFlowAlarm_iff 15001 1 s fun _ => by decide).mpr ⟨by decide, .inl (by decide)⟩

end BlueberryIrrigation
