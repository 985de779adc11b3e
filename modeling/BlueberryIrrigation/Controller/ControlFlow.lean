import BlueberryIrrigation.Controller.Device
import BlueberryIrrigation.Controller.Sensor

/-!
# Control flows (`control_flow.cpp`)

Six flows each drive one relay until their pulses are delivered or their time is up.
The source computes the pulse target and the delivery schedule in floating point; the
two results are a parameter here (`FlowArithmetic`), so what is proved holds for every
rounding, and `exactFlowArithmetic` is the instance over exact rationals.
-/

namespace BlueberryIrrigation

/-- The floating point expressions of `control_flow_start` and `control_flow_update`. -/
class FlowArithmetic where
  /-- `pulses_per_liter / 1000.0 * volume_to_deliver`, converted to `uint32_t`. -/
  pulsesToDeliver (pulsesPerLiter volumeToDeliver : UInt16) : UInt32
  /-- `pulses_to_deliver / (float)time_to_deliver * (elapsed / 1000.0) > pulses_total` -/
  isBehind (pulsesToDeliver : UInt32) (timeToDeliver : UInt16) (elapsed pulsesTotal : UInt32) :
    Bool

/-- The two expressions without rounding, cross-multiplied. -/
instance exactFlowArithmetic : FlowArithmetic where
  pulsesToDeliver pulsesPerLiter volumeToDeliver :=
    UInt32.ofNat (pulsesPerLiter.toNat * volumeToDeliver.toNat / 1000)
  isBehind pulsesToDeliver timeToDeliver elapsed pulsesTotal :=
    decide (pulsesTotal.toNat * (timeToDeliver.toNat * 1000) <
      pulsesToDeliver.toNat * elapsed.toNat)

/-- `CONTROL_FLOW_FAULTY_DETECTION_MINIMUM_PULSES` -/
def faultyDetectionMinimumPulses : UInt32 := 100

/-- `CONTROL_FLOW_FAULTY_DETECTION_MAXIMUM_PULSES` -/
def faultyDetectionMaximumPulses : UInt32 := 1000

/-- `CONTROL_FLOW_FAULTY_DETECTION_TIME_INTERVAL` -/
def faultyDetectionTimeInterval : UInt32 := 10000

/-- `control_flow_array[flow].device`, as `control_flow_init` sets it: 0 well, 1 micro,
2 macro, 3 water, 4 click, 5 garden. -/
def controlFlowDevice : Fin 6 → Fin 15
  | 0 => 1
  | 1 => 7
  | 2 => 8
  | 3 => 9
  | 4 => 6
  | 5 => 13

/-- Every control flow drives a relay of its own. -/
theorem controlFlowDevice_ne {flow other : Fin 6} (different : flow ≠ other) :
    controlFlowDevice flow ≠ controlFlowDevice other := by
  revert flow other
  decide

/-- No control flow drives the generator. -/
theorem controlFlowDevice_ne_zero (flow : Fin 6) : controlFlowDevice flow ≠ 0 := by
  revert flow
  decide

/-- Only the well's own flow drives the well pump. -/
theorem controlFlowDevice_ne_one {flow : Fin 6} (other : flow ≠ 0) :
    controlFlowDevice flow ≠ 1 := by
  revert flow
  decide

/-- No control flow drives the acid pump. -/
theorem controlFlowDevice_ne_two (flow : Fin 6) : (2 : Fin 15) ≠ controlFlowDevice flow := by
  revert flow
  decide

/-- `control_flow_array[flow].sensor_flow`; the well and the garden share a sensor. -/
def controlFlowSensor : Fin 6 → Fin 5
  | 0 => 0
  | 1 => 1
  | 2 => 2
  | 3 => 3
  | 4 => 4
  | 5 => 0

namespace Controller

def setFlow (flow : Fin 6) (value : ControlFlow) (s : Controller) : Controller :=
  { s with controlFlowArray := Function.update s.controlFlowArray flow value }

/-- `control_flow_start(&control_flow_array[flow], volume_to_deliver, time_to_deliver)` -/
def controlFlowStart [FlowArithmetic] (now : Nat) (flow : Fin 6)
    (volumeToDeliver timeToDeliver : UInt16) (s : Controller) : Controller :=
  let sensor := s.sensorFlowArray (controlFlowSensor flow)
  let started := s.setFlow flow
    { s.controlFlowArray flow with
      pulsesLast := 0
      pulsesToDeliver := FlowArithmetic.pulsesToDeliver sensor.pulsesPerLiter volumeToDeliver
      timeToDeliver := timeToDeliver
      timeStart := millis now
      isActive := 1
      isPause := 0 }
  { started.setSensor (controlFlowSensor flow) { sensor with pulsesTotal := 0 } with
    faultyDetectionTimeLast := millis now
    faultyDetectionStatus := .notDetected }

/-- `control_flow_stop(&control_flow_array[flow])`. When the last supplement flow stops,
the supplement pump and the water valve go off with it. -/
def controlFlowStop (now : Nat) (flow : Fin 6) (s : Controller) : Controller :=
  let toggled := s.deviceToggle now (controlFlowDevice flow) 0
  let stopped := toggled.setFlow flow { s.controlFlowArray flow with isActive := 0, isPause := 0 }
  if controlFlowSensor flow = 1 ∨ controlFlowSensor flow = 2 ∨ controlFlowSensor flow = 3 then
    if ¬ stopped.FlowActive 1 ∧ ¬ stopped.FlowActive 2 ∧ ¬ stopped.FlowActive 3 then
      (stopped.deviceToggle now 3 0).deviceToggle now 9 0
    else stopped
  else stopped

/-- `control_flow_pause(&control_flow_array[flow], is_pause)` -/
def controlFlowPause (now : Nat) (flow : Fin 6) (isPause : Flag) (s : Controller) : Controller :=
  let paused := s.controlFlowArray flow
  if isPause ≠ 0 then
    (s.deviceToggle now (controlFlowDevice flow) 0).setFlow flow
      { paused with timePause := millis now, isPause := isPause }
  else
    s.setFlow flow
      { paused with timeStart := paused.timeStart + (millis now - paused.timePause)
                    isPause := isPause }

/-- The test with which `control_flow_update` ends a flow: its pulses are delivered or
its time is up, where a zero target is no limit. -/
def FlowDue (now : Nat) (flow : Fin 6) (s : Controller) : Prop :=
  let running := s.controlFlowArray flow
  (running.pulsesToDeliver ≠ 0 ∧
      running.pulsesToDeliver ≤ (s.sensorFlowArray (controlFlowSensor flow)).pulsesTotal) ∨
    (running.timeToDeliver ≠ 0 ∧
      running.timeToDeliver.toUInt32 * 1000 ≤ millis now - running.timeStart)

instance (now : Nat) (flow : Fin 6) (s : Controller) : Decidable (s.FlowDue now flow) :=
  inferInstanceAs (Decidable (_ ∨ _))

/-- `time_to_deliver * 1000LU` does not wrap. -/
theorem toNat_limit (timeToDeliver : UInt16) :
    (timeToDeliver.toUInt32 * 1000).toNat = timeToDeliver.toNat * 1000 := by
  have small := UInt16.toNat_lt timeToDeliver
  rw [UInt32.toNat_mul, UInt16.toNat_toUInt32]
  exact Nat.mod_eq_of_lt (by simp; omega)

/-- The body of the first loop of `control_flow_update`. -/
def controlFlowRegulate [FlowArithmetic] (now : Nat) (flow : Fin 6) (s : Controller) :
    Controller :=
  let running := s.controlFlowArray flow
  let device := controlFlowDevice flow
  if running.isActive = 0 ∨ running.isPause ≠ 0 then s
  else if s.FlowDue now flow then s.controlFlowStop now flow
  else if running.pulsesToDeliver = 0 ∨ running.timeToDeliver = 0 then
    if s.deviceIsTimeSwitchMinimumPassed now device = true ∧ ¬ s.IsOn device then
      s.deviceToggle now device 1
    else s
  else if FlowArithmetic.isBehind running.pulsesToDeliver running.timeToDeliver
      (millis now - running.timeStart)
      (s.sensorFlowArray (controlFlowSensor flow)).pulsesTotal = true then
    if s.deviceIsTimeSwitchMinimumPassed now device = true ∧ ¬ s.IsOn device then
      s.deviceToggle now device 1
    else s
  else if s.deviceIsTimeSwitchMinimumPassed now device = true ∧ s.IsOn device then
    s.deviceToggle now device 0
  else s

/-- The first loop of `control_flow_update`. -/
def controlFlowRegulateAll [FlowArithmetic] (now : Nat) (s : Controller) : Controller :=
  (List.finRange 6).foldl (fun s flow => s.controlFlowRegulate now flow) s

/-- The supplement pump runs while a supplement flow is active. -/
def controlFlowSupplementPump (now : Nat) (s : Controller) : Controller :=
  if s.FlowActive 1 ∨ s.FlowActive 2 ∨ s.FlowActive 3 then
    if ¬ s.IsOn 3 ∧ s.deviceIsTimeSwitchMinimumPassed now 3 = true then s.deviceToggle now 3 1
    else s
  else s

/-- Plain water flows through the supplement line while both supplement valves are closed. -/
def controlFlowWaterValve (now : Nat) (s : Controller) : Controller :=
  if s.FlowActive 1 ∨ s.FlowActive 2 then
    if ¬ s.IsOn (controlFlowDevice 1) ∧ ¬ s.IsOn (controlFlowDevice 2) then
      if ¬ s.IsOn 9 ∧ s.deviceIsTimeSwitchMinimumPassed now 9 = true then s.deviceToggle now 9 1
      else s
    else if ¬ s.FlowActive 3 then
      if s.IsOn 9 ∧ s.deviceIsTimeSwitchMinimumPassed now 9 = true then s.deviceToggle now 9 0
      else s
    else s
  else s

/-- The body of the fault detection loop of `control_flow_update`. -/
def controlFlowDetect (flow : Fin 6) (s : Controller) : Controller :=
  let running := s.controlFlowArray flow
  if running.isActive = 0 ∨ running.isPause ≠ 0 then s
  else
    let total := (s.sensorFlowArray (controlFlowSensor flow)).pulsesTotal
    -- The garden flow is not checked for its pulses.
    let counted : Controller :=
      if flow = 5 then s
      else
        { s.setFlow flow { running with pulsesLast := total } with
          faultyDetectionStatus :=
            if total - running.pulsesLast < faultyDetectionMinimumPulses then .detectedFlowLess
            else if total - running.pulsesLast > faultyDetectionMaximumPulses then
              .detectedFlowMore
            else s.faultyDetectionStatus }
    if s.sensorPressureArray 2 = 0 then
      { counted with faultyDetectionStatus := .detectedPressureZero }
    else counted

/-- The fault detection at the end of `control_flow_update`. -/
def controlFlowDetection (now : Nat) (s : Controller) : Controller :=
  if millis now - s.faultyDetectionTimeLast > faultyDetectionTimeInterval then
    let detected := (List.finRange 6).foldl (fun s flow => s.controlFlowDetect flow) s
    { detected with faultyDetectionTimeLast := millis now }
  else s

/-- `control_flow_update()` -/
def controlFlowUpdate [FlowArithmetic] (now : Nat) (s : Controller) : Controller :=
  (((s.controlFlowRegulateAll now).controlFlowSupplementPump now).controlFlowWaterValve
    now).controlFlowDetection now

end Controller
end BlueberryIrrigation
