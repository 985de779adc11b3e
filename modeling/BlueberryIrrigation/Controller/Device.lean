import Mathlib.Data.List.FinRange
import BlueberryIrrigation.Controller.State

/-!
# Relays (`device.cpp`, `control_safety.cpp`)

`device_toggle` writes one relay and its bookkeeping, and nothing else: the frame
lemmas below are what every later module knows about it. `Untouched` packages the
frame of a single relay so that longer functions can be framed by composition.
-/

namespace BlueberryIrrigation

/-- `DEVICE_RELAY_ON`, which is `FALSE`: the relay boards are active low. -/
def deviceRelayOn : UInt8 := 0

/-- `DEVICE_RELAY_OFF`, which is `!DEVICE_RELAY_ON`. -/
def deviceRelayOff : UInt8 := 1

namespace Controller

/-- The pin writes of `device_toggle`, newest first. An extended device is driven by two
relays: a hold that is still running is released before the relay of the requested side
is energised. -/
def relayWrites (device : Device) (isActive : Flag) (s : Controller) : List Event :=
  match device.deviceExtension with
  | some index =>
      let extension := s.deviceExtensionArray index
      let pinOf (isActive : Flag) := if isActive ≠ 0 then device.pin else extension.pin
      .digitalWrite (pinOf isActive) deviceRelayOn ::
        if extension.isHold ≠ 0 then [.digitalWrite (pinOf device.isActive) deviceRelayOff] else []
  | none => [.digitalWrite device.pin (if isActive ≠ 0 then deviceRelayOn else deviceRelayOff)]

/-- The extension table after `device_toggle`: an extended device (re)starts its hold. -/
def relayHold (now : Nat) (device : Device) (s : Controller) :
    Fin 1 → DeviceExtension :=
  match device.deviceExtension with
  | some index =>
      let extension := s.deviceExtensionArray index
      Function.update s.deviceExtensionArray index
        { extension with
          isHold := if extension.isHold ≠ 0 then extension.isHold else 1
          timeSwitchHoldLast := millis now }
  | none => s.deviceExtensionArray

/-- `device_toggle(&device_array[device], is_active)` -/
def deviceToggle (now : Nat) (device : Fin 15) (isActive : Flag)
    (s : Controller) : Controller :=
  let toggled := s.deviceArray device
  { s with
    deviceExtensionArray := s.relayHold now toggled
    deviceArray := Function.update s.deviceArray device
      { toggled with timeSwitchLast := millis now, isActive := isActive }
    trace := (now, .deviceToggle device isActive) ::
      (s.relayWrites toggled isActive).map (fun event => (now, event)) ++ s.trace }

/-- `device_is_time_switch_minimum_passed(&device_array[device])` -/
def deviceIsTimeSwitchMinimumPassed (now : Nat) (device : Fin 15)
    (s : Controller) : Bool :=
  ! decide (millis now - (s.deviceArray device).timeSwitchLast <
    (s.deviceArray device).timeSwitchMinimum.toUInt32 * 100)

/-- The body of the loop in `device_update`, for one extension. -/
def deviceRelease (now : Nat) (index : Fin 1)
    (s : Controller) : Controller :=
  let extension := s.deviceExtensionArray index
  let device := s.deviceArray (s.deviceExtendedArray index)
  if extension.isHold = 0 then s
  else if millis now - extension.timeSwitchHoldLast <
      extension.timeSwitchHoldMinimum.toUInt32 * 100 then s
  else
    { s with
      trace := (now, .digitalWrite (if device.isActive ≠ 0 then device.pin else extension.pin)
        deviceRelayOff) :: s.trace
      deviceExtensionArray := Function.update s.deviceExtensionArray index
        { extension with isHold := 0 } }

/-- `device_update()` -/
def deviceUpdate (now : Nat) (s : Controller) : Controller :=
  (List.finRange 1).foldl (fun s index => s.deviceRelease now index) s

/-- `control_safety_devices_stop()`, which counts down from the last device. -/
def controlSafetyDevicesStop (now : Nat) (s : Controller) : Controller :=
  (List.finRange 15).foldr (fun device s => s.deviceToggle now device 0) s

/-! ## What `device_toggle` writes -/

section

variable (now : Nat) (device : Fin 15) (isActive : Flag) (s : Controller)

@[simp] theorem deviceToggle_sensorFlowArray :
    (s.deviceToggle now device isActive).sensorFlowArray = s.sensorFlowArray := rfl

@[simp] theorem deviceToggle_sensorPressureArray :
    (s.deviceToggle now device isActive).sensorPressureArray = s.sensorPressureArray := rfl

@[simp] theorem deviceToggle_controlFlowArray :
    (s.deviceToggle now device isActive).controlFlowArray = s.controlFlowArray := rfl

@[simp] theorem deviceToggle_faultyDetectionStatus :
    (s.deviceToggle now device isActive).faultyDetectionStatus = s.faultyDetectionStatus := rfl

@[simp] theorem deviceToggle_faultyDetectionTimeLast :
    (s.deviceToggle now device isActive).faultyDetectionTimeLast = s.faultyDetectionTimeLast := rfl

@[simp] theorem deviceToggle_irrigation :
    (s.deviceToggle now device isActive).irrigation = s.irrigation := rfl

@[simp] theorem deviceToggle_flowActive (flow : Fin 6) :
    (s.deviceToggle now device isActive).FlowActive flow ↔ s.FlowActive flow := Iff.rfl

theorem deviceToggle_deviceArray_of_ne {other : Fin 15} (different : other ≠ device) :
    (s.deviceToggle now device isActive).deviceArray other = s.deviceArray other :=
  Function.update_of_ne different _ _

@[simp] theorem deviceToggle_isOn (other : Fin 15) :
    (s.deviceToggle now device isActive).IsOn other ↔
      if other = device then isActive ≠ 0 else s.IsOn other := by
  by_cases same : other = device
  · subst same
    simp [IsOn, deviceToggle]
  · simp [IsOn, deviceToggle, same]

/-- A relay that is switched off is off, and the others are as before. -/
theorem deviceToggle_off_isOn (other : Fin 15) :
    (s.deviceToggle now device 0).IsOn other ↔ other ≠ device ∧ s.IsOn other := by
  rw [deviceToggle_isOn]
  split
  · rename_i same
    simp [same]
  · rename_i different
    simp [different]

end

end Controller

/-- Pin writes are not toggles. -/
theorem lastToggle_relayWrites (watched : Fin 15) (on : Bool) (now : Nat)
    (device : Device) (isActive : Flag) (s : Controller) (trace : List (Nat × Event)) :
    lastToggle watched on
      ((s.relayWrites device isActive).map (fun event => (now, event)) ++ trace) =
      lastToggle watched on trace := by
  unfold Controller.relayWrites
  cases device.deviceExtension with
  | none => rfl
  | some index =>
      by_cases held : (s.deviceExtensionArray index).isHold = 0 <;> simp [held, lastToggle]

theorem stagesBegun_relayWrites (now : Nat) (device : Device) (isActive : Flag) (s : Controller)
    (trace : List (Nat × Event)) :
    stagesBegun ((s.relayWrites device isActive).map (fun event => (now, event)) ++ trace) =
      stagesBegun trace := by
  unfold Controller.relayWrites
  cases device.deviceExtension with
  | none => rfl
  | some index =>
      by_cases held : (s.deviceExtensionArray index).isHold = 0 <;> simp [held, stagesBegun]

namespace Controller

@[simp] theorem deviceToggle_stagesBegun (now : Nat) (device : Fin 15) (isActive : Flag)
    (s : Controller) :
    stagesBegun (s.deviceToggle now device isActive).trace = stagesBegun s.trace := by
  simp only [deviceToggle, List.cons_append, stagesBegun, stagesBegun_relayWrites]

@[simp] theorem deviceToggle_lastToggle (watched : Fin 15) (on : Bool) (now : Nat)
    (device : Fin 15) (isActive : Flag) (s : Controller) :
    lastToggle watched on (s.deviceToggle now device isActive).trace =
      if device = watched ∧ (isActive ≠ 0 ↔ on = true) then some now
      else lastToggle watched on s.trace := by
  simp only [deviceToggle, List.cons_append, lastToggle, lastToggle_relayWrites]

/-- One relay and its toggles are the same in both states. -/
structure Untouched (device : Fin 15) (before after : Controller) : Prop where
  same : after.deviceArray device = before.deviceArray device
  toggles : ∀ on, lastToggle device on after.trace = lastToggle device on before.trace

namespace Untouched

variable {device : Fin 15} {first second third : Controller}

theorem refl (device : Fin 15) (s : Controller) : Untouched device s s :=
  ⟨rfl, fun _ => rfl⟩

theorem trans (before : Untouched device first second) (after : Untouched device second third) :
    Untouched device first third :=
  ⟨after.same.trans before.same, fun on => (after.toggles on).trans (before.toggles on)⟩

theorem isOn_iff (untouched : Untouched device first second) :
    second.IsOn device ↔ first.IsOn device := by
  unfold IsOn
  rw [untouched.same]

/-- Toggling another relay leaves this one alone. -/
theorem deviceToggle {toggled : Fin 15} (different : device ≠ toggled) (now : Nat)
    (isActive : Flag) (s : Controller) :
    Untouched device s (s.deviceToggle now toggled isActive) where
  same := deviceToggle_deviceArray_of_ne now toggled isActive s different
  toggles on := by simp [Ne.symm different]

/-- A state that differs elsewhere, in no relay and no event. -/
theorem of_eq {before after : Controller} (devices : after.deviceArray = before.deviceArray)
    (trace : after.trace = before.trace) : Untouched device before after :=
  ⟨by rw [devices], fun _ => by rw [trace]⟩

end Untouched

/-! ## `device_update` only ends holds -/

theorem deviceRelease_fields (now : Nat) (index : Fin 1) (s : Controller) :
    (s.deviceRelease now index).deviceArray = s.deviceArray ∧
      (s.deviceRelease now index).controlFlowArray = s.controlFlowArray ∧
      (s.deviceRelease now index).irrigation = s.irrigation ∧
      stagesBegun (s.deviceRelease now index).trace = stagesBegun s.trace ∧
      ∀ device on, lastToggle device on (s.deviceRelease now index).trace =
        lastToggle device on s.trace := by
  unfold deviceRelease
  dsimp only
  split
  · simp
  · split
    · simp
    · simp [lastToggle, stagesBegun]

/-- `device_update` moves no relay's intended state, no flow and no irrigation variable. -/
theorem deviceUpdate_fields (now : Nat) (s : Controller) :
    (s.deviceUpdate now).deviceArray = s.deviceArray ∧
      (s.deviceUpdate now).controlFlowArray = s.controlFlowArray ∧
      (s.deviceUpdate now).irrigation = s.irrigation ∧
      stagesBegun (s.deviceUpdate now).trace = stagesBegun s.trace ∧
      ∀ device on, lastToggle device on (s.deviceUpdate now).trace =
        lastToggle device on s.trace :=
  deviceRelease_fields now 0 s

@[simp] theorem deviceUpdate_sensorFlowArray (now : Nat) (s : Controller) :
    (s.deviceUpdate now).sensorFlowArray = s.sensorFlowArray := by
  change (s.deviceRelease now 0).sensorFlowArray = _
  unfold deviceRelease
  dsimp only
  split
  · rfl
  · split <;> rfl

@[simp] theorem deviceUpdate_isOn (now : Nat) (device : Fin 15) (s : Controller) :
    (s.deviceUpdate now).IsOn device ↔ s.IsOn device := by
  rw [IsOn, IsOn, (deviceUpdate_fields now s).1]

@[simp] theorem deviceUpdate_flowActive (now : Nat) (flow : Fin 6) (s : Controller) :
    (s.deviceUpdate now).FlowActive flow ↔ s.FlowActive flow := by
  rw [FlowActive, FlowActive, (deviceUpdate_fields now s).2.1]

theorem Untouched.deviceUpdate (device : Fin 15) (now : Nat) (s : Controller) :
    Untouched device s (s.deviceUpdate now) :=
  ⟨by rw [(deviceUpdate_fields now s).1], (deviceUpdate_fields now s).2.2.2.2 device⟩

/-! ## Switching everything off -/

/-- Switching a list of relays off, last first: their toggles are now, the rest is kept. -/
theorem stopDevices_spec (now : Nat) (devices : List (Fin 15)) (s : Controller) :
    let stopped := devices.foldr (fun device s => s.deviceToggle now device 0) s
    (∀ device, stopped.IsOn device ↔ device ∉ devices ∧ s.IsOn device) ∧
      (∀ device, lastToggle device true stopped.trace = lastToggle device true s.trace) ∧
      (∀ device, lastToggle device false stopped.trace =
        if device ∈ devices then some now else lastToggle device false s.trace) ∧
      stopped.sensorFlowArray = s.sensorFlowArray ∧
      stopped.controlFlowArray = s.controlFlowArray ∧
      stopped.irrigation = s.irrigation ∧
      stopped.faultyDetectionStatus = s.faultyDetectionStatus ∧
      stagesBegun stopped.trace = stagesBegun s.trace := by
  induction devices with
  | nil => simp
  | cons head rest ih =>
      obtain ⟨off, onTimes, offTimes, sensors, flows, irrigation, fault, stages⟩ := ih
      refine ⟨fun device => ?_, fun device => ?_, fun device => ?_, sensors, flows, irrigation,
        fault, ?_⟩
      · by_cases same : device = head
        · simp [same]
        · simp [same, off]
      · simp [onTimes]
      · by_cases same : head = device
        · simp [same]
        · simp [same, Ne.symm same, offTimes]
      · simp [stages]

section

variable (now : Nat) (s : Controller)

/-- After `control_safety_devices_stop` all fifteen relays are off. -/
@[simp] theorem controlSafetyDevicesStop_isOn (device : Fin 15) :
    ¬ (s.controlSafetyDevicesStop now).IsOn device := by
  rw [controlSafetyDevicesStop, (stopDevices_spec now _ s).1]
  simp

@[simp] theorem controlSafetyDevicesStop_lastToggle_on (device : Fin 15) :
    lastToggle device true (s.controlSafetyDevicesStop now).trace =
      lastToggle device true s.trace :=
  (stopDevices_spec now _ s).2.1 device

@[simp] theorem controlSafetyDevicesStop_sensorFlowArray :
    (s.controlSafetyDevicesStop now).sensorFlowArray = s.sensorFlowArray :=
  (stopDevices_spec now _ s).2.2.2.1

@[simp] theorem controlSafetyDevicesStop_controlFlowArray :
    (s.controlSafetyDevicesStop now).controlFlowArray = s.controlFlowArray :=
  (stopDevices_spec now _ s).2.2.2.2.1

@[simp] theorem controlSafetyDevicesStop_irrigation :
    (s.controlSafetyDevicesStop now).irrigation = s.irrigation :=
  (stopDevices_spec now _ s).2.2.2.2.2.1

@[simp] theorem controlSafetyDevicesStop_faultyDetectionStatus :
    (s.controlSafetyDevicesStop now).faultyDetectionStatus = s.faultyDetectionStatus :=
  (stopDevices_spec now _ s).2.2.2.2.2.2.1

@[simp] theorem controlSafetyDevicesStop_stagesBegun :
    stagesBegun (s.controlSafetyDevicesStop now).trace = stagesBegun s.trace :=
  (stopDevices_spec now _ s).2.2.2.2.2.2.2

end

end Controller
end BlueberryIrrigation
