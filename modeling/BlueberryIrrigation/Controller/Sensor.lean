import Mathlib.Data.List.FinRange
import BlueberryIrrigation.Controller.State

/-!
# Sensors (`sensor_flow.cpp`, `sensor_pressure.cpp`)

Interrupt handlers count pulses on their side, and once a second the main loop moves
the counts into the totals. No sensor function touches a relay, a control flow or the
irrigation machine, which `SensorsOnly` says once for all of them.
-/

namespace BlueberryIrrigation

/-- `SENSOR_FLOW_UPDATE_INTERVAL` -/
def sensorFlowUpdateInterval : UInt32 := 1000

/-- `SENSOR_PRESSURE_UPDATE_INTERVAL` -/
def sensorPressureUpdateInterval : UInt32 := 1000

/-- `constrain((int16_t)raw_value, 0, 1023)` followed by `map(raw_value, 0, 1023, 0, 120)`. -/
def sensorPressureScale (raw : UInt16) : UInt8 :=
  let signed : Int := raw.toInt16.toInt
  let constrained : Int := if signed < 0 then 0 else if signed > 1023 then 1023 else signed
  UInt8.ofInt (constrained * 120 / 1023)

namespace Controller

def setSensor (sensor : Fin 5) (value : SensorFlow) (s : Controller) : Controller :=
  { s with sensorFlowArray := Function.update s.sensorFlowArray sensor value }

/-- `sensor_flow_interrupt_0` to `sensor_flow_interrupt_4` -/
def sensorFlowInterrupt (sensor : Fin 5) (s : Controller) : Controller :=
  let counting := s.sensorFlowArray sensor
  s.setSensor sensor { counting with pulsesInterrupt := counting.pulsesInterrupt + 1 }

/-- The loop body of `sensor_flow_update`: with the handler detached, the interrupt
count moves into the total. -/
def sensorFlowFlush (sensor : Fin 5) (s : Controller) : Controller :=
  let counting := s.sensorFlowArray sensor
  s.setSensor sensor
    { counting with
      pulsesTotal := counting.pulsesTotal + counting.pulsesInterrupt.toUInt32
      pulsesInterrupt := 0 }

/-- `sensor_flow_update()` -/
def sensorFlowUpdate (now : Nat) (s : Controller) : Controller :=
  if millis now - s.sensorFlowTimeUpdateLast < sensorFlowUpdateInterval then s
  else
    let flushed := (List.finRange 5).foldl (fun s sensor => s.sensorFlowFlush sensor) s
    { flushed with sensorFlowTimeUpdateLast := millis now }

/-- `sensor_flow_pulses_total_set` -/
def sensorFlowPulsesTotalSet (sensor : Fin 5) (pulsesTotal : UInt32)
    (s : Controller) : Controller :=
  s.setSensor sensor { s.sensorFlowArray sensor with pulsesTotal := pulsesTotal }

/-- `sensor_flow_pulses_per_liter_set` -/
def sensorFlowPulsesPerLiterSet (sensor : Fin 5) (pulsesPerLiter : UInt16)
    (s : Controller) : Controller :=
  s.setSensor sensor { s.sensorFlowArray sensor with pulsesPerLiter := pulsesPerLiter }

/-- `sensor_pressure_update()`, given what `analogRead` returns for each sensor. -/
def sensorPressureUpdate (now : Nat) (readings : Fin 3 → UInt16) (s : Controller) : Controller :=
  if millis now - s.sensorPressureTimeUpdateLast < sensorPressureUpdateInterval then s
  else
    { s with
      sensorPressureArray := fun sensor => sensorPressureScale (readings sensor)
      sensorPressureTimeUpdateLast := millis now }

/-- Flushing a list of sensors moves the count of each of them into its total. -/
theorem flushAll_eq {sensors : List (Fin 5)} (distinct : sensors.Nodup) (s : Controller) :
    sensors.foldl (fun s sensor => s.sensorFlowFlush sensor) s =
      { s with
        sensorFlowArray := fun sensor =>
          let counting := s.sensorFlowArray sensor
          if sensor ∈ sensors then
            { counting with
              pulsesTotal := counting.pulsesTotal + counting.pulsesInterrupt.toUInt32
              pulsesInterrupt := 0 }
          else counting } := by
  induction sensors generalizing s with
  | nil => rfl
  | cons head rest ih =>
      obtain ⟨fresh, others⟩ := List.nodup_cons.mp distinct
      rw [List.foldl_cons, ih others]
      unfold sensorFlowFlush setSensor
      congr 1
      ext1 sensor
      by_cases own : sensor = head
      · subst own
        simp [fresh]
      · simp [own]

/-- What `sensor_flow_update` does once its interval is over. -/
theorem sensorFlowUpdate_eq {now : Nat} {s : Controller}
    (due : ¬ millis now - s.sensorFlowTimeUpdateLast < sensorFlowUpdateInterval) :
    s.sensorFlowUpdate now =
      { s with
        sensorFlowArray := fun sensor =>
          { s.sensorFlowArray sensor with
            pulsesTotal := (s.sensorFlowArray sensor).pulsesTotal +
              (s.sensorFlowArray sensor).pulsesInterrupt.toUInt32
            pulsesInterrupt := 0 }
        sensorFlowTimeUpdateLast := millis now } := by
  unfold sensorFlowUpdate
  rw [if_neg due, flushAll_eq (List.nodup_finRange 5) s]
  simp only [List.mem_finRange, if_true]

/-- A total that does not pass 32 bits only grows. -/
theorem sensorFlowUpdate_grows {s : Controller} {sensor : Fin 5} (now : Nat)
    (fits : (s.sensorFlowArray sensor).pulsesTotal.toNat +
      (s.sensorFlowArray sensor).pulsesInterrupt.toNat < 2 ^ 32) :
    (s.sensorFlowArray sensor).pulsesTotal ≤
      ((s.sensorFlowUpdate now).sensorFlowArray sensor).pulsesTotal := by
  by_cases waiting : millis now - s.sensorFlowTimeUpdateLast < sensorFlowUpdateInterval
  · unfold sensorFlowUpdate
    rw [if_pos waiting]
    exact UInt32.le_refl _
  · rw [sensorFlowUpdate_eq waiting, UInt32.le_iff_toNat_le]
    dsimp only
    rw [UInt32.toNat_add, UInt16.toNat_toUInt32, Nat.mod_eq_of_lt fits]
    exact Nat.le_add_right _ _

/-- A pulse is counted beside the total. -/
@[simp] theorem sensorFlowInterrupt_pulsesTotal (counted sensor : Fin 5) (s : Controller) :
    ((s.sensorFlowInterrupt counted).sensorFlowArray sensor).pulsesTotal =
      (s.sensorFlowArray sensor).pulsesTotal := by
  by_cases own : sensor = counted
  · subst own
    simp [sensorFlowInterrupt, setSensor]
  · simp [sensorFlowInterrupt, setSensor, own]

@[simp] theorem sensorPressureUpdate_sensorFlowArray (now : Nat) (readings : Fin 3 → UInt16)
    (s : Controller) : (s.sensorPressureUpdate now readings).sensorFlowArray =
      s.sensorFlowArray := by
  unfold sensorPressureUpdate
  split <;> rfl

/-- The two states agree on everything but the sensors. -/
structure SensorsOnly (before after : Controller) : Prop where
  deviceArray : after.deviceArray = before.deviceArray
  controlFlowArray : after.controlFlowArray = before.controlFlowArray
  irrigation : after.irrigation = before.irrigation
  trace : after.trace = before.trace
  faultyDetectionStatus : after.faultyDetectionStatus = before.faultyDetectionStatus

theorem SensorsOnly.isOn_iff {before after : Controller} (sensors : SensorsOnly before after)
    (device : Fin 15) : after.IsOn device ↔ before.IsOn device := by
  rw [IsOn, IsOn, sensors.deviceArray]

theorem SensorsOnly.flowActive_iff {before after : Controller}
    (sensors : SensorsOnly before after) (flow : Fin 6) :
    after.FlowActive flow ↔ before.FlowActive flow := by
  rw [FlowActive, FlowActive, sensors.controlFlowArray]

theorem SensorsOnly.sensorFlowInterrupt (sensor : Fin 5) (s : Controller) :
    SensorsOnly s (s.sensorFlowInterrupt sensor) := ⟨rfl, rfl, rfl, rfl, rfl⟩

theorem SensorsOnly.sensorFlowPulsesTotalSet (sensor : Fin 5) (pulsesTotal : UInt32)
    (s : Controller) : SensorsOnly s (s.sensorFlowPulsesTotalSet sensor pulsesTotal) :=
  ⟨rfl, rfl, rfl, rfl, rfl⟩

theorem SensorsOnly.sensorFlowPulsesPerLiterSet (sensor : Fin 5) (pulsesPerLiter : UInt16)
    (s : Controller) : SensorsOnly s (s.sensorFlowPulsesPerLiterSet sensor pulsesPerLiter) :=
  ⟨rfl, rfl, rfl, rfl, rfl⟩

theorem SensorsOnly.flushAll (sensors : List (Fin 5)) (s : Controller) :
    SensorsOnly s (sensors.foldl (fun s sensor => s.sensorFlowFlush sensor) s) := by
  induction sensors generalizing s with
  | nil => exact ⟨rfl, rfl, rfl, rfl, rfl⟩
  | cons sensor rest ih =>
      obtain ⟨devices, flows, irrigation, trace, fault⟩ := ih (s.sensorFlowFlush sensor)
      exact ⟨devices, flows, irrigation, trace, fault⟩

theorem SensorsOnly.sensorFlowUpdate (now : Nat) (s : Controller) :
    SensorsOnly s (s.sensorFlowUpdate now) := by
  unfold Controller.sensorFlowUpdate
  split
  · exact ⟨rfl, rfl, rfl, rfl, rfl⟩
  · obtain ⟨devices, flows, irrigation, trace, fault⟩ := SensorsOnly.flushAll (List.finRange 5) s
    exact ⟨devices, flows, irrigation, trace, fault⟩

theorem SensorsOnly.sensorPressureUpdate (now : Nat) (readings : Fin 3 → UInt16)
    (s : Controller) : SensorsOnly s (s.sensorPressureUpdate now readings) := by
  unfold Controller.sensorPressureUpdate
  split <;> exact ⟨rfl, rfl, rfl, rfl, rfl⟩

end Controller
end BlueberryIrrigation
