import BlueberryIrrigation.Controller.FlowStarts

/-!
# The limit of a requested volume

The target of a flow is the product of its sensor's calibration and the volume, in pulses per
thousandth, rounded down. A target of zero means that there is no limit, and a small volume at a
small calibration has it too. The pulse arithmetic here is the exact one.
-/

namespace BlueberryIrrigation

open Semantics Controller

/-- The whole pulses of a volume, rounded up, and one at least. -/
def volumePulses (pulsesPerLiter volume : UInt16) : Nat :=
  max 1 ((pulsesPerLiter.toNat * volume.toNat + 999) / 1000)

/-- The step does not start the flow anew, in a history of `start`. -/
def Spares (flow : Fin 6) (start : Controller) (prior : List (Step Operation))
    (step : Step Operation) : Prop :=
  flow ∉ step.operation.flowsStarted step.now (controller.after start prior)

/-- The target is the rounded product: the 32 bits suffice. -/
theorem toNat_pulsesToDeliver (pulsesPerLiter volume : UInt16) :
    (FlowArithmetic.pulsesToDeliver pulsesPerLiter volume).toNat =
      pulsesPerLiter.toNat * volume.toNat / 1000 := by
  have bound : pulsesPerLiter.toNat * volume.toNat ≤ 65535 * 65535 :=
    Nat.mul_le_mul (Nat.le_of_lt_succ pulsesPerLiter.toNat_lt) (Nat.le_of_lt_succ volume.toNat_lt)
  change (UInt32.ofNat _).toNat = _
  rw [UInt32.toNat_ofNat']
  exact Nat.mod_eq_of_lt (by omega)

section

variable {now : Nat} {flow : Fin 6} {volume time : UInt16} {s : Controller}

/-- As long as the flow is not started anew, it keeps the target and the limit of its start. -/
theorem target_kept {history : List (Step Operation)}
    (spared : Machine.Admitted (Spares flow (s.controlFlowStart now flow volume time)) now
      history) :
    let running := (controller.after (s.controlFlowStart now flow volume time)
      history).controlFlowArray flow
    running.pulsesToDeliver = FlowArithmetic.pulsesToDeliver
        (s.sensorFlowArray (controlFlowSensor flow)).pulsesPerLiter volume ∧
      running.timeToDeliver = time := by
  refine spared.along (fun history =>
    let running := (controller.after (s.controlFlowStart now flow volume time)
      history).controlFlowArray flow
    running.pulsesToDeliver = FlowArithmetic.pulsesToDeliver
        (s.sensorFlowArray (controlFlowSensor flow)).pulsesPerLiter volume ∧
      running.timeToDeliver = time) ?_ ?_
  · rw [Machine.after_nil, controlFlowStart_controlFlowArray, if_pos rfl]
    exact ⟨rfl, rfl⟩
  · intro step prior _ before _ spares
    obtain ⟨target, limit⟩ := run_target step.now _ spares
    exact ⟨target.trans before.1, limit.trans before.2⟩

/-- A target that is not zero is reached with the whole pulses of the volume. -/
theorem flowDue_of_volumePulses {t : Controller} (later : Nat)
    (target : (t.controlFlowArray flow).pulsesToDeliver = FlowArithmetic.pulsesToDeliver
      (s.sensorFlowArray (controlFlowSensor flow)).pulsesPerLiter volume)
    (limited : 1000 ≤ (s.sensorFlowArray (controlFlowSensor flow)).pulsesPerLiter.toNat *
      volume.toNat)
    (total : volumePulses (s.sensorFlowArray (controlFlowSensor flow)).pulsesPerLiter volume ≤
      (t.sensorFlowArray (controlFlowSensor flow)).pulsesTotal.toNat) :
    t.FlowDue later flow := by
  have pulses := toNat_pulsesToDeliver
    (s.sensorFlowArray (controlFlowSensor flow)).pulsesPerLiter volume
  unfold volumePulses at total
  left
  rw [target]
  refine ⟨fun zero => ?_, UInt32.le_iff_toNat_le.mpr ?_⟩
  · rw [zero] at pulses
    change 0 = _ at pulses
    omega
  · rw [pulses]
    omega

/-- Below one pulse the target is zero, and the first pulses of the flow do not stop it. -/
theorem unlimited_of_small (now : Nat) (time : UInt16)
    (small : (s.sensorFlowArray (controlFlowSensor flow)).pulsesPerLiter.toNat * volume.toNat <
      1000) :
    let t := controller.after (s.controlFlowStart now flow volume time)
      [⟨now, .pulsesTotalSet (controlFlowSensor flow) 1⟩]
    t.FlowRunning flow ∧
      volumePulses (s.sensorFlowArray (controlFlowSensor flow)).pulsesPerLiter volume ≤
        (t.sensorFlowArray (controlFlowSensor flow)).pulsesTotal.toNat ∧
      (t.controlFlowUpdate now).FlowActive flow := by
  have target : FlowArithmetic.pulsesToDeliver
      (s.sensorFlowArray (controlFlowSensor flow)).pulsesPerLiter volume = 0 := by
    rw [← UInt32.toNat_inj, toNat_pulsesToDeliver]
    exact Nat.div_eq_of_lt small
  generalize ran : controller.after (s.controlFlowStart now flow volume time)
    [⟨now, .pulsesTotalSet (controlFlowSensor flow) 1⟩] = t
  have record : t.controlFlowArray flow = s.startedFlow now flow volume time := by
    rw [← ran]
    change (s.controlFlowStart now flow volume time).controlFlowArray flow = _
    rw [controlFlowStart_controlFlowArray, if_pos rfl]
  have total : (t.sensorFlowArray (controlFlowSensor flow)).pulsesTotal = 1 := by
    rw [← ran]
    change (((s.controlFlowStart now flow volume time).sensorFlowPulsesTotalSet _ 1).sensorFlowArray
      _).pulsesTotal = 1
    simp [sensorFlowPulsesTotalSet, setSensor]
  have running : t.FlowRunning flow := by
    unfold FlowRunning FlowActive
    rw [record]
    exact ⟨show (1 : UInt8) ≠ 0 by decide, rfl⟩
  refine ⟨running, ?_, (controlFlowUpdate_flowActive_iff now running.2).mpr ⟨running.1, ?_⟩⟩
  · rw [total]
    change max 1 _ ≤ 1
    omega
  · -- No target, and no time has passed.
    unfold FlowDue
    rw [record]
    rintro (⟨limited, -⟩ | ⟨limited, due⟩)
    · exact limited target
    · have elapsed := UInt32.le_iff_toNat_le.mp due
      rw [toNat_limit] at elapsed
      change time.toNat * 1000 ≤ (millis now - millis now).toNat at elapsed
      rw [UInt32.sub_self] at elapsed
      have none : time.toNat = 0 := by simpa using elapsed
      exact limited (UInt16.toNat_inj.mp none)

end

/-- A volume limit is kept exactly when the volume is a pulse at least: then a running flow is
stopped by the first update at which its sensor has counted the pulses of the volume, and otherwise
there is a run in which it is not. -/
theorem volume_limit (s : Controller) (flow : Fin 6) (volume time : UInt16) (now : Nat) :
    (∀ history later,
        Machine.Admitted (Spares flow (s.controlFlowStart now flow volume time)) now history →
        Machine.lastTime now history ≤ later →
        (controller.after (s.controlFlowStart now flow volume time) history).FlowRunning flow →
        volumePulses (s.sensorFlowArray (controlFlowSensor flow)).pulsesPerLiter volume ≤
          ((controller.after (s.controlFlowStart now flow volume time) history).sensorFlowArray
            (controlFlowSensor flow)).pulsesTotal.toNat →
        ¬ ((controller.after (s.controlFlowStart now flow volume time)
          history).controlFlowUpdate later).FlowActive flow) ↔
      1000 ≤ (s.sensorFlowArray (controlFlowSensor flow)).pulsesPerLiter.toNat * volume.toNat := by
  constructor
  · intro stops
    by_contra small
    obtain ⟨running, total, active⟩ := unlimited_of_small now time (Nat.lt_of_not_ge small)
    have spared : Machine.Admitted (Spares flow (s.controlFlowStart now flow volume time)) now
        [⟨now, .pulsesTotalSet (controlFlowSensor flow) 1⟩] :=
      ⟨trivial, Nat.le_refl now, List.not_mem_nil⟩
    exact stops _ now spared (Nat.le_refl now) running total active
  · intro limited history later spared _ running total
    exact controlFlowUpdate_due later running
      (flowDue_of_volumePulses later (target_kept spared).1 limited total)

/-- A sensor with 999 pulses per liter, and a volume of 1: after five pulses the flow still
runs, without a limit. -/
theorem volume_limit_lost :
    let s := boot.sensorFlowPulsesPerLiterSet 3 999
    let history : List (Step Operation) :=
      ⟨7000, .sensorFlowUpdate⟩ :: List.replicate 5 ⟨6000, .sensorInterrupt 3⟩
    let t := controller.after (s.controlFlowStart 5000 3 1 0) history
    volumePulses 999 1 = 1 ∧ t.FlowRunning 3 ∧ (t.sensorFlowArray 3).pulsesTotal = 5 ∧
      (t.controlFlowArray 3).pulsesToDeliver = 0 ∧ (t.controlFlowUpdate 7000).FlowActive 3 ∧
      ¬ (∀ (s : Controller) (flow : Fin 6) (volume time : UInt16) (now : Nat) history later,
        1 ≤ (s.sensorFlowArray (controlFlowSensor flow)).pulsesPerLiter → volume ≠ 0 →
        Machine.Admitted (Spares flow (s.controlFlowStart now flow volume time)) now history →
        Machine.lastTime now history ≤ later →
        (controller.after (s.controlFlowStart now flow volume time) history).FlowRunning flow →
        volumePulses (s.sensorFlowArray (controlFlowSensor flow)).pulsesPerLiter volume ≤
          ((controller.after (s.controlFlowStart now flow volume time) history).sensorFlowArray
            (controlFlowSensor flow)).pulsesTotal.toNat →
        ¬ ((controller.after (s.controlFlowStart now flow volume time)
          history).controlFlowUpdate later).FlowActive flow) := by
  have small : ((boot.sensorFlowPulsesPerLiterSet 3 999).sensorFlowArray
      (controlFlowSensor 3)).pulsesPerLiter.toNat * (1 : UInt16).toNat < 1000 := by decide
  obtain ⟨running, total, active⟩ := unlimited_of_small 5000 0 small
  refine ⟨by decide, by decide, by decide, by decide, by decide, fun stops => ?_⟩
  exact stops (boot.sensorFlowPulsesPerLiterSet 3 999) 3 1 0 5000
    [⟨5000, .pulsesTotalSet (controlFlowSensor 3) 1⟩] 5000 (by decide) (by decide)
    ⟨trivial, Nat.le_refl _, List.not_mem_nil⟩ (Nat.le_refl _) running total active

end BlueberryIrrigation
