import BlueberryIrrigation.Controller.FlowStarts

/-!
# Requested volumes

A pulse is counted by its interrupt and reaches the total with the next flush. The start of a flow
clears the total alone, so the pulses that wait for the flush are counted for the new delivery.
Up to these, every pulse of a delivery has been raised since its start.
-/

namespace BlueberryIrrigation

open Semantics Controller

/-- The pulses raised at a sensor in these steps. -/
def pulsesRaised (sensor : Fin 5) : List (Step Operation) → Nat
  | [] => 0
  | ⟨_, .sensorInterrupt raised⟩ :: rest =>
      pulsesRaised sensor rest + if raised = sensor then 1 else 0
  | _ :: rest => pulsesRaised sensor rest

/-- No step assigns the sensor's total. -/
def TotalUnwritten (sensor : Fin 5) (steps : List (Step Operation)) : Prop :=
  ∀ step ∈ steps, ∀ pulses, step.operation ≠ .pulsesTotalSet sensor pulses

namespace Controller

/-- The pulses of a sensor, flushed or not. -/
def counted (sensor : Fin 5) (s : Controller) : Nat :=
  (s.sensorFlowArray sensor).pulsesTotal.toNat + (s.sensorFlowArray sensor).pulsesInterrupt.toNat

/-- The pulse target of a flow is reached, by which `control_flow_update` stops the flow. -/
def TargetReached (flow : Fin 6) (s : Controller) : Prop :=
  (s.controlFlowArray flow).pulsesToDeliver ≠ 0 ∧
    (s.controlFlowArray flow).pulsesToDeliver ≤
      (s.sensorFlowArray (controlFlowSensor flow)).pulsesTotal

instance decidableTargetReached (flow : Fin 6) (s : Controller) :
    Decidable (s.TargetReached flow) := inferInstanceAs (Decidable (_ ∧ _))

/-- Clearing a total forgets pulses and invents none. -/
theorem counted_clearedSensor {s t : Controller} {sensors : List (Fin 5)} {sensor : Fin 5}
    (cleared : t.sensorFlowArray sensor = s.clearedSensor sensors sensor) :
    t.counted sensor ≤ s.counted sensor := by
  unfold counted
  rw [cleared, clearedSensor]
  dsimp only
  split
  · exact Nat.add_le_add_right (Nat.zero_le _) _
  · exact Nat.le_refl _

/-- A flush moves the pulses, less those that the 32 bits cannot hold. -/
theorem counted_sensorFlowUpdate (now : Nat) (sensor : Fin 5) (s : Controller) :
    (s.sensorFlowUpdate now).counted sensor ≤ s.counted sensor := by
  by_cases waiting : millis now - s.sensorFlowTimeUpdateLast < sensorFlowUpdateInterval
  · unfold sensorFlowUpdate
    rw [if_pos waiting]
  · rw [sensorFlowUpdate_eq waiting]
    unfold counted
    dsimp only
    rw [UInt32.toNat_add, UInt16.toNat_toUInt32]
    exact Nat.mod_le _ _

theorem counted_sensorInterrupt (raised sensor : Fin 5) (s : Controller) :
    (s.sensorFlowInterrupt raised).counted sensor ≤
      s.counted sensor + if raised = sensor then 1 else 0 := by
  unfold counted
  rw [sensorFlowInterrupt_pulsesTotal]
  by_cases own : raised = sensor
  · subst own
    have next : ((s.sensorFlowArray raised).pulsesInterrupt + 1).toNat ≤
        (s.sensorFlowArray raised).pulsesInterrupt.toNat + 1 := Nat.mod_le _ _
    simp only [sensorFlowInterrupt, setSensor, Function.update_self, if_pos]
    omega
  · have other : sensor ≠ raised := Ne.symm own
    simp [sensorFlowInterrupt, setSensor, own, other]

end Controller

section

variable [FlowArithmetic]

/-- One operation counts no pulse that it does not raise. -/
theorem run_counted {step : Step Operation} {sensor : Fin 5}
    (unwritten : ∀ pulses, step.operation ≠ .pulsesTotalSet sensor pulses) (s : Controller) :
    (step.operation.run step.now s).counted sensor ≤
      s.counted sensor + pulsesRaised sensor [step] := by
  obtain ⟨now, operation⟩ := step
  by_cases writes : operation.WritesSensor
  · cases operation with
    | sensorFlowUpdate => exact counted_sensorFlowUpdate now sensor s
    | sensorInterrupt raised =>
        refine (counted_sensorInterrupt raised sensor s).trans ?_
        simp [pulsesRaised]
    | pulsesTotalSet written pulses =>
        have other : sensor ≠ written := by
          rintro rfl
          exact unwritten pulses rfl
        have kept : ((Operation.pulsesTotalSet written pulses).run now s).sensorFlowArray sensor =
            s.sensorFlowArray sensor := Function.update_of_ne other _ _
        simp [counted, kept]
    | assign setting =>
        cases setting with
        | pulsesPerLiter changed pulses =>
            have kept : ((Operation.assign (.pulsesPerLiter changed pulses)).run now s).counted
                sensor = s.counted sensor := by
              change (s.sensorFlowPulsesPerLiterSet changed pulses).counted sensor = _
              by_cases own : sensor = changed
              · subst own
                simp [counted, sensorFlowPulsesPerLiterSet, setSensor]
              · simp [counted, sensorFlowPulsesPerLiterSet, setSensor, own]
            exact kept.le.trans (Nat.le_add_right _ _)
        | _ => exact writes.elim
    | _ => exact writes.elim
  · have cleared := run_sensorFlowArray now s writes sensor
    exact (counted_clearedSensor cleared).trans (Nat.le_add_right _ _)

/-- The steps after the flow's last start, newest first. -/
def sinceStart (flow : Fin 6) : List (Step Operation) → List (Step Operation)
  | [] => []
  | step :: prior => if StartsFlow flow prior step then [] else step :: sinceStart flow prior

/-- The pulses that waited for a flush when the flow was last started. -/
def pendingAtStart (flow : Fin 6) : List (Step Operation) → Nat
  | [] => 0
  | step :: prior =>
      if StartsFlow flow prior step then
        ((controller.after boot prior).sensorFlowArray
          (controlFlowSensor flow)).pulsesInterrupt.toNat
      else pendingAtStart flow prior

/-- A start leaves the pulses that wait, and no others. -/
theorem start_counted {flow : Fin 6} {prior : List (Step Operation)} {step : Step Operation}
    (starts : StartsFlow flow prior step) :
    (controller.after boot (step :: prior)).counted (controlFlowSensor flow) =
      ((controller.after boot prior).sensorFlowArray
        (controlFlowSensor flow)).pulsesInterrupt.toNat := by
  have reading : ¬ step.operation.WritesSensor := by
    intro writes
    unfold StartsFlow at starts
    cases operation : step.operation <;> rw [operation] at writes starts <;>
      first | exact writes.elim | exact absurd starts List.not_mem_nil
  have cleared := run_sensorFlowArray step.now (controller.after boot prior) reading
    (controlFlowSensor flow)
  rw [Machine.after_cons]
  change (step.operation.run step.now (controller.after boot prior)).counted _ = _
  unfold counted
  rw [cleared, clearedSensor]
  dsimp only
  rw [if_pos (Operation.sensor_cleared starts)]
  exact Nat.zero_add _

/-- The pulses counted for a flow waited at its start or were raised after it. -/
theorem counted_le (flow : Fin 6) {history : List (Step Operation)}
    (unwritten : TotalUnwritten (controlFlowSensor flow) (sinceStart flow history)) :
    (controller.after boot history).counted (controlFlowSensor flow) ≤
      pendingAtStart flow history +
        pulsesRaised (controlFlowSensor flow) (sinceStart flow history) := by
  induction history with
  | nil => exact Nat.zero_le _
  | cons step prior ih =>
      by_cases starts : StartsFlow flow prior step
      · rw [start_counted starts, pendingAtStart, if_pos starts, sinceStart, if_pos starts]
        exact Nat.le_refl _
      · rw [sinceStart, if_neg starts] at unwritten
        rw [pendingAtStart, if_neg starts, sinceStart, if_neg starts]
        have before := ih fun other listed => unwritten other (List.mem_cons_of_mem step listed)
        have next := run_counted (unwritten step List.mem_cons_self) (controller.after boot prior)
        have split : pulsesRaised (controlFlowSensor flow) (step :: sinceStart flow prior) =
            pulsesRaised (controlFlowSensor flow) (sinceStart flow prior) +
              pulsesRaised (controlFlowSensor flow) [step] := by
          obtain ⟨now, operation⟩ := step
          cases operation <;> simp [pulsesRaised]
        rw [split]
        exact next.trans (by omega)

/-- No pulse waits for a flush when the flow is started. -/
def freshStart (flow : Fin 6) (prior : List (Step Operation)) (step : Step Operation) : Prop :=
  StartsFlow flow prior step →
    ((controller.after boot prior).sensorFlowArray (controlFlowSensor flow)).pulsesInterrupt = 0

theorem pendingAtStart_of_fresh {flow : Fin 6} {history : List (Step Operation)}
    (admitted : Machine.Admitted (freshStart flow) setupTime history) :
    pendingAtStart flow history = 0 := by
  refine admitted.along (fun history => pendingAtStart flow history = 0) rfl ?_
  intro step prior _ before _ fresh
  by_cases starts : StartsFlow flow prior step
  · rw [pendingAtStart, if_pos starts, fresh starts]
    rfl
  · rw [pendingAtStart, if_neg starts]
    exact before

/-- When a running flow has reached its target, `control_flow_update` stops it, and as long as no
pulse waited at its start, the target has been raised since then. -/
theorem requested_volume_delivered {flow : Fin 6} {history : List (Step Operation)} (now : Nat)
    (admitted : Machine.Admitted (freshStart flow) setupTime history)
    (running : (controller.after boot history).FlowRunning flow)
    (reached : (controller.after boot history).TargetReached flow)
    (unwritten : TotalUnwritten (controlFlowSensor flow) (sinceStart flow history)) :
    ¬ ((controller.after boot history).controlFlowUpdate now).FlowActive flow ∧
      ((controller.after boot history).controlFlowArray flow).pulsesToDeliver.toNat ≤
        pulsesRaised (controlFlowSensor flow) (sinceStart flow history) := by
  refine ⟨controlFlowUpdate_due now running (.inl reached), ?_⟩
  have flushed : ((controller.after boot history).controlFlowArray flow).pulsesToDeliver.toNat ≤
      (controller.after boot history).counted (controlFlowSensor flow) :=
    (UInt32.le_iff_toNat_le.mp reached.2).trans (Nat.le_add_right _ _)
  have since := counted_le flow unwritten
  rw [pendingAtStart_of_fresh admitted, Nat.zero_add] at since
  exact flushed.trans since

end

/-- A millilitre of water: the five pulses that it takes are raised after the start. -/
def millilitre : List (Step Operation) :=
  ⟨7000, .sensorFlowUpdate⟩ :: List.replicate 5 ⟨6000, .sensorInterrupt 3⟩ ++
    [⟨5000, .flowStart 3 1 0⟩]

theorem requested_volume_delivered_millilitre :
    ¬ ((controller.after boot millilitre).controlFlowUpdate 7000).FlowActive 3 ∧
      ((controller.after boot millilitre).controlFlowArray 3).pulsesToDeliver.toNat ≤
        pulsesRaised 3 (sinceStart 3 millilitre) := by
  have pulse {prior : List (Step Operation)} : freshStart 3 prior ⟨6000, .sensorInterrupt 3⟩ :=
    fun starts => absurd starts List.not_mem_nil
  have since : sinceStart 3 millilitre =
      ⟨7000, .sensorFlowUpdate⟩ :: List.replicate 5 ⟨6000, .sensorInterrupt 3⟩ := rfl
  refine requested_volume_delivered 7000 ?_ (by decide) (by decide) ?_
  · refine ⟨⟨⟨⟨⟨⟨⟨trivial, by decide, fun _ => rfl⟩, by decide, pulse⟩, by decide, pulse⟩,
      by decide, pulse⟩, by decide, pulse⟩, by decide, pulse⟩, by decide, ?_⟩
    exact fun starts => absurd starts List.not_mem_nil
  · rw [since]
    intro step listed pulses
    rcases List.mem_cons.mp listed with rfl | interrupt
    · exact Operation.noConfusion
    · rw [List.eq_of_mem_replicate interrupt]
      exact Operation.noConfusion

/-- Five pulses wait for their flush when a flow is started for a millilitre: it is stopped although
none has been raised since. -/
theorem requested_volume_undelivered :
    let history : List (Step Operation) :=
      ⟨6000, .sensorFlowUpdate⟩ :: ⟨5000, .flowStart 3 1 0⟩ ::
        List.replicate 5 ⟨4000, .sensorInterrupt 3⟩
    let s := controller.after boot history
    s.FlowRunning 3 ∧ s.TargetReached 3 ∧ ¬ (s.controlFlowUpdate 6000).FlowActive 3 ∧
      sinceStart 3 history = [⟨6000, .sensorFlowUpdate⟩] ∧
      pulsesRaised 3 (sinceStart 3 history) < (s.controlFlowArray 3).pulsesToDeliver.toNat :=
  ⟨by decide, by decide, by decide, rfl, by decide⟩

end BlueberryIrrigation
