import BlueberryIrrigation.Controller.FlowWindows

/-!
# The pulses of a fault window

The window of a flow begins where `pulses_last` was taken, at the flow's start or at its last check,
and ends at the total of its sensor. The total belongs to the sensor, and others clear or write it
while `pulses_last` stays: the start of a flow with the same sensor, the start of a group, a serial
command. As long as no active flow is disturbed so, the unsigned difference of the two is the number
of pulses that were added since.
-/

namespace BlueberryIrrigation

open Semantics Controller

/-! ## Totals -/

namespace Operation

/-- The total that an operation leaves of a sensor before it adds pulses: nothing, what is written
to it, or what was there. -/
def assignedTotal (now : Nat) (s : Controller) (sensor : Fin 5) : Operation → UInt32
  | .pulsesTotalSet written pulses =>
      if sensor = written then pulses else (s.sensorFlowArray sensor).pulsesTotal
  | operation => (s.clearedSensor (operation.sensorsCleared now s) sensor).pulsesTotal

/-- The pulses that an operation adds to the total. -/
def flushedPulses (now : Nat) (s : Controller) (sensor : Fin 5) : Operation → Nat
  | .sensorFlowUpdate =>
      if millis now - s.sensorFlowTimeUpdateLast < sensorFlowUpdateInterval then 0
      else (s.sensorFlowArray sensor).pulsesInterrupt.toNat
  | _ => 0

/-- An operation that neither clears nor writes the total leaves it to be added to. -/
theorem assignedTotal_of_kept {operation : Operation} {now : Nat} {s : Controller}
    {sensor : Fin 5} (uncleared : sensor ∉ operation.sensorsCleared now s)
    (unwritten : ∀ pulses, operation ≠ .pulsesTotalSet sensor pulses) :
    operation.assignedTotal now s sensor = (s.sensorFlowArray sensor).pulsesTotal := by
  cases operation with
  | pulsesTotalSet written pulses =>
      refine if_neg ?_
      rintro rfl
      exact unwritten pulses rfl
  | _ => exact if_neg (t := 0) uncleared

end Operation

section

variable [FlowArithmetic] {now : Nat} {s : Controller}

/-- Every operation assigns a total and adds the pulses that it flushes. -/
theorem run_pulsesTotal {operation : Operation} {sensor : Fin 5}
    (fits : (s.sensorFlowArray sensor).pulsesTotal.toNat +
      operation.flushedPulses now s sensor < 2 ^ 32) :
    ((operation.run now s).sensorFlowArray sensor).pulsesTotal.toNat =
      (operation.assignedTotal now s sensor).toNat + operation.flushedPulses now s sensor := by
  by_cases writes : operation.WritesSensor
  · cases operation with
    | sensorFlowUpdate =>
        have same : Operation.sensorFlowUpdate.assignedTotal now s sensor =
            (s.sensorFlowArray sensor).pulsesTotal :=
          Operation.assignedTotal_of_kept List.not_mem_nil fun _ => Operation.noConfusion
        rw [same]
        change ((s.sensorFlowUpdate now).sensorFlowArray sensor).pulsesTotal.toNat = _
        unfold Operation.flushedPulses at fits ⊢
        by_cases waiting : millis now - s.sensorFlowTimeUpdateLast < sensorFlowUpdateInterval
        · unfold sensorFlowUpdate
          rw [if_pos waiting, if_pos waiting, Nat.add_zero]
        · simp only [if_neg waiting] at fits ⊢
          rw [sensorFlowUpdate_eq waiting]
          dsimp only
          rw [UInt32.toNat_add, UInt16.toNat_toUInt32]
          exact Nat.mod_eq_of_lt fits
    | sensorInterrupt counted =>
        have same : (Operation.sensorInterrupt counted).assignedTotal now s sensor =
            (s.sensorFlowArray sensor).pulsesTotal :=
          Operation.assignedTotal_of_kept List.not_mem_nil fun _ => Operation.noConfusion
        rw [same]
        exact congrArg UInt32.toNat (sensorFlowInterrupt_pulsesTotal counted sensor s)
    | pulsesTotalSet written pulses =>
        change ((s.sensorFlowPulsesTotalSet written pulses).sensorFlowArray
          sensor).pulsesTotal.toNat = (if sensor = written then _ else _ : UInt32).toNat + 0
        by_cases own : sensor = written
        · subst own
          simp [sensorFlowPulsesTotalSet, setSensor]
        · simp [sensorFlowPulsesTotalSet, setSensor, own]
    | assign setting =>
        cases setting with
        | pulsesPerLiter changed pulses =>
            have same : (Operation.assign (.pulsesPerLiter changed pulses)).assignedTotal now s
                sensor = (s.sensorFlowArray sensor).pulsesTotal :=
              Operation.assignedTotal_of_kept List.not_mem_nil fun _ => Operation.noConfusion
            rw [same]
            change ((s.sensorFlowPulsesPerLiterSet changed pulses).sensorFlowArray
              sensor).pulsesTotal.toNat = _ + 0
            by_cases own : sensor = changed
            · subst own
              simp [sensorFlowPulsesPerLiterSet, setSensor]
            · simp [sensorFlowPulsesPerLiterSet, setSensor, own]
        | _ => exact writes.elim
    | _ => exact writes.elim
  · have cleared := run_sensorFlowArray now s writes sensor
    rw [cleared]
    cases operation <;> first | rfl | exact absurd trivial writes

omit [FlowArithmetic] in
/-- What starts a flow clears its total and flushes nothing. -/
theorem assignedTotal_of_starts {operation : Operation} {flow : Fin 6}
    (starts : flow ∈ operation.flowsStarted now s) :
    operation.assignedTotal now s (controlFlowSensor flow) = 0 ∧
      operation.flushedPulses now s (controlFlowSensor flow) = 0 := by
  have cleared := Operation.sensor_cleared starts
  cases operation with
  | flowStart | start | irrigationUpdate => exact ⟨if_pos cleared, rfl⟩
  | _ => exact absurd starts List.not_mem_nil

/-! ## Windows -/

/-- The step assigns the total of the flow another value. -/
def Disturbs (flow : Fin 6) (prior : List (Step Operation)) (step : Step Operation) : Prop :=
  step.operation.assignedTotal step.now (controller.after boot prior) (controlFlowSensor flow) ≠
    ((controller.after boot prior).sensorFlowArray (controlFlowSensor flow)).pulsesTotal

instance decidableDisturbs (flow : Fin 6) (prior : List (Step Operation))
    (step : Step Operation) : Decidable (Disturbs flow prior step) :=
  inferInstanceAs (Decidable (_ ≠ _))

/-- The total has been disturbed since the window was taken. -/
def Disturbed (flow : Fin 6) : List (Step Operation) → Prop
  | [] => False
  | step :: prior =>
      ¬ StartsFlow flow prior step ∧ ¬ ChecksFlow flow prior step ∧
        (Disturbed flow prior ∨ Disturbs flow prior step)

instance decidableDisturbed (flow : Fin 6) :
    (history : List (Step Operation)) → Decidable (Disturbed flow history)
  | [] => inferInstanceAs (Decidable False)
  | step :: prior =>
      have := decidableDisturbed flow prior
      inferInstanceAs (Decidable (¬ StartsFlow flow prior step ∧ ¬ ChecksFlow flow prior step ∧
        (Disturbed flow prior ∨ Disturbs flow prior step)))

/-- The pulses added to the total since the window was taken. -/
def pulsesAdded (flow : Fin 6) : List (Step Operation) → Nat
  | [] => 0
  | step :: prior =>
      if StartsFlow flow prior step ∨ ChecksFlow flow prior step then 0
      else pulsesAdded flow prior +
        step.operation.flushedPulses step.now (controller.after boot prior) (controlFlowSensor flow)

/-- No total passes 32 bits, and no flow whose pulses are checked is disturbed while it is active or
comes back disturbed. -/
structure windowsSpared (prior : List (Step Operation)) (step : Step Operation) : Prop where
  fits : ∀ sensor, ((controller.after boot prior).sensorFlowArray sensor).pulsesTotal.toNat +
    step.operation.flushedPulses step.now (controller.after boot prior) sensor < 2 ^ 32
  active : ∀ flow, flow ≠ 5 → (controller.after boot prior).FlowActive flow →
    ¬ StartsFlow flow prior step → ¬ Disturbs flow prior step
  revived : ∀ flow, flow ≠ 5 → ¬ (controller.after boot prior).FlowActive flow →
    (controller.after boot (step :: prior)).FlowActive flow → ¬ Disturbed flow (step :: prior)

/-- An undisturbed window holds the pulses that were added since it was taken. -/
theorem window_counted {flow : Fin 6} {history : List (Step Operation)}
    (admitted : Machine.Admitted windowsSpared setupTime history)
    (undisturbed : ¬ Disturbed flow history) :
    ((controller.after boot history).sensorFlowArray (controlFlowSensor flow)).pulsesTotal.toNat =
      ((controller.after boot history).controlFlowArray flow).pulsesLast.toNat +
        pulsesAdded flow history := by
  induction history with
  | nil => rfl
  | cons step prior ih =>
      obtain ⟨before, -, spared⟩ := admitted
      have total := run_pulsesTotal (spared.fits (controlFlowSensor flow))
      have last := pulsesLast_cons flow prior step
      rw [Machine.after_cons] at last ⊢
      change ((step.operation.run step.now (controller.after boot prior)).sensorFlowArray
        (controlFlowSensor flow)).pulsesTotal.toNat = _
      rw [total, last]
      by_cases starts : StartsFlow flow prior step
      · obtain ⟨cleared, unflushed⟩ := assignedTotal_of_starts starts
        rw [if_pos starts, pulsesAdded, if_pos (.inl starts), cleared, unflushed]
      · rw [if_neg starts]
        by_cases checks : ChecksFlow flow prior step
        · have kept : step.operation.assignedTotal step.now (controller.after boot prior)
              (controlFlowSensor flow) = ((controller.after boot prior).sensorFlowArray
                (controlFlowSensor flow)).pulsesTotal := by
            rw [checks.1]
            exact Operation.assignedTotal_of_kept List.not_mem_nil fun _ => Operation.noConfusion
          rw [if_pos checks, pulsesAdded, if_pos (.inr checks), kept, checks.1]
          rfl
        · have calm : ¬ Disturbed flow prior ∧ ¬ Disturbs flow prior step :=
            not_or.mp fun either => undisturbed ⟨starts, checks, either⟩
          have kept := not_not.mp calm.2
          rw [if_neg checks, pulsesAdded, if_neg (not_or.mpr ⟨starts, checks⟩), kept,
            ih before calm.1, Nat.add_assoc]

/-- An active flow is undisturbed. -/
theorem active_undisturbed {flow : Fin 6} {history : List (Step Operation)} (counted : flow ≠ 5)
    (admitted : Machine.Admitted windowsSpared setupTime history)
    (active : (controller.after boot history).FlowActive flow) : ¬ Disturbed flow history := by
  refine admitted.along (fun history => (controller.after boot history).FlowActive flow →
    ¬ Disturbed flow history) (fun _ => id) ?_ active
  intro step prior _ undisturbed _ spared active
  by_cases before : (controller.after boot prior).FlowActive flow
  · rintro ⟨unstarted, -, earlier | disturbs⟩
    · exact undisturbed before earlier
    · exact spared.active flow counted before unstarted disturbs
  · exact spared.revived flow counted before active

/-- The window of the garden is taken at its starts alone. -/
theorem garden_window (history : List (Step Operation)) :
    ((controller.after boot history).controlFlowArray 5).pulsesLast = 0 := by
  induction history with
  | nil => rfl
  | cons step prior ih =>
      have last := pulsesLast_cons 5 prior step
      rw [last, if_neg fun checks : ChecksFlow 5 prior step => checks.2.1 rfl, ih]
      exact ite_self 0

/-- In every state the window of an active flow begins at or below its total, and the difference
that the detection compares is the number of pulses added since. -/
theorem window_exact {history : List (Step Operation)}
    (admitted : Machine.Admitted windowsSpared setupTime history) (flow : Fin 6)
    (active : (controller.after boot history).FlowActive flow) :
    ((controller.after boot history).controlFlowArray flow).pulsesLast ≤
        ((controller.after boot history).sensorFlowArray (controlFlowSensor flow)).pulsesTotal ∧
      (flow ≠ 5 →
        ((controller.after boot history).windowPulses flow).toNat = pulsesAdded flow history) := by
  by_cases counted : flow = 5
  · subst counted
    refine ⟨?_, fun other => absurd rfl other⟩
    rw [garden_window]
    exact UInt32.zero_le
  · have total := window_counted admitted (active_undisturbed counted admitted active)
    have below : ((controller.after boot history).controlFlowArray flow).pulsesLast ≤
        ((controller.after boot history).sensorFlowArray (controlFlowSensor flow)).pulsesTotal := by
      rw [UInt32.le_iff_toNat_le, total]
      exact Nat.le_add_right _ _
    refine ⟨below, fun _ => ?_⟩
    unfold windowPulses
    rw [UInt32.toNat_sub_of_le _ _ below, total]
    exact Nat.add_sub_cancel_left ..

end

/-- The well's flow is checked after one pulse. -/
def wellChecked : List (Step Operation) :=
  [⟨15001, .controlFlowUpdate⟩, ⟨15000, .sensorFlowUpdate⟩, ⟨14000, .sensorInterrupt 0⟩,
    ⟨6000, .sensorPressureUpdate fun _ => 500⟩, ⟨5000, .flowStart 0 1000 3600⟩]

theorem admitted_wellChecked : Machine.Admitted windowsSpared setupTime wellChecked :=
  ⟨⟨⟨⟨⟨trivial, by decide, by decide, by decide, by decide⟩, by decide, by decide, by decide,
    by decide⟩, by decide, by decide, by decide, by decide⟩, by decide, by decide, by decide,
    by decide⟩, by decide, by decide, by decide, by decide⟩

/-- Another pulse is the only one in the next window. -/
theorem window_exact_wellChecked :
    let history : List (Step Operation) :=
      ⟨17000, .sensorFlowUpdate⟩ :: ⟨16000, .sensorInterrupt 0⟩ :: wellChecked
    ((controller.after boot history).windowPulses 0).toNat = 1 := by
  intro history
  have admitted : Machine.Admitted windowsSpared setupTime history :=
    ⟨⟨admitted_wellChecked, by decide, by decide, by decide, by decide⟩, by decide, by decide,
      by decide, by decide⟩
  exact (window_exact admitted 0 (by decide)).2 (by decide)

/-- The garden is started while the well's flow is active: the next check reads the window of the
well's flow as an excessive flow although no pulse was added. -/
theorem window_underflows :
    let s := controller.after boot (⟨16000, .flowStart 5 0 60⟩ :: wellChecked)
    s.FlowActive 0 ∧
      ¬ (s.controlFlowArray 0).pulsesLast ≤ (s.sensorFlowArray 0).pulsesTotal ∧
      pulsesAdded 0 (⟨16000, .flowStart 5 0 60⟩ :: wellChecked) = 0 ∧
      s.windowPulses 0 = 4294967295 ∧
      (s.controlFlowUpdate 26001).faultyDetectionStatus = .detectedFlowMore := by
  decide

end BlueberryIrrigation
