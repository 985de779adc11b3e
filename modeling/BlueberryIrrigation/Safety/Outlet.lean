import BlueberryIrrigation.Interface.Pass
import BlueberryIrrigation.Safety.Power
import BlueberryIrrigation.Safety.Zones

/-!
# The well pump and its outlets

The irrigation machine switches the pump and the group valves, but the garden valve belongs to the
garden flow, which has a time limit of its own and waits for the valve's minimum switching time.
The pump dead-heads when it runs against four closed valves. `control_flow_update` ends that by
opening the garden valve, `control_irrigation_temp_update` when the stage gives way, and no command
makes the pump dead-head.
-/

namespace BlueberryIrrigation

open Semantics Controller

/-- The commands but the manual toggle and the commands of single flows. -/
def Operation.LeavesOutlets : Operation → Prop
  | .start _ _ | .forceStop | .resume | .faultyDetectionToggle _ | .assign _
  | .pulsesTotalSet _ _ => True
  | _ => False

theorem Operation.LeavesOutlets.leavesPowerAlone {operation : Operation}
    (command : operation.LeavesOutlets) : operation.LeavesPowerAlone := by
  cases operation <;> first | exact trivial | exact command.elim

namespace Controller

/-- The pump runs against closed valves. -/
structure DeadHeads (s : Controller) : Prop where
  pump : s.IsOn 1
  groups : ∀ valve ∈ groupValves, ¬ s.IsOn valve
  garden : ¬ s.IsOn 13

theorem deadHeads_iff (s : Controller) : s.DeadHeads ↔
    s.IsOn 1 ∧ (∀ valve ∈ groupValves, ¬ s.IsOn valve) ∧ ¬ s.IsOn 13 :=
  ⟨fun dead => ⟨dead.pump, dead.groups, dead.garden⟩, fun ⟨pump, groups, garden⟩ =>
    ⟨pump, groups, garden⟩⟩

instance decidableDeadHeads (s : Controller) : Decidable s.DeadHeads :=
  have : Decidable (∀ valve ∈ groupValves, ¬ s.IsOn valve) := List.decidableBAll _ groupValves
  decidable_of_iff _ (deadHeads_iff s).symm

/-- The same relays dead-head alike. -/
theorem DeadHeads.congr {s t : Controller} (same : ∀ device, t.IsOn device ↔ s.IsOn device) :
    t.DeadHeads ↔ s.DeadHeads := by
  simp only [deadHeads_iff, same]

/-! ## The garden valve -/

section

variable [FlowArithmetic] (now : Nat)

/-- The garden flow opens its valve in this call of `control_flow_update`. -/
def GardenValveOpens (s : Controller) : Prop :=
  s.FlowRunning 5 ∧ ¬ s.FlowDue now 5 ∧ s.FlowWanting now 5 ∧
    s.deviceIsTimeSwitchMinimumPassed now 13 = true

/-- The turn of the garden flow is the last, and nothing before it has touched what it looks at. -/
theorem controlFlowRegulateAll_garden (s : Controller) : ∃ t : Controller,
    s.controlFlowRegulateAll now = t.controlFlowRegulate now 5 ∧
      t.controlFlowArray 5 = s.controlFlowArray 5 ∧ t.sensorFlowArray = s.sensorFlowArray ∧
      t.deviceArray 13 = s.deviceArray 13 := by
  have flows : List.finRange 6 = [0, 1, 2, 3, 4] ++ [5] := by decide
  refine ⟨[0, 1, 2, 3, 4].foldl (fun s flow => s.controlFlowRegulate now flow) s, ?_, ?_⟩
  · unfold controlFlowRegulateAll
    rw [flows, List.foldl_append, List.foldl_cons, List.foldl_nil]
  · have others : ∀ flow ∈ ([0, 1, 2, 3, 4] : List (Fin 6)), (5 : Fin 6) ≠ flow ∧
        (13 : Fin 15) ≠ controlFlowDevice flow := by decide
    apply List.foldlRecOn [0, 1, 2, 3, 4] _ (motive := fun t : Controller =>
      t.controlFlowArray 5 = s.controlFlowArray 5 ∧ t.sensorFlowArray = s.sensorFlowArray ∧
        t.deviceArray 13 = s.deviceArray 13)
    · exact ⟨rfl, rfl, rfl⟩
    · rintro t ⟨record, sensors, valve⟩ flow listed
      obtain ⟨other, apart⟩ := others flow listed
      obtain ⟨kept, read⟩ := controlFlowRegulate_other now other t
      refine ⟨kept.trans record, read.trans sensors, Eq.trans ?_ valve⟩
      rcases controlFlowRegulate_cases now flow t with same | ⟨-, -, stopped⟩ |
        ⟨-, -, isActive, toggled⟩
      · rw [same]
      · rw [stopped]
        exact (Untouched.controlFlowStop now flow t apart (by decide) (by decide)).same
      · rw [toggled]
        exact (Untouched.deviceToggle apart now isActive t).same

/-- What the other regulators do behind the flows leaves the garden valve alone. -/
theorem controlFlowUpdate_garden (s : Controller) :
    (s.controlFlowUpdate now).IsOn 13 ↔ (s.controlFlowRegulateAll now).IsOn 13 := by
  unfold controlFlowUpdate
  rw [(DetectionOnly.controlFlowDetection now _).isOn_iff]
  have pumped : ((s.controlFlowRegulateAll now).controlFlowSupplementPump now).IsOn 13 ↔
      (s.controlFlowRegulateAll now).IsOn 13 := by
    rcases controlFlowSupplementPump_cases now (s.controlFlowRegulateAll now) with same |
      ⟨-, toggled⟩
    · rw [same]
    · rw [toggled]
      simp
  rw [← pumped]
  rcases controlFlowWaterValve_cases now
    ((s.controlFlowRegulateAll now).controlFlowSupplementPump now) with same |
    ⟨-, isActive, toggled⟩
  · rw [same]
  · rw [toggled]
    simp

/-- `control_flow_update` opens a closed garden valve for the garden flow only. -/
theorem controlFlowUpdate_opens {s : Controller} (closed : ¬ s.IsOn 13) :
    (s.controlFlowUpdate now).IsOn 13 ↔ s.GardenValveOpens now := by
  obtain ⟨t, turned, record, sensors, valve⟩ := controlFlowRegulateAll_garden now s
  have off : ¬ t.IsOn 13 := by
    unfold IsOn
    rwa [valve]
  have looked : t.GardenValveOpens now ↔ s.GardenValveOpens now := by
    unfold GardenValveOpens FlowRunning FlowActive FlowDue FlowWanting
      deviceIsTimeSwitchMinimumPassed
    rw [record, sensors, valve]
  rw [controlFlowUpdate_garden, turned, ← looked]
  have own : controlFlowDevice 5 = 13 := rfl
  unfold GardenValveOpens
  by_cases running : t.FlowRunning 5
  · by_cases due : t.FlowDue now 5
    · rw [controlFlowRegulate_of_due now running due]
      simp only [due, not_true_eq_false, false_and, and_false, iff_false]
      exact fun on => (controlFlowStop_isOn now 5 t on).1 rfl
    · by_cases wanting : t.FlowWanting now 5
      · rw [controlFlowRegulate_of_wanting now running due wanting, own]
        by_cases passed : t.deviceIsTimeSwitchMinimumPassed now 13 = true
        · simp [passed, off, running, due, wanting]
        · simp [passed, off]
      · rw [controlFlowRegulate_of_ahead now running due wanting, own]
        simp [off, wanting]
  · rw [controlFlowRegulate_of_idle now running]
    simp [off, running]

end

/-! ## The stage -/

section

variable [FlowArithmetic] {now : Nat} {s : Controller}

/-- With the group valves closed, this call of `control_irrigation_temp_update` opens one of them or
switches the pump off: a fault stops the program, or the stage of a known program is over. -/
def StageGivesWay (now : Nat) (s : Controller) : Prop :=
  s.IsFaulty ∨ (s.irrigation.program.Known ∧ s.StageOver now)

/-- After the cleaning has begun a valve is open, and otherwise the pump is off. -/
theorem cleanOrFinish_relieves (isCleaning : Flag) (ready : s.irrigation.status = .ready) :
    ¬ (s.cleanOrFinish now isCleaning).DeadHeads := by
  intro dead
  unfold cleanOrFinish at dead
  split at dead
  · refine dead.groups 12 (by decide) ?_
    exact (start_ready_isOn now s .cleaning isCleaning ready 12).mpr (.inl (by decide))
  · simpa using dead.pump

/-- A turn of the program ends the dead-heading exactly when the stage of a known program ends. -/
theorem updateProgram_deadHeads (ready : s.irrigation.status = .ready) (pump : s.IsOn 1)
    (groups : ∀ valve ∈ groupValves, ¬ s.IsOn valve) :
    (s.updateProgram now).DeadHeads ↔
      ¬ s.IsOn 13 ∧ ¬ (s.irrigation.program.Known ∧ s.StageOver now) := by
  have closed : ¬ s.IsOn 10 ∧ ¬ s.IsOn 11 := ⟨groups 10 (by decide), groups 11 (by decide)⟩
  have still : s.DeadHeads ↔ ¬ s.IsOn 13 := ⟨fun dead => dead.garden, fun garden =>
    ⟨pump, groups, garden⟩⟩
  -- the stage of a known program is over, and the turn relieves the pump
  have gaveWay : ∀ {t : Controller} {program : Program}, s.irrigation.program = program →
      program.Known → s.StageOver now → ¬ t.DeadHeads →
      (t.DeadHeads ↔ ¬ s.IsOn 13 ∧ ¬ (s.irrigation.program.Known ∧ s.StageOver now)) := by
    rintro t _ rfl known expired relieved
    exact iff_of_false relieved fun waits => waits.2 ⟨known, expired⟩
  have step := programTurn now s
  generalize s.updateProgram now = t at step ⊢
  cases step with
  | waits running => simp [still, running]
  | endless unknown => simp [still, unknown]
  | groupOver valve expired group =>
      rcases group with ⟨program, -⟩ | ⟨program, -⟩
      · exact gaveWay program trivial expired (cleanOrFinish_relieves 1 ready)
      · exact gaveWay program trivial expired (cleanOrFinish_relieves 1 ready)
  | bothNext _ _ first => exact absurd first closed.1
  | bothOver expired program =>
      exact gaveWay program trivial expired (cleanOrFinish_relieves s.irrigation.isCleaning ready)
  | washFirst expired program =>
      refine gaveWay program trivial expired fun dead => dead.groups 10 (by decide) ?_
      simp
  | washSecond _ _ first => exact absurd first closed.1
  | washOver _ _ second => exact absurd second.2 closed.2
  | gardenOver expired program =>
      refine gaveWay program trivial expired fun dead => ?_
      simpa using dead.pump

/-- With the group valves closed, an update in `READY` leaves the pump dead-heading unless the
garden valve is open or the stage gives way. -/
theorem update_deadHeads (ready : s.irrigation.status = .ready) (pump : s.IsOn 1)
    (groups : ∀ valve ∈ groupValves, ¬ s.IsOn valve) :
    (s.controlIrrigationTempUpdate now).DeadHeads ↔ ¬ s.IsOn 13 ∧ ¬ s.StageGivesWay now := by
  unfold controlIrrigationTempUpdate StageGivesWay
  simp only [ready]
  by_cases faulty : s.IsFaulty
  · rw [if_pos faulty]
    refine iff_of_false (fun dead => ?_) fun gives => gives.2 (.inl faulty)
    simpa using dead.pump
  · rw [if_neg faulty, updateProgram_deadHeads ready pump groups]
    simp [faulty]

end

end Controller

/-! ## Commands -/

section

variable [FlowArithmetic] {now clock : Nat} {s : Controller}

/-- A command never makes the pump dead-head. -/
theorem obey_deadHeads {command : Option Operation} (power : PowerInvariant clock s)
    (allowed : ∀ operation ∈ command, operation.LeavesOutlets)
    (dead : (s.obey now command).DeadHeads) : s.DeadHeads := by
  cases command with
  | none => exact dead
  | some operation =>
      have leaves := allowed operation rfl
      have kept (t : Controller) (same : ∀ device, t.IsOn device ↔ s.IsOn device) :
          t.DeadHeads → s.DeadHeads := (DeadHeads.congr same).mp
      change (operation.run now s).DeadHeads at dead
      cases operation with
      | start program isCleaning =>
          change (s.controlIrrigationTempStart now program isCleaning).DeadHeads at dead
          by_cases ready : s.irrigation.status = .ready
          · have on := start_ready_isOn now s program isCleaning ready
            have groups (valve : Fin 15) (listed : valve ∈ groupValves) : ¬ s.IsOn valve :=
              fun before => dead.groups valve listed ((on valve).mpr (.inr before))
            exact ⟨power.pump.mpr ready, groups, fun before =>
              dead.garden ((on 13).mpr (.inr before))⟩
          · have dry : ¬ s.IsOn 1 := fun on => ready (power.pump.mp on)
            rw [start_of_not_ready now s program isCleaning ready] at dead
            exact absurd dead.pump (by simpa using dry)
      | forceStop => exact absurd dead.pump (forceStop_isOn now s 1)
      | resume =>
          change (s.controlIrrigationTempResume now).DeadHeads at dead
          by_cases running : s.irrigation.isStopped = 0
          · rwa [resume_of_not_stopped now s running] at dead
          · have ready := power.elsewhere running
            have dry : ¬ s.IsOn 1 := fun on => ready (power.pump.mp on)
            rw [resume_of_not_ready now s running ready] at dead
            exact absurd dead.pump (by simpa using dry)
      | faultyDetectionToggle | pulsesTotalSet =>
          refine kept _ ?_ dead
          exact fun _ => Iff.rfl
      | assign setting => exact kept _ (fun device => s.assign_isOn setting device) dead
      | _ => exact leaves.elim

theorem PowerInvariant.obey {command : Option Operation} (power : PowerInvariant clock s)
    (ordered : clock ≤ now) (allowed : ∀ operation ∈ command, operation.LeavesOutlets) :
    PowerInvariant now (s.obey now command) := by
  cases command with
  | none => exact power.later ordered
  | some operation => exact power.run ordered (allowed operation rfl).leavesPowerAlone

end

/-! ## Iterations -/

section

variable {clock now : Nat} {s : Controller} {input : LoopInput} {command : Option Operation}

/-- The relays, the flows and the machine are as they were. -/
structure ReadingsOnly (before after : Controller) : Prop where
  deviceArray : after.deviceArray = before.deviceArray
  controlFlowArray : after.controlFlowArray = before.controlFlowArray
  irrigation : after.irrigation = before.irrigation

namespace ReadingsOnly

variable {first second third : Controller}

theorem trans (before : ReadingsOnly first second) (after : ReadingsOnly second third) :
    ReadingsOnly first third :=
  ⟨after.deviceArray.trans before.deviceArray, after.controlFlowArray.trans before.controlFlowArray,
    after.irrigation.trans before.irrigation⟩

theorem of_sensors (sensors : SensorsOnly first second) : ReadingsOnly first second :=
  ⟨sensors.deviceArray, sensors.controlFlowArray, sensors.irrigation⟩

theorem deviceUpdate (now : Nat) (s : Controller) : ReadingsOnly s (s.deviceUpdate now) :=
  have fields := deviceUpdate_fields now s
  ⟨fields.1, fields.2.1, fields.2.2.1⟩

theorem interrupt (moment : Moment) (s : Controller) : ReadingsOnly s (moment.interrupt s) := by
  unfold Moment.interrupt
  induction moment.interrupts generalizing s with
  | nil => exact ⟨rfl, rfl, rfl⟩
  | cons sensor rest ih => exact (of_sensors (.sensorFlowInterrupt sensor s)).trans (ih _)

theorem isOn_iff (readings : ReadingsOnly first second) (device : Fin 15) :
    second.IsOn device ↔ first.IsOn device := by
  unfold IsOn
  rw [readings.deviceArray]

theorem flowActive_iff (readings : ReadingsOnly first second) (flow : Fin 6) :
    second.FlowActive flow ↔ first.FlowActive flow := by
  unfold FlowActive
  rw [readings.controlFlowArray]

/-- Before `control_flow_update` an iteration only reads. -/
theorem atControlFlow (input : LoopInput) (s : Controller) :
    ReadingsOnly s (s.atControlFlow input) := by
  have devices := (interrupt input.device s).trans (deviceUpdate input.device.now _)
  have flows := (devices.trans (interrupt input.sensorFlow _)).trans
    (of_sensors (.sensorFlowUpdate input.sensorFlow.now _))
  have pressures := (flows.trans (interrupt input.sensorPressure _)).trans
    (of_sensors (.sensorPressureUpdate input.sensorPressure.now input.readings _))
  exact pressures.trans (interrupt input.controlFlow _)

end ReadingsOnly

section

variable [FlowArithmetic]

theorem PowerInvariant.interrupt (power : PowerInvariant clock s) {moment : Moment}
    (ordered : clock ≤ moment.now) : PowerInvariant moment.now (moment.interrupt s) := by
  unfold Moment.interrupt
  induction moment.interrupts generalizing clock s with
  | nil => exact power.later ordered
  | cons sensor rest ih =>
      have alone : (Operation.sensorInterrupt sensor).LeavesPowerAlone := trivial
      exact ih (power.run ordered alone) (Nat.le_refl moment.now)

/-- The power at the call of `interface_process_data`. -/
theorem PowerInvariant.atDispatch (power : PowerInvariant clock s) (ordered : input.Ordered clock) :
    PowerInvariant input.interface.now (s.atDispatch input) := by
  have call : ∀ {clock : Nat} {s : Controller} {moment : Moment} (operation : Operation),
      PowerInvariant clock s → clock ≤ moment.now → operation.LeavesPowerAlone →
      PowerInvariant moment.now (operation.run moment.now (moment.interrupt s)) :=
    fun operation power ordered alone => (power.interrupt ordered).run (Nat.le_refl _) alone
  have device := call .deviceUpdate power ordered.device trivial
  have flows := call .sensorFlowUpdate device ordered.sensorFlow trivial
  have pressures := call (.sensorPressureUpdate input.readings) flows ordered.sensorPressure trivial
  have regulated := call .controlFlowUpdate pressures ordered.controlFlow trivial
  have updated := call .irrigationUpdate regulated ordered.irrigation trivial
  exact (updated.interrupt ordered.internet).interrupt ordered.interface

/-- No command of the iteration is a manual toggle or a command of a single flow. -/
structure Controller.Commanded (input : LoopInput) (command : Option Operation) : Prop where
  network : ∀ operation ∈ command, operation.LeavesOutlets
  serial : ∀ s, ∀ operation ∈ input.serial.operation s, operation.LeavesOutlets

theorem PowerInvariant.pass (power : PowerInvariant clock s) (ordered : input.Ordered clock)
    (commanded : Controller.Commanded input command) :
    PowerInvariant input.interfaceSerial.now (s.pass input command) := by
  have dispatched := (power.atDispatch ordered).obey (Nat.le_refl _) commanded.network
  have served := dispatched.interrupt ordered.interfaceSerial
  exact served.obey (Nat.le_refl _) (commanded.serial _)

omit [FlowArithmetic] in
/-- No control flow drives a group valve. -/
theorem groupValves_undriven : ∀ device ∈ groupValves,
    (∀ flow, device ≠ controlFlowDevice flow) ∧ device ≠ 3 ∧ device ≠ 9 := by
  decide

/-- Up to its `control_irrigation_temp_update` an iteration leaves the pump and the group valves
alone. -/
theorem atIrrigation_isOn (well : ¬ s.FlowActive 0) {device : Fin 15}
    (listed : device = 1 ∨ device ∈ groupValves) :
    (s.atIrrigation input).IsOn device ↔ s.IsOn device := by
  have reading := ReadingsOnly.atControlFlow input s
  have regulated : Untouched device (s.atControlFlow input)
      ((s.atControlFlow input).controlFlowUpdate input.controlFlow.now) := by
    rcases listed with rfl | group
    · refine .controlFlowUpdate _ (fun flow active => ?_) (by decide) (by decide)
      have other : flow ≠ 0 := by
        rintro rfl
        exact well ((reading.flowActive_iff 0).mp active)
      exact (controlFlowDevice_ne_one other).symm
    · obtain ⟨undriven, pump, water⟩ := groupValves_undriven device group
      exact .controlFlowUpdate _ (fun flow _ => undriven flow) pump water
  exact ((ReadingsOnly.interrupt input.irrigation _).isOn_iff device).trans
    (regulated.isOn_iff.trans (reading.isOn_iff device))

/-- The garden valve is open by then if the garden flow opens it. -/
theorem atIrrigation_garden (closed : ¬ s.IsOn 13) :
    (s.atIrrigation input).IsOn 13 ↔
      (s.atControlFlow input).GardenValveOpens input.controlFlow.now := by
  have still : ¬ (s.atControlFlow input).IsOn 13 :=
    mt ((ReadingsOnly.atControlFlow input s).isOn_iff 13).mp closed
  rw [← controlFlowUpdate_opens _ still]
  exact (ReadingsOnly.interrupt input.irrigation _).isOn_iff 13

theorem atIrrigation_irrigation (input : LoopInput) (s : Controller) :
    (s.atIrrigation input).irrigation = s.irrigation :=
  (ReadingsOnly.interrupt input.irrigation _).irrigation.trans
    ((controlFlowUpdate_irrigation input.controlFlow.now _).trans
      (ReadingsOnly.atControlFlow input s).irrigation)

end

end

end BlueberryIrrigation
