import BlueberryIrrigation.Safety.Zones

/-!
# Deliveries and the end of the irrigation

The irrigation machine and the control flows end on clocks of their own, and nothing in the
machine's last turn looks at a flow. A program leaves no delivery behind exactly when the
`control_flow_update` before that turn has already ended it, which is what `FlowsDue` asks of
the loop pass in which a program ends.
-/

namespace BlueberryIrrigation

open Semantics Controller

/-- The supplement flows and the garden flow, which the irrigation machine starts. -/
def deliveryFlows : List (Fin 6) := [1, 2, 5]

/-- The relays of a delivery: acid pump, supplement pump, supplement valves and zones. -/
def deliveryDevices : List (Fin 15) := [2, 3, 7, 8, 9, 10, 11, 12, 13]

/-- The programs in whose stages the acid pump runs. -/
def Program.Irrigates : Program → Prop
  | .group1 | .group2 | .both => True
  | _ => False

/-- The turn that ends the program: its last stage is over. -/
def EndsProgram (now : Nat) (s : Controller) : Prop :=
  s.irrigation.status = .ready ∧ ¬ s.IsFaulty ∧ s.StageOver now ∧
    match s.irrigation.program with
    | .group1 | .group2 => s.irrigation.isCleaning = 0
    | .both => ¬ s.IsOn 10 ∧ s.irrigation.isCleaning = 0
    | .cleaning => ¬ s.IsOn 10 ∧ s.IsOn 11
    | .garden => True
    | .unknown _ => False

/-- The operations of a run in which deliveries are left to the machine: no manual toggle, no
flow command, and no start over a running program. -/
def Operation.LeavesDeliveries (s : Controller) : Operation → Prop
  | .start program _ => program.Known ∧ s.irrigation.status ≠ .ready
  | .deviceToggle _ _ | .flowStart _ _ _ | .flowStop _ | .flowPause _ _ => False
  | _ => True

section

variable [FlowArithmetic]

/-- The loop pass has just run `control_flow_update`, with nothing but interrupts since, and
every delivery still active then was due at its clock. -/
def FlowsDue (prior : List (Step Operation)) : Prop :=
  ∃ interrupts flowTime before,
    prior = interrupts ++ ⟨flowTime, .controlFlowUpdate⟩ :: before ∧
    (∀ step ∈ interrupts, ∃ sensor, step.operation = .sensorInterrupt sensor) ∧
    ∀ flow ∈ deliveryFlows, (controller.after boot before).FlowActive flow →
      (controller.after boot before).FlowDue flowTime flow

/-- The steps of a run in which every program ends with its deliveries due. -/
def deliveryGuard (prior : List (Step Operation)) (step : Step Operation) : Prop :=
  step.operation.LeavesDeliveries (controller.after boot prior) ∧
    (step.operation = .irrigationUpdate →
      EndsProgram step.now (controller.after boot prior) → FlowsDue prior)

end

/-- The supplement valves, pump and water valve follow the supplement flows. -/
structure SupplyInvariant (s : Controller) : Prop where
  water : ¬ s.FlowActive 3
  micro : s.IsOn 7 → s.FlowActive 1
  macro_ : s.IsOn 8 → s.FlowActive 2
  line : s.IsOn 3 ∨ s.IsOn 9 → s.FlowActive 1 ∨ s.FlowActive 2

namespace SupplyInvariant

variable {now : Nat} {s t : Controller}

theorem boot : SupplyInvariant boot := ⟨by simp, by simp, by simp, by simp⟩

/-- The relays are as before, no supplement flow has ended and the water flow has not begun. -/
theorem mono (inv : SupplyInvariant s)
    (relays : ∀ device : Fin 15, device = 3 ∨ device = 7 ∨ device = 8 ∨ device = 9 →
      t.IsOn device → s.IsOn device)
    (flows : ∀ flow : Fin 6, s.FlowActive flow → t.FlowActive flow)
    (water : t.FlowActive 3 → s.FlowActive 3) : SupplyInvariant t where
  water active := inv.water (water active)
  micro on := flows 1 (inv.micro (relays 7 (by simp) on))
  macro_ on := flows 2 (inv.macro_ (relays 8 (by simp) on))
  line on := by
    have before : s.IsOn 3 ∨ s.IsOn 9 := on.imp (relays 3 (by simp)) (relays 9 (by simp))
    exact (inv.line before).imp (flows 1) (flows 2)

theorem forceStop (inv : SupplyInvariant s) :
    SupplyInvariant (s.controlIrrigationTempForceStop now) :=
  ⟨by simp [inv.water], by simp, by simp, by simp⟩

/-- Stopping a flow switches its relay off, and the line with the last supplement flow. -/
theorem controlFlowStop (inv : SupplyInvariant s) (flow : Fin 6) :
    SupplyInvariant (s.controlFlowStop now flow) := by
  have active := controlFlowStop_flowActive now flow s
  have on : ∀ {device : Fin 15}, (s.controlFlowStop now flow).IsOn device →
      device ≠ controlFlowDevice flow ∧ s.IsOn device := controlFlowStop_isOn now flow s
  refine ⟨?_, ?_, ?_, ?_⟩
  · exact fun water => inv.water ((active 3).mp water).2
  · intro open_
    obtain ⟨other, was⟩ := on open_
    refine (active 1).mpr ⟨?_, inv.micro was⟩
    rintro rfl
    exact other rfl
  · intro open_
    obtain ⟨other, was⟩ := on open_
    refine (active 2).mpr ⟨?_, inv.macro_ was⟩
    rintro rfl
    exact other rfl
  · intro line
    by_cases supplement : flow = 1 ∨ flow = 2 ∨ flow = 3
    · by_contra idle
      obtain ⟨first, second⟩ := not_or.mp idle
      have none : ∀ other : Fin 6, other = 1 ∨ other = 2 ∨ other = 3 →
          ¬ (s.controlFlowStop now flow).FlowActive other := by
        rintro other (rfl | rfl | rfl)
        · exact first
        · exact second
        · exact fun water => inv.water ((active 3).mp water).2
      obtain ⟨pump, valve⟩ := controlFlowStop_supplements now s supplement none
      exact line.elim pump valve
    · have was : s.IsOn 3 ∨ s.IsOn 9 := line.imp (fun pump => (on pump).2) fun valve => (on valve).2
      rcases inv.line was with first | second
      · refine .inl ((active 1).mpr ⟨?_, first⟩)
        rintro rfl
        exact supplement (.inl rfl)
      · refine .inr ((active 2).mpr ⟨?_, second⟩)
        rintro rfl
        exact supplement (.inr (.inl rfl))

/-- A toggle that keeps what the relays follow. -/
theorem deviceToggle (inv : SupplyInvariant s) (device : Fin 15) (isActive : Flag)
    (micro : device = 7 → s.FlowActive 1) (macro_ : device = 8 → s.FlowActive 2)
    (line : device = 3 ∨ device = 9 → s.FlowActive 1 ∨ s.FlowActive 2) :
    SupplyInvariant (s.deviceToggle now device isActive) := by
  refine ⟨inv.water, ?_, ?_, ?_⟩ <;> simp only [deviceToggle_isOn, deviceToggle_flowActive]
  · intro on
    split at on
    · rename_i same
      exact micro same.symm
    · exact inv.micro on
  · intro on
    split at on
    · rename_i same
      exact macro_ same.symm
    · exact inv.macro_ on
  · intro on
    by_cases own : device = 3 ∨ device = 9
    · exact line own
    · obtain ⟨pump, valve⟩ := not_or.mp own
      rw [if_neg (Ne.symm pump), if_neg (Ne.symm valve)] at on
      exact inv.line on

/-- Which flow drives which relay of the supplement line. -/
theorem supplement_devices (flow : Fin 6) :
    (controlFlowDevice flow = 7 ↔ flow = 1) ∧ (controlFlowDevice flow = 8 ↔ flow = 2) ∧
      (controlFlowDevice flow = 9 ↔ flow = 3) ∧ controlFlowDevice flow ≠ 3 := by
  revert flow
  decide

/-- `control_flow_update` keeps the relays with their flows. -/
theorem controlFlowUpdate [FlowArithmetic] (inv : SupplyInvariant s) (now : Nat) :
    SupplyInvariant (s.controlFlowUpdate now) := by
  refine controlFlowUpdate_preserves now SupplyInvariant ?_ ?_ ?_ ?_ ?_ inv
  · exact fun flow t held _ _ => held.controlFlowStop flow
  · intro flow isActive t held running _
    obtain ⟨micro, macro_, water, pump⟩ := supplement_devices flow
    refine held.deviceToggle _ isActive ?_ ?_ ?_
    · exact fun valve => micro.mp valve ▸ running.1
    · exact fun valve => macro_.mp valve ▸ running.1
    · rintro (supply | valve)
      · exact absurd supply pump
      · exact absurd (water.mp valve ▸ running.1) held.water
  · intro t held active
    exact held.deviceToggle 3 1 (by simp) (by simp)
      fun _ => active.imp_right fun rest => rest.resolve_right held.water
  · intro isActive t held active
    exact held.deviceToggle 9 isActive (by simp) (by simp) fun _ => active
  · intro t u held detection
    exact held.mono (fun device _ => (detection.isOn_iff device).mp)
      (fun flow => (detection.flowActive_iff flow).mpr) (detection.flowActive_iff 3).mp

end SupplyInvariant

/-- No delivery is active outside `READY`, and the acid pump runs in irrigation stages only. -/
structure DeliveryInvariant (s : Controller) : Prop where
  zones : ZoneInvariant s
  supplies : SupplyInvariant s
  idle : s.irrigation.status ≠ .ready → ∀ flow ∈ deliveryFlows, ¬ s.FlowActive flow
  acid : s.IsOn 2 → s.irrigation.status = .ready ∧ s.irrigation.program.Irrigates

namespace DeliveryInvariant

variable {now : Nat} {s t : Controller}

theorem boot : DeliveryInvariant boot := ⟨.boot, .boot, by simp, by simp⟩

/-- Outside `READY` everything of a delivery is off. -/
theorem delivered (inv : DeliveryInvariant s) (elsewhere : s.irrigation.status ≠ .ready) :
    (∀ flow ∈ deliveryFlows, ¬ s.FlowActive flow) ∧
      ∀ device ∈ deliveryDevices, ¬ s.IsOn device := by
  have idle := inv.idle elsewhere
  have first := idle 1 (by decide)
  have second := idle 2 (by decide)
  have closed := inv.zones.closed elsewhere
  refine ⟨idle, fun device listed on => ?_⟩
  simp only [deliveryDevices, List.mem_cons, List.not_mem_nil, or_false] at listed
  rcases listed with rfl | rfl | rfl | rfl | rfl | rfl | rfl | rfl | rfl
  · exact elsewhere (inv.acid on).1
  · exact (inv.supplies.line (.inl on)).elim first second
  · exact first (inv.supplies.micro on)
  · exact second (inv.supplies.macro_ on)
  · exact (inv.supplies.line (.inr on)).elim first second
  · exact closed 10 (by decide) on
  · exact closed 11 (by decide) on
  · exact closed 12 (by decide) on
  · exact idle 5 (by decide) (inv.zones.garden on)

/-- Steps that leave relays, flows and the machine alone. -/
theorem frame (inv : DeliveryInvariant s) (same : MachineKept s.irrigation t.irrigation)
    (isOn : ∀ device, t.IsOn device ↔ s.IsOn device)
    (flows : ∀ flow, t.FlowActive flow ↔ s.FlowActive flow) : DeliveryInvariant t where
  zones := inv.zones.frame same (fun valve _ => (isOn valve).mp) (flows 5).mp
    fun on => (flows 5).mpr (inv.zones.garden ((isOn 13).mp on))
  supplies := inv.supplies.mono (fun device _ => (isOn device).mp) (fun flow => (flows flow).mpr)
    (flows 3).mp
  idle := by
    rw [same.status]
    exact fun elsewhere flow listed active =>
      inv.idle elsewhere flow listed ((flows flow).mp active)
  acid := by
    rw [same.status, same.program]
    exact fun on => inv.acid ((isOn 2).mp on)

theorem forceStop (inv : DeliveryInvariant s) :
    DeliveryInvariant (s.controlIrrigationTempForceStop now) where
  zones := inv.zones.forceStop
  supplies := inv.supplies.forceStop
  idle := by
    intro _ flow listed
    simp only [deliveryFlows, List.mem_cons, List.not_mem_nil, or_false] at listed
    rcases listed with rfl | rfl | rfl <;> simp
  acid := by simp

theorem prepareGenerator (inv : DeliveryInvariant s) (elsewhere : s.irrigation.status ≠ .ready) :
    DeliveryInvariant (s.prepareGenerator now) where
  zones := inv.zones.prepareGenerator elsewhere
  supplies := by
    refine inv.supplies.mono ?_ (fun _ => id) id
    rintro device supply on
    rcases (prepareGenerator_isOn now s device).mp on with rfl | before
    · simp at supply
    · exact before
  idle _ := inv.idle elsewhere
  acid on := by
    rcases (prepareGenerator_isOn now s 2).mp on with generator | before
    · exact absurd generator (by decide)
    · exact absurd (inv.acid before).1 elsewhere

variable [FlowArithmetic]

theorem controlFlowUpdate (inv : DeliveryInvariant s) (now : Nat) :
    DeliveryInvariant (s.controlFlowUpdate now) := by
  obtain ⟨valves, garden⟩ := ZoneInvariant.controlFlowUpdate_zones now inv.zones.garden
  have acid : Untouched 2 s (s.controlFlowUpdate now) :=
    .controlFlowUpdate now (fun flow _ => controlFlowDevice_ne_two flow) (by decide) (by decide)
  refine ⟨inv.zones.frame (.of_eq (controlFlowUpdate_irrigation now s)) valves
    (controlFlowUpdate_flowActive now) garden, inv.supplies.controlFlowUpdate now, ?_, ?_⟩
  · rw [controlFlowUpdate_irrigation]
    exact fun elsewhere flow listed active =>
      inv.idle elsewhere flow listed (controlFlowUpdate_flowActive now active)
  · rw [controlFlowUpdate_irrigation, acid.isOn_iff]
    exact inv.acid

omit [FlowArithmetic] in
/-- A supplement relay is no relay of the program. -/
theorem supply_outside {device : Fin 15}
    (supply : device = 3 ∨ device = 7 ∨ device = 8 ∨ device = 9) :
    device ∉ programRelays := by
  rcases supply with rfl | rfl | rfl | rfl <;> decide

omit [FlowArithmetic] in
/-- A stage with the acid pump belongs to a program that irrigates. -/
theorem irrigates_of_opened (inv : ZoneInvariant s) (opens : 2 ∈ s.stageToBegin.opened) :
    s.irrigation.program.Irrigates := by
  have label := inv.label
  unfold stageToBegin at opens
  cases program : s.irrigation.program <;> rw [program] at opens label <;> try trivial
  all_goals
    simp only [Program.Runs] at label
    rw [label] at opens
    simp [Program.firstStage, Program.opened] at opens

/-- The preparation ends: the first stage begins, or the interrupted one goes on. -/
theorem beginProgram (inv : DeliveryInvariant s) (status : s.irrigation.status = .preparing) :
    DeliveryInvariant (s.beginProgram now) := by
  have elsewhere : s.irrigation.status ≠ .ready := by simp [status]
  have off : ¬ s.IsOn 2 := fun on => elsewhere (inv.acid on).1
  have zones : ZoneInvariant (s.beginProgram now) := inv.zones.beginProgram status fun _ =>
    ⟨fun valve listed on => absurd on (inv.zones.closed elsewhere valve listed),
      fun _ => inv.idle elsewhere 5 (by decide)⟩
  have relays : ∀ device : Fin 15, device = 3 ∨ device = 7 ∨ device = 8 ∨ device = 9 →
      (s.beginProgram now).IsOn device → s.IsOn device := fun device supply =>
    (Untouched.beginProgram now s (supply_outside supply)).isOn_iff.mp
  refine ⟨zones, inv.supplies.mono relays ?_ ?_, ?_, ?_⟩
  · exact fun flow active => (beginProgram_flowActive now s flow).mpr (.inr (.inr active))
  · intro water
    rcases (beginProgram_flowActive now s 3).mp water with ⟨_, _, flow⟩ | ⟨_, flow⟩ | before
    · simp at flow
    · simp at flow
    · exact before
  · simp
  · intro on
    refine ⟨beginProgram_status now s, ?_⟩
    rw [beginProgram_program]
    rcases (beginProgram_isOn now s 2).mp on with opens | pump | before
    · exact irrigates_of_opened inv.zones opens
    · exact absurd pump (by decide)
    · exact absurd before off

/-- Where the irrigation stages end, the acid pump is off; what follows is the cleaning
program or the end. -/
theorem cleanOrFinish_leaves (isCleaning : Flag) (off : ¬ s.IsOn 2)
    (ready : s.irrigation.status = .ready) :
    ¬ (s.cleanOrFinish now isCleaning).IsOn 2 ∧
      ((s.cleanOrFinish now isCleaning).irrigation.status ≠ .ready →
        s.irrigation.isCleaning = 0) := by
  unfold cleanOrFinish
  split
  · have irrigation := start_ready_irrigation now s .cleaning isCleaning ready
    have isOn := start_ready_isOn now s .cleaning isCleaning ready 2
    refine ⟨fun on => ?_, fun elsewhere => absurd ?_ elsewhere⟩
    · rcases isOn.mp on with opens | before
      · simp [Program.firstStage, Program.opened] at opens
      · exact off before
    · rw [irrigation]
      exact ready
  · rename_i dirty
    exact ⟨by simp [off], fun _ => not_not.mp dirty⟩

/-- A turn that leaves `READY` is the program's end and moves no flow. -/
theorem updateProgram_leaves (ready : s.irrigation.status = .ready) (sound : ¬ s.IsFaulty)
    (elsewhere : (s.updateProgram now).irrigation.status ≠ .ready) :
    EndsProgram now s ∧ ∀ flow, (s.updateProgram now).FlowActive flow → s.FlowActive flow := by
  have turn := programTurn now s
  generalize s.updateProgram now = t at turn elsewhere ⊢
  cases turn with
  | waits | endless => exact absurd ready elsewhere
  | groupOver valve expired group =>
      have off : ¬ ((s.deviceToggle now 2 0).deviceToggle now valve 0).IsOn 2 := by simp
      have clean := (cleanOrFinish_leaves 1 off ready).2 elsewhere
      have kept := cleanOrFinish_flowActive now
        ((s.deviceToggle now 2 0).deviceToggle now valve 0) 1 ready
      refine ⟨⟨ready, sound, expired, ?_⟩, fun flow => (kept flow).mp⟩
      rcases group with ⟨program, _⟩ | ⟨program, _⟩ <;> rw [program] <;> exact clean
  | bothNext =>
      refine absurd ?_ elsewhere
      rw [withIrrigation_irrigation, start_ready_irrigation now (s.deviceToggle now 10 0) _ _ ready]
      exact ready
  | bothOver expired program second =>
      have off : ¬ ((s.deviceToggle now 2 0).deviceToggle now 11 0).IsOn 2 := by simp
      have clean := (cleanOrFinish_leaves _ off ready).2 elsewhere
      have kept := cleanOrFinish_flowActive now
        ((s.deviceToggle now 2 0).deviceToggle now 11 0) s.irrigation.isCleaning ready
      refine ⟨⟨ready, sound, expired, ?_⟩, fun flow => (kept flow).mp⟩
      rw [program]
      exact ⟨second, clean⟩
  | washFirst | washSecond => exact absurd ready elsewhere
  | washOver expired program second =>
      refine ⟨⟨ready, sound, expired, ?_⟩, fun _ => id⟩
      rw [program]
      exact second
  | gardenOver expired program =>
      refine ⟨⟨ready, sound, expired, ?_⟩, fun _ => id⟩
      rw [program]
      trivial

/-- After a turn the acid pump runs in an irrigation stage or not at all. -/
theorem updateProgram_acid (inv : DeliveryInvariant s) (ready : s.irrigation.status = .ready)
    (on : (s.updateProgram now).IsOn 2) :
    (s.updateProgram now).irrigation.status = .ready ∧
      (s.updateProgram now).irrigation.program.Irrigates := by
  have turn := programTurn now s
  generalize s.updateProgram now = t at turn on ⊢
  cases turn with
  | waits | endless => exact inv.acid on
  | groupOver valve =>
      have off : ¬ ((s.deviceToggle now 2 0).deviceToggle now valve 0).IsOn 2 := by simp
      exact absurd on (cleanOrFinish_leaves 1 off ready).1
  | bothNext =>
      rw [withIrrigation_irrigation, start_ready_irrigation now (s.deviceToggle now 10 0) _ _ ready]
      exact ⟨ready, trivial⟩
  | bothOver =>
      have off : ¬ ((s.deviceToggle now 2 0).deviceToggle now 11 0).IsOn 2 := by simp
      exact absurd on (cleanOrFinish_leaves _ off ready).1
  | washFirst _ program | washSecond _ program | washOver _ program =>
      simp only [withIrrigation_isOn, deviceToggle_isOn] at on
      have irrigates := (inv.acid (by simpa using on)).2
      rw [program] at irrigates
      exact irrigates.elim
  | gardenOver _ program =>
      have irrigates := (inv.acid ((finishProgram_isOn now s 2).mp on).2).2
      rw [program] at irrigates
      exact irrigates.elim

/-- A turn of the running program. It leaves `READY` only as the program's end. -/
theorem updateProgram (inv : DeliveryInvariant s) (ready : s.irrigation.status = .ready)
    (sound : ¬ s.IsFaulty)
    (ends : EndsProgram now s → ∀ flow ∈ deliveryFlows, ¬ s.FlowActive flow) :
    DeliveryInvariant (s.updateProgram now) := by
  have zones : ZoneInvariant (s.updateProgram now) := inv.zones.updateProgram ready
  have relays : ∀ device : Fin 15, device = 3 ∨ device = 7 ∨ device = 8 ∨ device = 9 →
      (s.updateProgram now).IsOn device → s.IsOn device := fun device supply =>
    (Untouched.updateProgram now s ready (supply_outside supply)).isOn_iff.mp
  have supplies : SupplyInvariant (s.updateProgram now) := by
    refine inv.supplies.mono relays (fun flow => (updateProgram_flowActive now s ready flow).1) ?_
    intro water
    simpa using (updateProgram_flowActive now s ready 3).2 water
  refine ⟨zones, supplies, ?_, inv.updateProgram_acid ready⟩
  intro elsewhere flow listed active
  obtain ⟨expired, kept⟩ := updateProgram_leaves ready sound elsewhere
  exact ends expired flow listed (kept flow active)

theorem update (inv : DeliveryInvariant s)
    (ends : EndsProgram now s → ∀ flow ∈ deliveryFlows, ¬ s.FlowActive flow) :
    DeliveryInvariant (s.controlIrrigationTempUpdate now) := by
  have step := updateStep now s
  generalize s.controlIrrigationTempUpdate now = t at step ⊢
  cases step with
  | idle | warming | cooling => exact inv
  | begins status => exact inv.beginProgram status
  | runs status sound => exact inv.updateProgram status sound ends
  | stops => exact inv.forceStop
  | shuts status sound expired =>
      have elsewhere : s.irrigation.status ≠ .ready := by simp [status]
      refine ⟨inv.zones.shutDown status, ?_, fun _ => inv.idle elsewhere, ?_⟩
      · exact inv.supplies.mono (fun device _ on => ((shutDown_isOn now s device).mp on).2)
          (fun _ => id) id
      · exact fun on => absurd (inv.acid ((shutDown_isOn now s 2).mp on).2).1 elsewhere

/-- Every operation of such a run keeps the invariant. -/
theorem run {operation : Operation} (inv : DeliveryInvariant s)
    (leaves : operation.LeavesDeliveries s)
    (ends : operation = .irrigationUpdate → EndsProgram now s →
      ∀ flow ∈ deliveryFlows, ¬ s.FlowActive flow) :
    DeliveryInvariant (operation.run now s) := by
  by_cases drives : operation.DrivesMachine
  · cases operation with
    | start program isCleaning =>
        obtain ⟨known, elsewhere⟩ := leaves
        have assigned : DeliveryInvariant (s.startAssign program isCleaning) := by
          refine ⟨inv.zones.startAssign known elsewhere, inv.supplies.mono (fun _ _ => id)
            (fun _ => id) id, inv.idle, ?_⟩
          exact fun on => absurd (inv.acid on).1 elsewhere
        change DeliveryInvariant (s.controlIrrigationTempStart now program isCleaning)
        rw [start_of_not_ready now s program isCleaning elsewhere]
        exact assigned.prepareGenerator elsewhere
    | forceStop => exact inv.forceStop
    | resume =>
        change DeliveryInvariant (s.controlIrrigationTempResume now)
        by_cases running : s.irrigation.isStopped = 0
        · rw [resume_of_not_stopped now s running]
          exact inv
        · have elsewhere : s.irrigation.status ≠ .ready := by
            rcases inv.zones.resting running with finished | preparing
            · simp [finished]
            · simp [preparing]
          rw [resume_of_not_ready now s running elsewhere]
          exact inv.prepareGenerator elsewhere
    | irrigationUpdate => exact inv.update (ends rfl)
    | _ => exact drives.elim
  · have same := machineKept drives now s
    have still : ∀ t, SensorsOnly s t → MachineKept s.irrigation t.irrigation →
        DeliveryInvariant t := fun t sensors same =>
      inv.frame same sensors.isOn_iff sensors.flowActive_iff
    cases operation with
    | start | forceStop | resume | irrigationUpdate => exact absurd trivial drives
    | deviceToggle | flowStart | flowStop | flowPause => exact leaves.elim
    | faultyDetectionToggle => exact inv.frame same (fun _ => .rfl) fun _ => .rfl
    | assign setting =>
        exact inv.frame same (assign_isOn setting · s) (assign_flowActive setting · s)
    | deviceUpdate =>
        exact inv.frame same (deviceUpdate_isOn now · s) (deviceUpdate_flowActive now · s)
    | pulsesTotalSet sensor pulses => exact still _ (.sensorFlowPulsesTotalSet sensor pulses s) same
    | sensorInterrupt sensor => exact still _ (.sensorFlowInterrupt sensor s) same
    | sensorFlowUpdate => exact still _ (.sensorFlowUpdate now s) same
    | sensorPressureUpdate readings => exact still _ (.sensorPressureUpdate now readings s) same
    | controlFlowUpdate => exact inv.controlFlowUpdate now

end DeliveryInvariant

/-! ## Runs -/

/-- No flow is paused. -/
def Unpaused (s : Controller) : Prop := ∀ flow, (s.controlFlowArray flow).isPause = 0

namespace Unpaused

variable {now : Nat} {s t : Controller}

theorem of_eq (unpaused : Unpaused s) (flows : t.controlFlowArray = s.controlFlowArray) :
    Unpaused t := by
  intro flow
  rw [flows]
  exact unpaused flow

/-- Writing a flow that is not paused. -/
theorem setFlow (unpaused : Unpaused s) (flow : Fin 6) (value : ControlFlow)
    (running : value.isPause = 0) : Unpaused (s.setFlow flow value) := by
  intro other
  by_cases same : other = flow
  · subst same
    simp [Controller.setFlow, running]
  · simpa [Controller.setFlow, same] using unpaused other

theorem deviceToggle (unpaused : Unpaused s) (device : Fin 15) (isActive : Flag) :
    Unpaused (s.deviceToggle now device isActive) := unpaused

theorem withIrrigation (unpaused : Unpaused s) (change : Irrigation → Irrigation) :
    Unpaused (s.withIrrigation change) := unpaused

theorem record (unpaused : Unpaused s) (event : Event) : Unpaused (s.record now event) := unpaused

theorem prepareGenerator (unpaused : Unpaused s) : Unpaused (s.prepareGenerator now) :=
  (unpaused.deviceToggle 0 1).withIrrigation _

theorem beginPumping (unpaused : Unpaused s) : Unpaused (s.beginPumping now) :=
  (unpaused.deviceToggle 1 1).withIrrigation _

theorem beginStage (unpaused : Unpaused s) (stage : Program) :
    Unpaused (s.beginStage now stage) :=
  (unpaused.record (.stage stage)).withIrrigation _

theorem finishProgram (unpaused : Unpaused s) : Unpaused (s.finishProgram now) :=
  (unpaused.deviceToggle 1 0).withIrrigation _

theorem controlFlowStop (unpaused : Unpaused s) (flow : Fin 6) :
    Unpaused (s.controlFlowStop now flow) := by
  intro other
  by_cases same : other = flow
  · subst same
    simp
  · simpa [same] using unpaused other

theorem reviveFlow (unpaused : Unpaused s) (flow : Fin 6) : Unpaused (s.reviveFlow flow) :=
  unpaused.setFlow flow _ (unpaused flow)

theorem forceStop (unpaused : Unpaused s) : Unpaused (s.controlIrrigationTempForceStop now) := by
  have stopped : Unpaused (s.controlSafetyDevicesStop now) := unpaused.of_eq (by simp)
  unfold controlIrrigationTempForceStop
  refine withIrrigation ?_ _
  exact ((stopped.controlFlowStop 1).controlFlowStop 2).controlFlowStop 5

theorem clearFault (unpaused : Unpaused s) : Unpaused (s.clearFault now) := unpaused

theorem resumeGroup (unpaused : Unpaused s) (valve : Fin 15) :
    Unpaused (s.resumeGroup now valve) := by
  have opened : Unpaused (((s.restoreProgramStart now).deviceToggle now 2 1).deviceToggle now
      valve 1) := ((unpaused.withIrrigation _).deviceToggle 2 1).deviceToggle valve 1
  unfold Controller.resumeGroup
  dsimp only
  split
  · exact ((opened.reviveFlow 1).reviveFlow 2).clearFault
  · exact opened

theorem resume (unpaused : Unpaused s) : Unpaused (s.controlIrrigationTempResume now) := by
  unfold controlIrrigationTempResume
  split
  · exact unpaused
  · split
    · exact unpaused.prepareGenerator
    · have resumed := unpaused.withIrrigation fun irrigation => { irrigation with isStopped := 0 }
      cases s.irrigation.programCurrent with
      | group1 => exact resumed.resumeGroup 10
      | group2 => exact resumed.resumeGroup 11
      | cleaning => exact (resumed.deviceToggle 12 1).withIrrigation _
      | garden => exact (resumed.withIrrigation _).reviveFlow 5
      | both | unknown => exact resumed

variable [FlowArithmetic]

theorem controlFlowStart (unpaused : Unpaused s) (flow : Fin 6) (volume time : UInt16) :
    Unpaused (s.controlFlowStart now flow volume time) :=
  of_eq (unpaused.setFlow flow { s.controlFlowArray flow with
    pulsesLast := 0
    pulsesToDeliver := FlowArithmetic.pulsesToDeliver
      (s.sensorFlowArray (controlFlowSensor flow)).pulsesPerLiter volume
    timeToDeliver := time
    timeStart := millis now
    isActive := 1
    isPause := 0 } rfl) rfl

omit [FlowArithmetic] in
theorem pulsesTotalSet (unpaused : Unpaused s) (sensor : Fin 5) (total : UInt32) :
    Unpaused (s.sensorFlowPulsesTotalSet sensor total) := unpaused

theorem beginGroup (unpaused : Unpaused s) (valve : Fin 15) (group : Program) :
    Unpaused (s.beginGroup now valve group) := by
  have opened : Unpaused ((s.deviceToggle now 2 1).deviceToggle now valve 1) :=
    (unpaused.deviceToggle 2 1).deviceToggle valve 1
  unfold Controller.beginGroup
  dsimp only
  split
  · exact (((opened.controlFlowStart 1 _ _).controlFlowStart 2 _ _).pulsesTotalSet _ _).beginStage _
  · exact opened.beginStage _

theorem start (unpaused : Unpaused s) (program : Program) (isCleaning : Flag) :
    Unpaused (s.controlIrrigationTempStart now program isCleaning) := by
  have assigned : ∀ started, Unpaused (s.startAssign started isCleaning) := fun started =>
    unpaused.withIrrigation _
  unfold controlIrrigationTempStart
  dsimp only
  split
  · exact (assigned program).prepareGenerator
  · cases program with
    | group1 => exact (assigned .group1).beginGroup 10 .group1
    | group2 => exact (assigned .group2).beginGroup 11 .group2
    | both =>
        exact (((assigned .both).withIrrigation _).beginGroup 10 .group1).withIrrigation _
    | cleaning => exact ((assigned .cleaning).deviceToggle 12 1).beginStage .cleaning
    | garden => exact ((assigned .garden).controlFlowStart 5 0 _).beginStage .garden
    | unknown excess => exact assigned (.unknown excess)

theorem cleanOrFinish (unpaused : Unpaused s) (isCleaning : Flag) :
    Unpaused (s.cleanOrFinish now isCleaning) := by
  unfold Controller.cleanOrFinish
  split
  · exact unpaused.start .cleaning isCleaning
  · exact unpaused.finishProgram

theorem update (unpaused : Unpaused s) : Unpaused (s.controlIrrigationTempUpdate now) := by
  have step := updateStep now s
  generalize s.controlIrrigationTempUpdate now = t at step ⊢
  cases step with
  | idle | warming | cooling => exact unpaused
  | shuts => exact (unpaused.deviceToggle 0 0).withIrrigation _
  | stops => exact unpaused.forceStop
  | begins =>
      unfold beginProgram
      split
      · exact unpaused.beginPumping.start s.irrigation.program s.irrigation.isCleaning
      · exact unpaused.beginPumping.resume
  | runs =>
      have turn := programTurn now s
      generalize s.updateProgram now = t at turn ⊢
      cases turn with
      | waits | endless => exact unpaused
      | groupOver valve =>
          exact ((unpaused.deviceToggle 2 0).deviceToggle valve 0).cleanOrFinish 1
      | bothOver => exact ((unpaused.deviceToggle 2 0).deviceToggle 11 0).cleanOrFinish _
      | bothNext => exact ((unpaused.deviceToggle 10 0).start .group2 _).withIrrigation _
      | washFirst => exact ((unpaused.deviceToggle 12 0).deviceToggle 10 1).withIrrigation _
      | washSecond => exact ((unpaused.deviceToggle 10 0).deviceToggle 11 1).withIrrigation _
      | washOver => exact ((unpaused.deviceToggle 1 0).deviceToggle 11 0).withIrrigation _
      | gardenOver => exact unpaused.finishProgram

theorem controlFlowUpdate (unpaused : Unpaused s) : Unpaused (s.controlFlowUpdate now) := by
  refine controlFlowUpdate_preserves now Unpaused ?_ ?_ ?_ ?_ ?_ unpaused
  · exact fun flow _ held _ _ => held.controlFlowStop flow
  · exact fun _ _ _ held _ _ => held
  · exact fun _ held _ => held
  · exact fun _ _ held _ => held
  · intro t u held detection flow
    obtain ⟨_, record⟩ := detection.flow flow
    rw [record]
    exact held flow

theorem run {operation : Operation} (unpaused : Unpaused s)
    (leaves : operation.LeavesDeliveries s) : Unpaused (operation.run now s) := by
  cases operation with
  | start program isCleaning => exact unpaused.start program isCleaning
  | forceStop => exact unpaused.forceStop
  | resume => exact unpaused.resume
  | irrigationUpdate => exact unpaused.update
  | controlFlowUpdate => exact unpaused.controlFlowUpdate
  | deviceToggle | flowStart | flowStop | flowPause => exact leaves.elim
  | assign setting => cases setting <;> exact unpaused
  | faultyDetectionToggle | pulsesTotalSet | sensorInterrupt => exact unpaused
  | deviceUpdate => exact unpaused.of_eq (deviceUpdate_fields now s).2.1
  | sensorFlowUpdate => exact unpaused.of_eq (SensorsOnly.sensorFlowUpdate now s).controlFlowArray
  | sensorPressureUpdate readings =>
      exact unpaused.of_eq (SensorsOnly.sensorPressureUpdate now readings s).controlFlowArray

end Unpaused

section

variable [FlowArithmetic] {history : List (Step Operation)}

theorem unpaused_of_admitted (admitted : Machine.Admitted deliveryGuard setupTime history) :
    Unpaused (controller.after boot history) :=
  admitted.invariant (fun _ => Unpaused) (fun _ => rfl)
    fun _ _ unpaused _ guarded => unpaused.run guarded.1

/-- Interrupts move no flow. -/
theorem interrupts_flowActive {interrupts before : List (Step Operation)} (flow : Fin 6)
    (only : ∀ step ∈ interrupts, ∃ sensor, step.operation = .sensorInterrupt sensor) :
    (controller.after boot (interrupts ++ before)).FlowActive flow ↔
      (controller.after boot before).FlowActive flow := by
  induction interrupts with
  | nil => rfl
  | cons step rest ih =>
      obtain ⟨sensor, interrupt⟩ := only step List.mem_cons_self
      rw [← ih fun other listed => only other (List.mem_cons_of_mem step listed)]
      rw [List.cons_append, Machine.after_cons, interrupt]
      rfl

/-- When the deliveries were due in the loop pass, `control_flow_update` has ended them. -/
theorem deliveries_ended {prior : List (Step Operation)}
    (admitted : Machine.Admitted deliveryGuard setupTime prior) (due : FlowsDue prior) :
    ∀ flow ∈ deliveryFlows, ¬ (controller.after boot prior).FlowActive flow := by
  obtain ⟨interrupts, flowTime, before, rfl, only, reached⟩ := due
  intro flow listed active
  have updated : ((controller.after boot before).controlFlowUpdate flowTime).FlowActive flow :=
    (interrupts_flowActive flow only).mp active
  have was := controlFlowUpdate_flowActive flowTime updated
  have running : (controller.after boot before).FlowRunning flow :=
    ⟨was, unpaused_of_admitted admitted.earlier.1 flow⟩
  exact controlFlowUpdate_due flowTime running (reached flow listed was) updated

theorem deliveryInvariant_of_admitted
    (admitted : Machine.Admitted deliveryGuard setupTime history) :
    DeliveryInvariant (controller.after boot history) := by
  refine admitted.along (fun history => DeliveryInvariant (controller.after boot history)) .boot ?_
  intro step prior earlier inv _ guarded
  exact inv.run guarded.1 fun update ends => deliveries_ended earlier (guarded.2 update ends)

/-- No delivery outlives the irrigation: in `FINISHING` and `FINISHED` the supplement and
garden flows are inactive and every relay of a delivery is off. -/
theorem no_delivery_outlives (admitted : Machine.Admitted deliveryGuard setupTime history)
    (ended : (controller.after boot history).irrigation.status = .finishing ∨
      (controller.after boot history).irrigation.status = .finished) :
    (∀ flow ∈ deliveryFlows, ¬ (controller.after boot history).FlowActive flow) ∧
      ∀ device ∈ deliveryDevices, ¬ (controller.after boot history).IsOn device := by
  apply (deliveryInvariant_of_admitted admitted).delivered
  rcases ended with finishing | finished
  · simp [finishing]
  · simp [finished]

end

/-- The first group with the settings of power-up: both supplement flows, 720 seconds long, are
due in the pass in which the 900 seconds of the program are over. -/
def firstGroupPasses : List (Step Operation) :=
  [⟨909000, .irrigationUpdate⟩, ⟨908999, .controlFlowUpdate⟩, ⟨9000, .irrigationUpdate⟩,
    ⟨4000, .start .group1 0⟩]

theorem no_delivery_outlives_firstGroupPasses :
    (controller.after boot firstGroupPasses.tail.tail).FlowActive 1 ∧
      ¬ (controller.after boot firstGroupPasses).FlowActive 1 ∧
      ¬ (controller.after boot firstGroupPasses).IsOn 2 := by
  have admitted : Machine.Admitted deliveryGuard setupTime firstGroupPasses := by
    refine ⟨⟨⟨⟨trivial, by decide, ?_⟩, by decide, ?_⟩, by decide, ?_⟩, by decide, ?_⟩
    · exact ⟨⟨trivial, by decide⟩, by simp⟩
    · exact ⟨trivial, fun _ ends => absurd ends.1 (by decide)⟩
    · exact ⟨trivial, by simp⟩
    · exact ⟨trivial, fun _ _ => ⟨[], 908999, _, rfl, by simp, by decide⟩⟩
  obtain ⟨flows, devices⟩ := no_delivery_outlives admitted (.inl (by decide))
  exact ⟨by decide, flows 1 (by decide), devices 2 (by decide)⟩

/-- A program duration of one second: the program ends while both supplement flows still have
their 720 seconds to run, and the supplement pump, on since 10000, stays on in `FINISHING`. -/
theorem delivery_outlives :
    let ended : List (Step Operation) :=
      [⟨10000, .irrigationUpdate⟩, ⟨10000, .controlFlowUpdate⟩, ⟨9000, .irrigationUpdate⟩,
        ⟨4000, .start .group1 0⟩, ⟨3500, .assign (.programDuration 1000)⟩]
    let s := controller.after boot ended
    let later := controller.after boot (⟨14100, .controlFlowUpdate⟩ :: ended)
    s.irrigation.status = .finishing ∧ s.FlowActive 1 ∧ s.FlowActive 2 ∧
      later.irrigation.status = .finishing ∧ later.FlowActive 1 ∧ later.IsOn 3 := by
  decide

end BlueberryIrrigation
