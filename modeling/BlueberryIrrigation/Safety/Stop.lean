import BlueberryIrrigation.Controller.Operation

/-!
# A stop is final

A stop writes all fifteen relays, but relays are only outputs: a control flow that is still
active writes its relay again on a later `control_flow_update`. The stop ends the flows
1, 2 and 5. `StopDisarms` says of the other three that no clock value lets them switch a
relay on, and `stop_is_final` shows that this is exactly when a stop is final.
-/

namespace BlueberryIrrigation

open Semantics Controller

namespace Controller

/-! ## What a stop leaves -/

/-- The flows that a stop does not end: the well's, the water flow and the click pump's. -/
def StopLeaves (flow : Fin 6) : Prop :=
  flow = 0 ∨ flow = 3 ∨ flow = 4

instance (flow : Fin 6) : Decidable (StopLeaves flow) :=
  inferInstanceAs (Decidable (_ ∨ _))

theorem stopLeaves_iff (flow : Fin 6) : StopLeaves flow ↔ flow ≠ 1 ∧ flow ≠ 2 ∧ flow ≠ 5 := by
  revert flow
  decide

/-- At `now`, the relay's minimum switching time since a stop is over. -/
def RelayReleased (stopTime now : Nat) (device : Fin 15) (s : Controller) : Prop :=
  ¬ millis now - millis stopTime < (s.deviceArray device).timeSwitchMinimum.toUInt32 * 100

/-- The relay was last toggled by a stop. -/
structure ToggledBy (stopTime : Nat) (device : Fin 15) (s t : Controller) : Prop where
  last : (t.deviceArray device).timeSwitchLast = millis stopTime
  minimum : (t.deviceArray device).timeSwitchMinimum = (s.deviceArray device).timeSwitchMinimum

theorem ToggledBy.passed_iff {stopTime : Nat} {device : Fin 15} {s t : Controller}
    (toggled : ToggledBy stopTime device s t) (now : Nat) :
    t.deviceIsTimeSwitchMinimumPassed now device = true ↔ s.RelayReleased stopTime now device := by
  unfold deviceIsTimeSwitchMinimumPassed RelayReleased
  rw [toggled.last, toggled.minimum]
  simp

theorem ToggledBy.untouched {stopTime : Nat} {device : Fin 15} {s t u : Controller}
    (toggled : ToggledBy stopTime device s t) (untouched : Untouched device t u) :
    ToggledBy stopTime device s u :=
  ⟨by rw [untouched.same, toggled.last], by rw [untouched.same, toggled.minimum]⟩

/-- A toggle at the time of the stop keeps every relay the stop has toggled. -/
theorem ToggledBy.deviceToggle {stopTime : Nat} {device : Fin 15} {s t : Controller}
    (toggled : ToggledBy stopTime device s t) (other : Fin 15) (isActive : Flag) :
    ToggledBy stopTime device s (t.deviceToggle stopTime other isActive) := by
  by_cases same : device = other
  · subst same
    refine ⟨by simp [Controller.deviceToggle], ?_⟩
    simpa [Controller.deviceToggle] using toggled.minimum
  · exact toggled.untouched (.deviceToggle same stopTime isActive t)

theorem ToggledBy.controlFlowStop {stopTime : Nat} {device : Fin 15} {s t : Controller}
    (toggled : ToggledBy stopTime device s t) (flow : Fin 6) :
    ToggledBy stopTime device s (t.controlFlowStop stopTime flow) := by
  have stopped := (toggled.deviceToggle (controlFlowDevice flow) 0).untouched
    (.setFlow flow _ device { t.controlFlowArray flow with isActive := 0, isPause := 0 })
  unfold Controller.controlFlowStop
  dsimp only
  split
  · split
    · exact (stopped.deviceToggle 3 0).deviceToggle 9 0
    · exact stopped
  · exact stopped

theorem toggledBy_safety (stopTime : Nat) (device : Fin 15) (s : Controller) :
    ToggledBy stopTime device s (s.controlSafetyDevicesStop stopTime) := by
  have stopped : ∀ devices : List (Fin 15),
      let t := devices.foldr (fun device s => s.deviceToggle stopTime device 0) s
      (device ∈ devices → (t.deviceArray device).timeSwitchLast = millis stopTime) ∧
        (t.deviceArray device).timeSwitchMinimum = (s.deviceArray device).timeSwitchMinimum := by
    intro devices
    induction devices with
    | nil => simp
    | cons head rest ih =>
        by_cases same : device = head
        · subst same
          simpa [Controller.deviceToggle] using ih.2
        · simpa [Controller.deviceToggle, same] using ih
  obtain ⟨last, minimum⟩ := stopped (List.finRange 15)
  exact ⟨last (List.mem_finRange device), minimum⟩

theorem toggledBy_forceStop (stopTime : Nat) (device : Fin 15) (s : Controller) :
    ToggledBy stopTime device s (s.controlIrrigationTempForceStop stopTime) := by
  have flows := (((toggledBy_safety stopTime device s).controlFlowStop 1).controlFlowStop
    2).controlFlowStop 5
  exact ⟨flows.last, flows.minimum⟩

@[simp] theorem forceStop_sensorFlowArray (now : Nat) (s : Controller) :
    (s.controlIrrigationTempForceStop now).sensorFlowArray = s.sensorFlowArray := by
  unfold controlIrrigationTempForceStop
  simp

/-- A stop leaves the records of the flows it does not end. -/
theorem forceStop_controlFlowArray (now : Nat) (s : Controller) {flow : Fin 6}
    (left : StopLeaves flow) :
    (s.controlIrrigationTempForceStop now).controlFlowArray flow = s.controlFlowArray flow := by
  obtain ⟨first, second, garden⟩ := (stopLeaves_iff flow).mp left
  simp [controlIrrigationTempForceStop, first, second, garden]

/-- The flow is as it was, up to the pulses that fault detection has seen. -/
structure SameFlow (flow : Fin 6) (s t : Controller) : Prop where
  record : ∃ pulsesLast,
    t.controlFlowArray flow = { s.controlFlowArray flow with pulsesLast := pulsesLast }
  sensors : t.sensorFlowArray = s.sensorFlowArray

theorem SameFlow.of_eq {flow : Fin 6} {s t : Controller}
    (record : t.controlFlowArray flow = s.controlFlowArray flow)
    (sensors : t.sensorFlowArray = s.sensorFlowArray) : SameFlow flow s t :=
  ⟨⟨(s.controlFlowArray flow).pulsesLast, record⟩, sensors⟩

theorem SameFlow.trans {flow : Fin 6} {s t u : Controller} (before : SameFlow flow s t)
    (after : SameFlow flow t u) : SameFlow flow s u := by
  obtain ⟨_, first⟩ := before.record
  obtain ⟨pulsesLast, second⟩ := after.record
  exact ⟨⟨pulsesLast, by rw [second, first]⟩, after.sensors.trans before.sensors⟩

section

variable {flow : Fin 6} {s t : Controller}

theorem SameFlow.active_iff (same : SameFlow flow s t) :
    t.FlowActive flow ↔ s.FlowActive flow := by
  obtain ⟨_, record⟩ := same.record
  unfold FlowActive
  rw [record]

theorem SameFlow.running_iff (same : SameFlow flow s t) :
    t.FlowRunning flow ↔ s.FlowRunning flow := by
  obtain ⟨_, record⟩ := same.record
  unfold FlowRunning
  rw [same.active_iff, record]

theorem SameFlow.schedule (same : SameFlow flow s t) : SameSchedule flow s t := by
  obtain ⟨_, record⟩ := same.record
  constructor
  case sensors => exact same.sensors
  all_goals rw [record]

theorem SameFlow.due_iff (same : SameFlow flow s t) (now : Nat) :
    t.FlowDue now flow ↔ s.FlowDue now flow :=
  same.schedule.due_iff now

theorem SameFlow.wanting_iff [FlowArithmetic] (same : SameFlow flow s t) (now : Nat) :
    t.FlowWanting now flow ↔ s.FlowWanting now flow := by
  obtain ⟨_, record⟩ := same.record
  unfold FlowWanting
  rw [record, same.sensors]

end

theorem SameFlow.forceStop (stopTime : Nat) (s : Controller) {flow : Fin 6}
    (left : StopLeaves flow) : SameFlow flow s (s.controlIrrigationTempForceStop stopTime) :=
  .of_eq (forceStop_controlFlowArray stopTime s left) (forceStop_sensorFlowArray stopTime s)

/-- Everything is off, and the flows that are left are as the stop has left them. -/
structure Stopped (stopTime : Nat) (s t : Controller) : Prop where
  off : ∀ device, ¬ t.IsOn device
  finished : t.irrigation.status = .finished
  left : ∀ flow, t.FlowActive flow → StopLeaves flow
  same : ∀ flow, t.FlowActive flow → SameFlow flow s t
  relay : ∀ flow, t.FlowActive flow → ToggledBy stopTime (controlFlowDevice flow) s t
  pump : t.FlowActive 3 → ToggledBy stopTime 3 s t

theorem Stopped.forceStop (stopTime : Nat) (s : Controller) :
    Stopped stopTime s (s.controlIrrigationTempForceStop stopTime) := by
  have left : ∀ flow, (s.controlIrrigationTempForceStop stopTime).FlowActive flow →
      StopLeaves flow := by
    intro flow active
    obtain ⟨first, second, garden, _⟩ := (forceStop_flowActive stopTime s flow).mp active
    exact (stopLeaves_iff flow).mpr ⟨first, second, garden⟩
  exact {
    off := forceStop_isOn stopTime s
    finished := by simp
    left := left
    same := fun flow active => .forceStop stopTime s (left flow active)
    relay := fun flow _ => toggledBy_forceStop stopTime (controlFlowDevice flow) s
    pump := fun _ => toggledBy_forceStop stopTime 3 s }

section

variable {stopTime now : Nat} {s t u : Controller} {flow : Fin 6}

/-- Ending a flow that is none of the two supplements' writes no relay of another flow. -/
theorem relay_untouched {other : Fin 6} (different : other ≠ flow) (first : flow ≠ 1)
    (second : flow ≠ 2) : Untouched (controlFlowDevice other) t (t.controlFlowStop now flow) := by
  have apart : controlFlowSensor flow = 1 ∨ controlFlowSensor flow = 2 ∨
      controlFlowSensor flow = 3 → controlFlowDevice other ≠ 3 ∧ controlFlowDevice other ≠ 9 := by
    revert flow other
    decide
  exact .controlFlowStop_line now flow t (controlFlowDevice_ne different) apart

/-- The supplement pump is written only when a flow of the supplement line ends. -/
theorem pump_untouched (first : flow ≠ 1) (second : flow ≠ 2) (water : flow ≠ 3) :
    Untouched 3 t (t.controlFlowStop now flow) := by
  have apart : (3 : Fin 15) ≠ controlFlowDevice flow ∧
      ¬ (controlFlowSensor flow = 1 ∨ controlFlowSensor flow = 2 ∨ controlFlowSensor flow = 3) := by
    revert flow
    decide
  exact .controlFlowStop_line now flow t apart.1 fun line => absurd line apart.2

theorem not_supplement (active : t.FlowActive flow) (first : ¬ t.FlowActive 1)
    (second : ¬ t.FlowActive 2) : flow ≠ 1 ∧ flow ≠ 2 := by
  refine ⟨?_, ?_⟩
  · rintro rfl
    exact first active
  · rintro rfl
    exact second active

theorem Stopped.controlFlowStop (stopped : Stopped stopTime s t) (active : t.FlowActive flow) :
    Stopped stopTime s (t.controlFlowStop now flow) where
  off device on := stopped.off device (controlFlowStop_isOn now flow t on).2
  finished := by rw [controlFlowStop_irrigation, stopped.finished]
  left other still :=
    stopped.left other ((controlFlowStop_flowActive now flow t other).mp still).2
  same other still := by
    obtain ⟨different, was⟩ := (controlFlowStop_flowActive now flow t other).mp still
    exact (stopped.same other was).trans
      (.of_eq (by simp [different]) (controlFlowStop_sensorFlowArray now flow t))
  relay other still := by
    obtain ⟨different, was⟩ := (controlFlowStop_flowActive now flow t other).mp still
    obtain ⟨first, second, _⟩ := (stopLeaves_iff flow).mp (stopped.left flow active)
    exact (stopped.relay other was).untouched (relay_untouched different first second)
  pump still := by
    obtain ⟨different, was⟩ := (controlFlowStop_flowActive now flow t 3).mp still
    obtain ⟨first, second, _⟩ := (stopLeaves_iff flow).mp (stopped.left flow active)
    exact (stopped.pump was).untouched (pump_untouched first second (Ne.symm different))

/-- A call that moves no relay and no flow keeps what a stop has left. -/
theorem Stopped.framed (stopped : Stopped stopTime s t) (untouched : ∀ device, Untouched device t u)
    (flows : ∀ flow, SameFlow flow t u) (irrigation : u.irrigation = t.irrigation) :
    Stopped stopTime s u where
  off device on := stopped.off device ((untouched device).isOn_iff.mp on)
  finished := by rw [irrigation, stopped.finished]
  left flow active := stopped.left flow ((flows flow).active_iff.mp active)
  same flow active := (stopped.same flow ((flows flow).active_iff.mp active)).trans (flows flow)
  relay flow active :=
    (stopped.relay flow ((flows flow).active_iff.mp active)).untouched (untouched _)
  pump active := (stopped.pump ((flows 3).active_iff.mp active)).untouched (untouched 3)

end

/-! ## What may switch a relay on afterwards -/

section

variable [FlowArithmetic]

/-- The update at `now` finds the flow running and not due, and its relay wanted and free to
move. -/
def FlowRestarts (stopTime now : Nat) (flow : Fin 6) (s : Controller) : Prop :=
  s.FlowRunning flow ∧ ¬ s.FlowDue now flow ∧ s.FlowWanting now flow ∧
    s.RelayReleased stopTime now (controlFlowDevice flow)

/-- The update at `now` finds the water flow active, paused or not due, and the supplement pump
free to move. -/
def PumpRestarts (stopTime now : Nat) (s : Controller) : Prop :=
  s.FlowActive 3 ∧ ¬ (s.FlowRunning 3 ∧ s.FlowDue now 3) ∧ s.RelayReleased stopTime now 3

/-- No clock value lets the flows that a stop leaves switch a relay on. -/
structure StopDisarms (stopTime : Nat) (s : Controller) : Prop where
  flows : ∀ flow now, StopLeaves flow → ¬ s.FlowRestarts stopTime now flow
  pump : ∀ now, ¬ s.PumpRestarts stopTime now

/-- A stop disarms everything while none of these flows, which only a serial command starts, is
active. -/
theorem StopDisarms.of_inactive {stopTime : Nat} {s : Controller}
    (inactive : ∀ flow, StopLeaves flow → ¬ s.FlowActive flow) : s.StopDisarms stopTime where
  flows flow _ left restarts := inactive flow left restarts.1.1
  pump _ restarts := inactive 3 (by decide) restarts.1

section

variable {stopTime now : Nat} {s t : Controller} {flow : Fin 6}

/-- A turn of the regulation stops a due flow; there is no other relay it could move. -/
theorem Stopped.controlFlowRegulate (stopped : Stopped stopTime s t)
    (disarms : s.StopDisarms stopTime) (now : Nat) (flow : Fin 6) :
    Stopped stopTime s (t.controlFlowRegulate now flow) := by
  by_cases running : t.FlowRunning flow
  · by_cases due : t.FlowDue now flow
    · rw [controlFlowRegulate_of_due now running due]
      exact stopped.controlFlowStop running.1
    · by_cases wanting : t.FlowWanting now flow
      · rw [controlFlowRegulate_of_wanting now running due wanting, if_neg]
        · exact stopped
        rintro ⟨passed, -⟩
        have same := stopped.same flow running.1
        exact disarms.flows flow now (stopped.left flow running.1)
          ⟨same.running_iff.mp running, mt (same.due_iff now).mpr due,
            (same.wanting_iff now).mp wanting,
            ((stopped.relay flow running.1).passed_iff now).mp passed⟩
      · rw [controlFlowRegulate_of_ahead now running due wanting, if_neg]
        · exact stopped
        exact fun moves => stopped.off _ moves.2
  · rw [controlFlowRegulate_of_idle now running]
    exact stopped

/-- The supplement pump stays off: the water flow has ended, or the pump may never move. -/
theorem Stopped.controlFlowSupplementPump (stopped : Stopped stopTime s t)
    (disarms : s.StopDisarms stopTime)
    (ended : t.FlowActive 3 → ¬ (t.FlowRunning 3 ∧ t.FlowDue now 3)) :
    t.controlFlowSupplementPump now = t := by
  have first : ¬ t.FlowActive 1 := fun active => absurd (stopped.left 1 active) (by decide)
  have second : ¬ t.FlowActive 2 := fun active => absurd (stopped.left 2 active) (by decide)
  unfold Controller.controlFlowSupplementPump
  split
  · rename_i active
    have water : t.FlowActive 3 := (active.resolve_left first).resolve_left second
    have same := stopped.same 3 water
    rw [if_neg]
    rintro ⟨-, passed⟩
    refine disarms.pump now ⟨same.active_iff.mp water, ?_, ((stopped.pump water).passed_iff now).mp
      passed⟩
    rw [← same.running_iff, ← same.due_iff]
    exact ended water
  · rfl

theorem Stopped.controlFlowUpdate (stopped : Stopped stopTime s t)
    (disarms : s.StopDisarms stopTime) (now : Nat) :
    Stopped stopTime s (t.controlFlowUpdate now) := by
  have regulated : Stopped stopTime s (t.controlFlowRegulateAll now) :=
    controlFlowRegulateAll_turns now (Stopped stopTime s)
      (fun flow u held => held.controlFlowRegulate disarms now flow) stopped
  have ended : (t.controlFlowRegulateAll now).FlowActive 3 →
      ¬ ((t.controlFlowRegulateAll now).FlowRunning 3 ∧
        (t.controlFlowRegulateAll now).FlowDue now 3) := by
    rintro active ⟨running, due⟩
    have before := stopped.same 3 (controlFlowRegulateAll_flowActive now active)
    have after := regulated.same 3 active
    rw [after.running_iff, ← before.running_iff] at running
    rw [after.due_iff, ← before.due_iff] at due
    exact controlFlowRegulateAll_due now running due active
  have first : ¬ (t.controlFlowRegulateAll now).FlowActive 1 := fun active =>
    absurd (regulated.left 1 active) (by decide)
  have second : ¬ (t.controlFlowRegulateAll now).FlowActive 2 := fun active =>
    absurd (regulated.left 2 active) (by decide)
  have detection := controlFlowUpdate_of_idle now first second
  rw [regulated.controlFlowSupplementPump disarms ended] at detection
  exact regulated.framed (fun _ => .of_eq detection.deviceArray detection.trace)
    (fun flow => ⟨detection.flow flow, detection.sensorFlowArray⟩) detection.irrigation

/-! ## A relay that may go on does -/

/-- The flow wants its relay on, and the flows of the two supplements are inactive. -/
structure Calls (now : Nat) (flow : Fin 6) (t : Controller) : Prop where
  running : t.FlowRunning flow
  notDue : ¬ t.FlowDue now flow
  wanting : t.FlowWanting now flow
  first : ¬ t.FlowActive 1
  second : ¬ t.FlowActive 2

/-- A turn of another flow writes this flow's relay neither as its own nor as the supplement
line's. -/
theorem Calls.untouched (calls : Calls now flow t) {other : Fin 6} (different : other ≠ flow) :
    Untouched (controlFlowDevice flow) t (t.controlFlowRegulate now other) := by
  rcases controlFlowRegulate_cases now other t with
    same | ⟨running, _, ends⟩ | ⟨running, _, isActive, toggles⟩
  · rw [same]
    exact .refl _ t
  · obtain ⟨first, second⟩ := not_supplement running.1 calls.first calls.second
    rw [ends]
    exact relay_untouched (Ne.symm different) first second
  · rw [toggles]
    exact .deviceToggle (controlFlowDevice_ne (Ne.symm different)) now isActive t

theorem Calls.regulate (calls : Calls now flow t) (other : Fin 6) :
    Calls now flow (t.controlFlowRegulate now other) := by
  have same : SameFlow flow t (t.controlFlowRegulate now other) := by
    by_cases own : other = flow
    · subst own
      rw [controlFlowRegulate_of_wanting now calls.running calls.notDue calls.wanting]
      split <;> exact .of_eq rfl rfl
    · obtain ⟨record, sensors⟩ := controlFlowRegulate_other now (Ne.symm own) t
      exact .of_eq record sensors
  have starts : ∀ started, (t.controlFlowRegulate now other).FlowActive started →
      t.FlowActive started := by
    intro started active
    rcases controlFlowRegulate_cases now other t with kept | ⟨_, _, ends⟩ | ⟨_, _, _, toggles⟩
    · rwa [kept] at active
    · rw [ends] at active
      exact ((controlFlowStop_flowActive now other t started).mp active).2
    · rwa [toggles, deviceToggle_flowActive] at active
  exact {
    running := same.running_iff.mpr calls.running
    notDue := mt (same.due_iff now).mp calls.notDue
    wanting := (same.wanting_iff now).mpr calls.wanting
    first := mt (starts 1) calls.first
    second := mt (starts 2) calls.second }

/-- The relay of a flow that wants it is on after the flow's own turn, once it may move. -/
theorem Calls.turn (calls : Calls now flow t)
    (moves : t.IsOn (controlFlowDevice flow) ∨
      t.deviceIsTimeSwitchMinimumPassed now (controlFlowDevice flow) = true) :
    (t.controlFlowRegulate now flow).IsOn (controlFlowDevice flow) := by
  rw [controlFlowRegulate_of_wanting now calls.running calls.notDue calls.wanting]
  split
  · simp
  · rename_i still
    by_contra off
    exact still ⟨moves.resolve_left off, off⟩

/-- Whatever the regulation leaves on, and the supplement pump, are on after the update. -/
theorem isOn_of_regulated {device : Fin 15} (first : ¬ (t.controlFlowRegulateAll now).FlowActive 1)
    (second : ¬ (t.controlFlowRegulateAll now).FlowActive 2)
    (on : ((t.controlFlowRegulateAll now).controlFlowSupplementPump now).IsOn device) :
    (t.controlFlowUpdate now).IsOn device :=
  ((controlFlowUpdate_of_idle now first second).isOn_iff device).mpr on

theorem Calls.switchesOn (calls : Calls now flow t)
    (passed : t.deviceIsTimeSwitchMinimumPassed now (controlFlowDevice flow) = true) :
    (t.controlFlowUpdate now).IsOn (controlFlowDevice flow) := by
  have regulated : Calls now flow (t.controlFlowRegulateAll now) ∧
      (t.controlFlowRegulateAll now).IsOn (controlFlowDevice flow) := by
    refine controlFlowRegulateAll_reaches now flow
      (fun u => Calls now flow u ∧
        u.deviceIsTimeSwitchMinimumPassed now (controlFlowDevice flow) = true)
      (fun u => Calls now flow u ∧ u.IsOn (controlFlowDevice flow)) ?_ ?_ ?_ ⟨calls, passed⟩
    · rintro other u different ⟨held, passed⟩
      refine ⟨held.regulate other, ?_⟩
      unfold deviceIsTimeSwitchMinimumPassed at passed ⊢
      rwa [(held.untouched different).same]
    · rintro u ⟨held, passed⟩
      exact ⟨held.regulate flow, held.turn (.inr passed)⟩
    · rintro other u different ⟨held, on⟩
      exact ⟨held.regulate other, (held.untouched different).isOn_iff.mpr on⟩
  obtain ⟨held, on⟩ := regulated
  refine isOn_of_regulated held.first held.second ?_
  rcases controlFlowSupplementPump_cases now (t.controlFlowRegulateAll now) with
    same | ⟨_, toggles⟩
  · rwa [same]
  · rw [toggles, deviceToggle_isOn]
    split
    · decide
    · exact on

/-- An active water flow that is not ended switches the supplement pump on, paused or not. -/
theorem pump_switchesOn (active : t.FlowActive 3) (goesOn : ¬ (t.FlowRunning 3 ∧ t.FlowDue now 3))
    (first : ¬ t.FlowActive 1) (second : ¬ t.FlowActive 2)
    (passed : t.deviceIsTimeSwitchMinimumPassed now 3 = true) :
    (t.controlFlowUpdate now).IsOn 3 := by
  have kept : SameFlow 3 t (t.controlFlowRegulateAll now) ∧
      Untouched 3 t (t.controlFlowRegulateAll now) ∧
      ¬ (t.controlFlowRegulateAll now).FlowActive 1 ∧
      ¬ (t.controlFlowRegulateAll now).FlowActive 2 := by
    refine controlFlowRegulateAll_preserves now
      (fun u => SameFlow 3 t u ∧ Untouched 3 t u ∧ ¬ u.FlowActive 1 ∧ ¬ u.FlowActive 2) ?_ ?_
      ⟨.of_eq rfl rfl, .refl 3 t, first, second⟩
    · rintro flow u ⟨same, untouched, first, second⟩ running due
      have other : 3 ≠ flow := by
        rintro rfl
        exact goesOn ⟨same.running_iff.mp running, (same.due_iff now).mp due⟩
      obtain ⟨notFirst, notSecond⟩ := not_supplement running.1 first second
      refine ⟨same.trans (.of_eq (by simp [other]) (controlFlowStop_sensorFlowArray now flow u)),
        untouched.trans (pump_untouched notFirst notSecond (Ne.symm other)), ?_, ?_⟩
      · exact fun active => first ((controlFlowStop_flowActive now flow u 1).mp active).2
      · exact fun active => second ((controlFlowStop_flowActive now flow u 2).mp active).2
    · rintro flow isActive u ⟨same, untouched, first, second⟩ - -
      have own : (3 : Fin 15) ≠ controlFlowDevice flow := by
        revert flow
        decide
      exact ⟨same.trans (.of_eq rfl rfl), untouched.trans (.deviceToggle own now isActive u), first,
        second⟩
  obtain ⟨same, untouched, first, second⟩ := kept
  refine isOn_of_regulated first second ?_
  have still : (t.controlFlowRegulateAll now).FlowActive 3 := same.active_iff.mpr active
  unfold deviceIsTimeSwitchMinimumPassed at passed
  unfold Controller.controlFlowSupplementPump deviceIsTimeSwitchMinimumPassed
  rw [if_pos (.inr (.inr still)), untouched.same]
  split
  · simp
  · rename_i on
    by_contra off
    exact on ⟨off, passed⟩

/-- A relay that the condition rules out goes on in a single update. -/
theorem stopDisarms_of_off
    (off : ∀ now device,
      ¬ ((s.controlIrrigationTempForceStop stopTime).controlFlowUpdate now).IsOn device) :
    s.StopDisarms stopTime := by
  have first : ¬ (s.controlIrrigationTempForceStop stopTime).FlowActive 1 := by simp
  have second : ¬ (s.controlIrrigationTempForceStop stopTime).FlowActive 2 := by simp
  constructor
  · rintro flow now left ⟨running, notDue, wanting, released⟩
    have same := SameFlow.forceStop stopTime s left
    have calls : Calls now flow (s.controlIrrigationTempForceStop stopTime) := {
      running := same.running_iff.mpr running
      notDue := mt (same.due_iff now).mp notDue
      wanting := (same.wanting_iff now).mpr wanting
      first := first
      second := second }
    exact off now _ (calls.switchesOn (((toggledBy_forceStop stopTime _ s).passed_iff now).mpr
      released))
  · rintro now ⟨active, goesOn, released⟩
    have same : SameFlow 3 s (s.controlIrrigationTempForceStop stopTime) :=
      .forceStop stopTime s (by decide)
    rw [← same.running_iff, ← same.due_iff] at goesOn
    exact off now 3 (pump_switchesOn (same.active_iff.mpr active) goesOn first second
      (((toggledBy_forceStop stopTime 3 s).passed_iff now).mpr released))

end

end

end Controller

/-- The three periodic calls that may write relays. -/
def Operation.WritesRelays : Operation → Prop
  | .deviceUpdate | .controlFlowUpdate | .irrigationUpdate => True
  | _ => False

section

variable [FlowArithmetic]

theorem stopped_run {operation : Operation} {stopTime now : Nat} {s t : Controller}
    (stopped : Stopped stopTime s t) (disarms : s.StopDisarms stopTime)
    (periodic : operation.WritesRelays) : Stopped stopTime s (operation.run now t) := by
  cases operation with
  | deviceUpdate =>
      obtain ⟨-, flows, irrigation, -⟩ := deviceUpdate_fields now t
      exact stopped.framed (fun device => .deviceUpdate device now t)
        (fun flow => .of_eq (congrFun flows flow) (deviceUpdate_sensorFlowArray now t)) irrigation
  | controlFlowUpdate => exact stopped.controlFlowUpdate disarms now
  | irrigationUpdate =>
      change Stopped stopTime s (t.controlIrrigationTempUpdate now)
      rw [controlIrrigationTempUpdate, stopped.finished]
      exact stopped
  | _ => exact periodic.elim

/-- After a stop all fifteen relays are off. They stay off through every later run of the
periodic calls, at any clock values, exactly when no flow is left that could switch one on. -/
theorem stop_is_final (s : Controller) (stopTime : Nat) :
    (∀ device, ¬ (s.controlIrrigationTempForceStop stopTime).IsOn device) ∧
      ((∀ later : List (Step Operation), (∀ step ∈ later, step.operation.WritesRelays) →
        ∀ device, ¬ (controller.after (s.controlIrrigationTempForceStop stopTime) later).IsOn
          device) ↔ s.StopDisarms stopTime) := by
  refine ⟨forceStop_isOn stopTime s, fun off => ?_, fun disarms later periodic => ?_⟩
  · refine stopDisarms_of_off fun now => off [⟨now, .controlFlowUpdate⟩] fun step listed => ?_
    rw [List.mem_singleton.mp listed]
    trivial
  · suffices stopped : Stopped stopTime s
        (controller.after (s.controlIrrigationTempForceStop stopTime) later) from stopped.off
    induction later with
    | nil => exact .forceStop stopTime s
    | cons step prior ih =>
        refine stopped_run ?_ disarms (periodic step List.mem_cons_self)
        exact ih fun earlier listed => periodic earlier (List.mem_cons_of_mem step listed)

end

/-- The first group's stage, with its two supplement flows running. -/
def groupRunning : Controller :=
  controller.after boot [⟨9000, .irrigationUpdate⟩, ⟨4000, .start .group1 0⟩]

theorem stop_is_final_groupRunning :
    groupRunning.IsOn 1 ∧ groupRunning.FlowActive 1 ∧
      ¬ (controller.after (groupRunning.controlIrrigationTempForceStop 20000)
        [⟨90000, .controlFlowUpdate⟩, ⟨30000, .irrigationUpdate⟩]).IsOn 1 := by
  have disarms : groupRunning.StopDisarms 20000 := .of_inactive (by decide)
  refine ⟨by decide, by decide, (stop_is_final groupRunning 20000).2.mpr disarms _ ?_ 1⟩
  simp [Operation.WritesRelays]

/-- The well's own flow, started without limits from the serial interface, survives a stop:
fifteen seconds later the well pump is on again. -/
theorem stopped_well_restarts :
    let s := controller.after boot [⟨4000, .flowStart 0 0 0⟩]
    (controller.after (s.controlIrrigationTempForceStop 5000)
      [⟨20000, .controlFlowUpdate⟩]).IsOn 1 := by
  decide

end BlueberryIrrigation
