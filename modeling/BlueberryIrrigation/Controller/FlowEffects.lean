import BlueberryIrrigation.Controller.ControlFlow

/-!
# What the control flow functions can do

`controlFlowRegulate_cases` and its two companions say once which relay a regulator may
move and when. `controlFlowUpdate_preserves` turns them into the one rule by which every
invariant survives `control_flow_update`: it is kept by stopping a due flow, by the
guarded toggles of the regulators, and by a fault detection that writes no relay.
-/

namespace BlueberryIrrigation.Controller

variable (now : Nat)

/-! ## Single flows -/

section Single

variable (flow : Fin 6) (s : Controller)

@[simp] theorem setFlow_flowActive (value : ControlFlow) (other : Fin 6) :
    (s.setFlow flow value).FlowActive other ↔
      if other = flow then value.isActive ≠ 0 else s.FlowActive other := by
  by_cases same : other = flow
  · subst same
    simp [FlowActive, setFlow]
  · simp [FlowActive, setFlow, same]

@[simp] theorem setFlow_isOn (value : ControlFlow) (device : Fin 15) :
    (s.setFlow flow value).IsOn device ↔ s.IsOn device := Iff.rfl

@[simp] theorem setFlow_irrigation (value : ControlFlow) :
    (s.setFlow flow value).irrigation = s.irrigation := rfl

@[simp] theorem setFlow_trace (value : ControlFlow) :
    (s.setFlow flow value).trace = s.trace := rfl

theorem Untouched.setFlow (device : Fin 15) (value : ControlFlow) :
    Untouched device s (s.setFlow flow value) := .of_eq rfl rfl

section Start

variable [FlowArithmetic] (volumeToDeliver timeToDeliver : UInt16)

@[simp] theorem controlFlowStart_irrigation :
    (s.controlFlowStart now flow volumeToDeliver timeToDeliver).irrigation = s.irrigation := rfl

@[simp] theorem controlFlowStart_isOn (device : Fin 15) :
    (s.controlFlowStart now flow volumeToDeliver timeToDeliver).IsOn device ↔ s.IsOn device :=
  Iff.rfl

@[simp] theorem controlFlowStart_flowActive (other : Fin 6) :
    (s.controlFlowStart now flow volumeToDeliver timeToDeliver).FlowActive other ↔
      other = flow ∨ s.FlowActive other := by
  have flows : (s.controlFlowStart now flow volumeToDeliver timeToDeliver).FlowActive other ↔
      if other = flow then (1 : Flag) ≠ 0 else s.FlowActive other :=
    setFlow_flowActive flow s _ other
  rw [flows]
  by_cases same : other = flow <;> simp [same]

theorem Untouched.controlFlowStart (device : Fin 15) :
    Untouched device s (s.controlFlowStart now flow volumeToDeliver timeToDeliver) :=
  .of_eq rfl rfl

end Start

/-- The only relays `control_flow_stop` writes are the flow's own one and, for the flows of the
supplement line, the supplement pump and the water valve. -/
theorem Untouched.controlFlowStop_line {device : Fin 15} (own : device ≠ controlFlowDevice flow)
    (line : controlFlowSensor flow = 1 ∨ controlFlowSensor flow = 2 ∨ controlFlowSensor flow = 3 →
      device ≠ 3 ∧ device ≠ 9) : Untouched device s (s.controlFlowStop now flow) := by
  have toggled := Untouched.deviceToggle own now 0 s
  have stopped := toggled.trans (Untouched.setFlow flow _ device
    { s.controlFlowArray flow with isActive := 0, isPause := 0 })
  unfold Controller.controlFlowStop
  dsimp only
  split
  · obtain ⟨pump, water⟩ := line ‹_›
    split
    · exact (stopped.trans (Untouched.deviceToggle pump now 0 _)).trans
        (Untouched.deviceToggle water now 0 _)
    · exact stopped
  · exact stopped

theorem Untouched.controlFlowStop {device : Fin 15} (own : device ≠ controlFlowDevice flow)
    (pump : device ≠ 3) (water : device ≠ 9) :
    Untouched device s (s.controlFlowStop now flow) :=
  .controlFlowStop_line now flow s own fun _ => ⟨pump, water⟩

@[simp] theorem controlFlowStop_irrigation :
    (s.controlFlowStop now flow).irrigation = s.irrigation := by
  unfold controlFlowStop
  dsimp only
  split
  · split <;> rfl
  · rfl

@[simp] theorem controlFlowStop_sensorFlowArray :
    (s.controlFlowStop now flow).sensorFlowArray = s.sensorFlowArray := by
  unfold controlFlowStop
  dsimp only
  split
  · split <;> rfl
  · rfl

@[simp] theorem controlFlowStop_faultyDetectionStatus :
    (s.controlFlowStop now flow).faultyDetectionStatus = s.faultyDetectionStatus := by
  unfold controlFlowStop
  dsimp only
  split
  · split <;> rfl
  · rfl

@[simp] theorem controlFlowStop_stagesBegun :
    stagesBegun (s.controlFlowStop now flow).trace = stagesBegun s.trace := by
  unfold controlFlowStop
  dsimp only
  split
  · split <;> simp
  · simp

@[simp] theorem controlFlowStop_controlFlowArray :
    (s.controlFlowStop now flow).controlFlowArray =
      Function.update s.controlFlowArray flow
        { s.controlFlowArray flow with isActive := 0, isPause := 0 } := by
  unfold controlFlowStop
  dsimp only
  split
  · split <;> rfl
  · rfl

@[simp] theorem controlFlowStop_flowActive (other : Fin 6) :
    (s.controlFlowStop now flow).FlowActive other ↔ other ≠ flow ∧ s.FlowActive other := by
  unfold FlowActive
  rw [controlFlowStop_controlFlowArray]
  by_cases same : other = flow
  · subst same
    simp
  · simp [same]

/-- Stopping a flow switches nothing on, and switches the flow's own relay off. -/
theorem controlFlowStop_isOn {device : Fin 15}
    (on : (s.controlFlowStop now flow).IsOn device) :
    device ≠ controlFlowDevice flow ∧ s.IsOn device := by
  unfold controlFlowStop at on
  dsimp only at on
  by_cases own : device = controlFlowDevice flow
  · subst own
    split at on
    · split at on <;> simp at on
    · simp at on
  · refine ⟨own, ?_⟩
    split at on
    · split at on
      · simp [own] at on
        exact on.2.2
      · simpa [own] using on
    · simpa [own] using on

/-- The last supplement flow takes the supplement pump and the water valve with it. -/
theorem controlFlowStop_supplements {flow : Fin 6} (supplement : flow = 1 ∨ flow = 2 ∨ flow = 3)
    (idle : ∀ other, other = 1 ∨ other = 2 ∨ other = 3 →
      ¬ (s.controlFlowStop now flow).FlowActive other) :
    ¬ (s.controlFlowStop now flow).IsOn 3 ∧ ¬ (s.controlFlowStop now flow).IsOn 9 := by
  simp only [controlFlowStop_flowActive] at idle
  have line : controlFlowSensor flow = 1 ∨ controlFlowSensor flow = 2 ∨
      controlFlowSensor flow = 3 := by
    rcases supplement with rfl | rfl | rfl <;> decide
  have one : ¬ 1 = flow → ¬ s.FlowActive 1 := fun other on => idle 1 (by simp) ⟨other, on⟩
  have two : ¬ 2 = flow → ¬ s.FlowActive 2 := fun other on => idle 2 (by simp) ⟨other, on⟩
  have three : ¬ 3 = flow → ¬ s.FlowActive 3 := fun other on => idle 3 (by simp) ⟨other, on⟩
  unfold controlFlowStop
  dsimp only
  rw [if_pos line]
  split
  · simp
  · rename_i busy
    exact absurd ⟨by simpa using one, by simpa using two, by simpa using three⟩ busy

/-- `control_flow_pause` may switch the flow's own relay off and leaves every other alone. -/
theorem Untouched.controlFlowPause {device : Fin 15} (own : device ≠ controlFlowDevice flow)
    (isPause : Flag) : Untouched device s (s.controlFlowPause now flow isPause) := by
  unfold Controller.controlFlowPause
  dsimp only
  split
  · exact (Untouched.deviceToggle own now 0 s).trans (.setFlow flow _ device _)
  · exact .setFlow flow s device _

@[simp] theorem controlFlowPause_irrigation (isPause : Flag) :
    (s.controlFlowPause now flow isPause).irrigation = s.irrigation := by
  unfold controlFlowPause
  dsimp only
  split <;> rfl

/-- Pausing a flow switches nothing on. -/
theorem controlFlowPause_isOn {isPause : Flag} {device : Fin 15}
    (on : (s.controlFlowPause now flow isPause).IsOn device) : s.IsOn device := by
  unfold controlFlowPause at on
  dsimp only at on
  split at on
  · rw [setFlow_isOn, deviceToggle_off_isOn] at on
    exact on.2
  · exact on

@[simp] theorem controlFlowPause_stagesBegun (isPause : Flag) :
    stagesBegun (s.controlFlowPause now flow isPause).trace = stagesBegun s.trace := by
  unfold controlFlowPause
  dsimp only
  split <;> simp

@[simp] theorem controlFlowPause_flowActive (isPause : Flag) (other : Fin 6) :
    (s.controlFlowPause now flow isPause).FlowActive other ↔ s.FlowActive other := by
  unfold controlFlowPause
  dsimp only
  by_cases same : other = flow
  · subst same
    split <;> exact (setFlow_flowActive _ _ _ _).trans (by rw [if_pos rfl]; rfl)
  · split <;> simp [same]

end Single

/-! ## Regulation -/

section Regulation

/-- A flow that `control_flow_update` looks at: active and not paused. -/
def FlowRunning (flow : Fin 6) (s : Controller) : Prop :=
  s.FlowActive flow ∧ (s.controlFlowArray flow).isPause = 0

instance decidableFlowRunning (flow : Fin 6) (s : Controller) : Decidable (s.FlowRunning flow) :=
  inferInstanceAs (Decidable (_ ∧ _))

theorem FlowRunning.busy {flow : Fin 6} {s : Controller} (running : s.FlowRunning flow) :
    ¬ ((s.controlFlowArray flow).isActive = 0 ∨ (s.controlFlowArray flow).isPause ≠ 0) := by
  obtain ⟨active, unpaused⟩ := running
  rintro (inactive | paused)
  · exact active inactive
  · exact paused unpaused

section

variable [FlowArithmetic]

/-- One turn of the regulator leaves everything, stops a due flow, or moves the relay of a
running flow that is not due. -/
theorem controlFlowRegulate_cases (flow : Fin 6) (s : Controller) :
    s.controlFlowRegulate now flow = s ∨
    (s.FlowRunning flow ∧ s.FlowDue now flow ∧
      s.controlFlowRegulate now flow = s.controlFlowStop now flow) ∨
    (s.FlowRunning flow ∧ ¬ s.FlowDue now flow ∧ ∃ isActive,
      s.controlFlowRegulate now flow = s.deviceToggle now (controlFlowDevice flow) isActive) := by
  unfold controlFlowRegulate
  dsimp only
  by_cases idle : (s.controlFlowArray flow).isActive = 0 ∨ (s.controlFlowArray flow).isPause ≠ 0
  · exact .inl (if_pos idle)
  · have running : s.FlowRunning flow := by
      unfold FlowRunning FlowActive
      grind
    rw [if_neg idle]
    by_cases due : s.FlowDue now flow
    · exact .inr (.inl ⟨running, due, if_pos due⟩)
    · rw [if_neg due]
      split <;> split
      · exact .inr (.inr ⟨running, due, 1, rfl⟩)
      · exact .inl rfl
      · split
        · exact .inr (.inr ⟨running, due, 1, rfl⟩)
        · exact .inl rfl
      · split
        · exact .inr (.inr ⟨running, due, 0, rfl⟩)
        · exact .inl rfl

/-- A flow that is not running is passed over. -/
theorem controlFlowRegulate_of_idle {flow : Fin 6} {s : Controller} (idle : ¬ s.FlowRunning flow) :
    s.controlFlowRegulate now flow = s := by
  rcases controlFlowRegulate_cases now flow s with same | ⟨running, _⟩ | ⟨running, _⟩
  · exact same
  · exact absurd running idle
  · exact absurd running idle

/-- A running flow that is due is stopped in its turn. -/
theorem controlFlowRegulate_of_due {flow : Fin 6} {s : Controller}
    (running : s.FlowRunning flow) (due : s.FlowDue now flow) :
    s.controlFlowRegulate now flow = s.controlFlowStop now flow := by
  unfold controlFlowRegulate
  simp only [if_neg running.busy, if_pos due]

/-- The flow wants its relay on: it is without a pulse target or a time limit, or it is behind
its schedule. -/
def FlowWanting (flow : Fin 6) (s : Controller) : Prop :=
  let running := s.controlFlowArray flow
  running.pulsesToDeliver = 0 ∨ running.timeToDeliver = 0 ∨
    FlowArithmetic.isBehind running.pulsesToDeliver running.timeToDeliver
      (millis now - running.timeStart)
      (s.sensorFlowArray (controlFlowSensor flow)).pulsesTotal = true

/-- The relay of a wanting flow goes on once it may move. -/
theorem controlFlowRegulate_of_wanting {flow : Fin 6} {s : Controller}
    (running : s.FlowRunning flow) (notDue : ¬ s.FlowDue now flow)
    (wanting : s.FlowWanting now flow) :
    s.controlFlowRegulate now flow =
      if s.deviceIsTimeSwitchMinimumPassed now (controlFlowDevice flow) = true ∧
          ¬ s.IsOn (controlFlowDevice flow) then
        s.deviceToggle now (controlFlowDevice flow) 1
      else s := by
  unfold controlFlowRegulate
  simp only [if_neg running.busy, if_neg notDue]
  by_cases unlimited : (s.controlFlowArray flow).pulsesToDeliver = 0 ∨
      (s.controlFlowArray flow).timeToDeliver = 0
  · rw [if_pos unlimited]
  · have behind : FlowArithmetic.isBehind (s.controlFlowArray flow).pulsesToDeliver
        (s.controlFlowArray flow).timeToDeliver
        (millis now - (s.controlFlowArray flow).timeStart)
        (s.sensorFlowArray (controlFlowSensor flow)).pulsesTotal = true := by
      unfold FlowWanting at wanting
      grind
    rw [if_neg unlimited, if_pos behind]

/-- The relay of a flow that is ahead of its schedule goes off once it may move. -/
theorem controlFlowRegulate_of_ahead {flow : Fin 6} {s : Controller}
    (running : s.FlowRunning flow) (notDue : ¬ s.FlowDue now flow)
    (ahead : ¬ s.FlowWanting now flow) :
    s.controlFlowRegulate now flow =
      if s.deviceIsTimeSwitchMinimumPassed now (controlFlowDevice flow) = true ∧
          s.IsOn (controlFlowDevice flow) then
        s.deviceToggle now (controlFlowDevice flow) 0
      else s := by
  unfold FlowWanting at ahead
  simp only [not_or] at ahead
  obtain ⟨pulses, time, behind⟩ := ahead
  have limited : ¬ ((s.controlFlowArray flow).pulsesToDeliver = 0 ∨
      (s.controlFlowArray flow).timeToDeliver = 0) := not_or.mpr ⟨pulses, time⟩
  unfold controlFlowRegulate
  simp only [if_neg running.busy, if_neg notDue, if_neg limited, if_neg behind]

end

theorem controlFlowSupplementPump_cases (s : Controller) :
    s.controlFlowSupplementPump now = s ∨
    ((s.FlowActive 1 ∨ s.FlowActive 2 ∨ s.FlowActive 3) ∧
      s.controlFlowSupplementPump now = s.deviceToggle now 3 1) := by
  unfold controlFlowSupplementPump
  split
  · split
    · exact .inr ⟨‹_›, rfl⟩
    · exact .inl rfl
  · exact .inl rfl

theorem controlFlowWaterValve_cases (s : Controller) :
    s.controlFlowWaterValve now = s ∨
    ((s.FlowActive 1 ∨ s.FlowActive 2) ∧
      ∃ isActive, s.controlFlowWaterValve now = s.deviceToggle now 9 isActive) := by
  unfold controlFlowWaterValve
  split
  · split
    · split
      · exact .inr ⟨‹_›, 1, rfl⟩
      · exact .inl rfl
    · split
      · split
        · exact .inr ⟨‹_›, 0, rfl⟩
        · exact .inl rfl
      · exact .inl rfl
  · exact .inl rfl

@[simp] theorem controlFlowSupplementPump_flowActive (flow : Fin 6) (s : Controller) :
    (s.controlFlowSupplementPump now).FlowActive flow ↔ s.FlowActive flow := by
  rcases controlFlowSupplementPump_cases now s with same | ⟨_, toggled⟩
  · rw [same]
  · rw [toggled, deviceToggle_flowActive]

@[simp] theorem controlFlowWaterValve_flowActive (flow : Fin 6) (s : Controller) :
    (s.controlFlowWaterValve now).FlowActive flow ↔ s.FlowActive flow := by
  rcases controlFlowWaterValve_cases now s with same | ⟨_, _, toggled⟩
  · rw [same]
  · rw [toggled, deviceToggle_flowActive]

/-- The two states agree on everything fault detection has no business with. -/
structure DetectionOnly (before after : Controller) : Prop where
  deviceArray : after.deviceArray = before.deviceArray
  sensorFlowArray : after.sensorFlowArray = before.sensorFlowArray
  irrigation : after.irrigation = before.irrigation
  trace : after.trace = before.trace
  flow : ∀ flow, ∃ pulsesLast, after.controlFlowArray flow =
    { before.controlFlowArray flow with pulsesLast := pulsesLast }

theorem DetectionOnly.refl (s : Controller) : DetectionOnly s s :=
  ⟨rfl, rfl, rfl, rfl, fun flow => ⟨(s.controlFlowArray flow).pulsesLast, rfl⟩⟩

theorem DetectionOnly.trans {first second third : Controller}
    (before : DetectionOnly first second) (after : DetectionOnly second third) :
    DetectionOnly first third where
  deviceArray := after.deviceArray.trans before.deviceArray
  sensorFlowArray := after.sensorFlowArray.trans before.sensorFlowArray
  irrigation := after.irrigation.trans before.irrigation
  trace := after.trace.trans before.trace
  flow flow := by
    obtain ⟨_, firstFlow⟩ := before.flow flow
    obtain ⟨pulsesLast, secondFlow⟩ := after.flow flow
    exact ⟨pulsesLast, by rw [secondFlow, firstFlow]⟩

theorem DetectionOnly.isOn_iff {before after : Controller} (detection : DetectionOnly before after)
    (device : Fin 15) : after.IsOn device ↔ before.IsOn device := by
  unfold IsOn
  rw [detection.deviceArray]

theorem DetectionOnly.flowActive_iff {before after : Controller}
    (detection : DetectionOnly before after) (flow : Fin 6) :
    after.FlowActive flow ↔ before.FlowActive flow := by
  obtain ⟨_, same⟩ := detection.flow flow
  unfold FlowActive
  rw [same]

/-- The latch and its clock are no business of these fields. -/
theorem DetectionOnly.latch {before after : Controller} (detection : DetectionOnly before after)
    (status : FaultyDetectionStatus) (time : UInt32) :
    DetectionOnly before
      { after with faultyDetectionStatus := status, faultyDetectionTimeLast := time } :=
  ⟨detection.1, detection.2, detection.3, detection.4, detection.5⟩

theorem DetectionOnly.controlFlowDetect (flow : Fin 6) (s : Controller) :
    DetectionOnly s (s.controlFlowDetect flow) := by
  have counted : ∀ status pulsesLast, DetectionOnly s
      { s.setFlow flow { s.controlFlowArray flow with pulsesLast := pulsesLast } with
        faultyDetectionStatus := status } := by
    intro status pulsesLast
    refine ⟨rfl, rfl, rfl, rfl, fun other => ?_⟩
    by_cases same : other = flow
    · subst same
      exact ⟨pulsesLast, by simp [setFlow]⟩
    · exact ⟨(s.controlFlowArray other).pulsesLast, by simp [setFlow, same]⟩
  unfold Controller.controlFlowDetect
  dsimp only
  split
  · exact .refl s
  · split <;> split
    · exact (DetectionOnly.refl s).latch _ _
    · exact (counted _ _).latch _ _
    · exact .refl s
    · exact counted _ _

theorem DetectionOnly.controlFlowDetection (s : Controller) :
    DetectionOnly s (s.controlFlowDetection now) := by
  have all : ∀ (flows : List (Fin 6)) (t : Controller), DetectionOnly t
      (flows.foldl (fun s flow => s.controlFlowDetect flow) t) := by
    intro flows
    induction flows with
    | nil => exact .refl
    | cons flow rest ih => exact fun t => (DetectionOnly.controlFlowDetect flow t).trans (ih _)
  unfold Controller.controlFlowDetection
  split
  · exact (all (List.finRange 6) s).latch _ _
  · exact .refl s

/-- The flow has the target, limit and start that it had, and no sensor has moved. -/
structure SameSchedule (flow : Fin 6) (before after : Controller) : Prop where
  target : (after.controlFlowArray flow).pulsesToDeliver =
    (before.controlFlowArray flow).pulsesToDeliver
  limit : (after.controlFlowArray flow).timeToDeliver =
    (before.controlFlowArray flow).timeToDeliver
  start : (after.controlFlowArray flow).timeStart = (before.controlFlowArray flow).timeStart
  sensors : after.sensorFlowArray = before.sensorFlowArray

namespace SameSchedule

variable {flow : Fin 6} {first second third : Controller}

theorem of_eq (flow : Fin 6) (flows : second.controlFlowArray = first.controlFlowArray)
    (sensors : second.sensorFlowArray = first.sensorFlowArray) : SameSchedule flow first second :=
  ⟨by rw [flows], by rw [flows], by rw [flows], sensors⟩

theorem refl (flow : Fin 6) (s : Controller) : SameSchedule flow s s := .of_eq flow rfl rfl

theorem trans (before : SameSchedule flow first second) (after : SameSchedule flow second third) :
    SameSchedule flow first third :=
  ⟨after.target.trans before.target, after.limit.trans before.limit,
    after.start.trans before.start, after.sensors.trans before.sensors⟩

/-- The same schedule is due at the same time. -/
theorem due_iff (same : SameSchedule flow first second) (now : Nat) :
    second.FlowDue now flow ↔ first.FlowDue now flow := by
  unfold FlowDue
  dsimp only
  rw [same.target, same.limit, same.start, same.sensors]

theorem controlFlowStop (flow other : Fin 6) (s : Controller) :
    SameSchedule flow s (s.controlFlowStop now other) := by
  by_cases same : flow = other
  · subst same
    constructor <;> simp
  · constructor <;> simp [same]

theorem of_detection (flow : Fin 6) (detection : DetectionOnly first second) :
    SameSchedule flow first second := by
  obtain ⟨_, record⟩ := detection.flow flow
  exact ⟨by rw [record], by rw [record], by rw [record], detection.sensorFlowArray⟩

end SameSchedule

/-- What is due stays due while the flow's running time does not pass the counter's period. -/
theorem FlowDue.later {now later : Nat} {flow : Fin 6} {s : Controller} (due : s.FlowDue now flow)
    (ordered : now ≤ later)
    (fits : (millis now - (s.controlFlowArray flow).timeStart).toNat + (later - now) <
      Clock.period) : s.FlowDue later flow := by
  rcases due with delivered | ⟨limited, expired⟩
  · exact .inl delivered
  · refine .inr ⟨limited, ?_⟩
    have shown : (millis later - (s.controlFlowArray flow).timeStart).toNat =
        (millis now - (s.controlFlowArray flow).timeStart).toNat + (later - now) :=
      Clock.toNat_sub_later ordered fits
    rw [UInt32.le_iff_toNat_le] at expired ⊢
    rw [shown]
    exact Nat.le_add_right_of_le expired

variable [FlowArithmetic]

omit [FlowArithmetic] in
/-- What the own turn of a loop brings about, when no turn before it prevents it and none after it
undoes it. -/
theorem foldl_reaches {State Item : Type} {turn : State → Item → State} {own : Item}
    (before after : State → Prop)
    (earlier : ∀ s other, other ≠ own → before s → before (turn s other))
    (acts : ∀ s, before s → after (turn s own))
    (later : ∀ s other, other ≠ own → after s → after (turn s other))
    {items : List Item} (distinct : items.Nodup) (listed : own ∈ items) {s : State}
    (holds : before s) : after (items.foldl turn s) := by
  induction items generalizing s with
  | nil => exact absurd listed List.not_mem_nil
  | cons item rest ih =>
      obtain ⟨fresh, distinct⟩ := List.nodup_cons.mp distinct
      by_cases mine : item = own
      · subst mine
        refine List.foldlRecOn rest _ (acts s holds) fun s held other among => later s other ?_ held
        rintro rfl
        exact fresh among
      · have among : own ∈ rest := (List.mem_cons.mp listed).resolve_left (Ne.symm mine)
        exact ih distinct among (earlier s item mine holds)

/-- What every single turn keeps is kept by the regulation of all flows. -/
theorem controlFlowRegulateAll_turns (property : Controller → Prop)
    (turn : ∀ flow s, property s → property (s.controlFlowRegulate now flow))
    {s : Controller} (holds : property s) : property (s.controlFlowRegulateAll now) :=
  List.foldlRecOn (List.finRange 6) _ holds fun s held flow _ => turn flow s held

/-- What a flow's own turn brings about, when nothing before that turn prevents it and nothing
after it undoes it. -/
theorem controlFlowRegulateAll_reaches (flow : Fin 6) (before after : Controller → Prop)
    (earlier : ∀ other s, other ≠ flow → before s → before (s.controlFlowRegulate now other))
    (turn : ∀ s, before s → after (s.controlFlowRegulate now flow))
    (later : ∀ other s, other ≠ flow → after s → after (s.controlFlowRegulate now other))
    {s : Controller} (holds : before s) : after (s.controlFlowRegulateAll now) :=
  foldl_reaches before after (fun s other different => earlier other s different) turn
    (fun s other different => later other s different) (List.nodup_finRange 6)
    (List.mem_finRange flow) holds

/-- The rule by which an invariant survives the regulation of all flows. -/
theorem controlFlowRegulateAll_preserves (property : Controller → Prop)
    (stop : ∀ flow s, property s → s.FlowRunning flow → s.FlowDue now flow →
      property (s.controlFlowStop now flow))
    (regulate : ∀ flow isActive s, property s → s.FlowRunning flow → ¬ s.FlowDue now flow →
      property (s.deviceToggle now (controlFlowDevice flow) isActive))
    {s : Controller} (holds : property s) : property (s.controlFlowRegulateAll now) := by
  refine controlFlowRegulateAll_turns now property (fun flow s holds => ?_) holds
  rcases controlFlowRegulate_cases now flow s with same | ⟨running, due, stopped⟩ |
    ⟨running, due, isActive, toggled⟩
  · rwa [same]
  · rw [stopped]
    exact stop flow s holds running due
  · rw [toggled]
    exact regulate flow isActive s holds running due

/-- Regulation starts no flow. -/
theorem controlFlowRegulateAll_flowActive {flow : Fin 6} {s : Controller}
    (active : (s.controlFlowRegulateAll now).FlowActive flow) : s.FlowActive flow :=
  controlFlowRegulateAll_preserves now (fun t => t.FlowActive flow → s.FlowActive flow)
    (fun _ _ before _ _ active => before ((controlFlowStop_flowActive now _ _ _).mp active).2)
    (fun _ _ _ before _ _ => before) id active

/-- A turn of another flow changes neither this flow nor any sensor. -/
theorem controlFlowRegulate_other {flow other : Fin 6} (different : other ≠ flow)
    (s : Controller) :
    (s.controlFlowRegulate now flow).controlFlowArray other = s.controlFlowArray other ∧
      (s.controlFlowRegulate now flow).sensorFlowArray = s.sensorFlowArray := by
  rcases controlFlowRegulate_cases now flow s with
    same | ⟨_, _, stopped⟩ | ⟨_, _, isActive, toggled⟩
  · simp [same]
  · simp [stopped, different]
  · simp [toggled]

/-- Every running flow that is due has been stopped when all flows have been regulated. -/
theorem controlFlowRegulateAll_due {flow : Fin 6} {s : Controller} (running : s.FlowRunning flow)
    (due : s.FlowDue now flow) : ¬ (s.controlFlowRegulateAll now).FlowActive flow := by
  refine controlFlowRegulateAll_reaches now flow
    (fun t => t.FlowRunning flow ∧ t.FlowDue now flow) (fun t => ¬ t.FlowActive flow) ?_ ?_ ?_
    ⟨running, due⟩
  · rintro other t different ⟨running, due⟩
    obtain ⟨record, sensors⟩ := controlFlowRegulate_other now (Ne.symm different) t
    unfold FlowRunning FlowActive FlowDue at *
    rw [record, sensors]
    exact ⟨running, due⟩
  · rintro t ⟨running, due⟩
    rw [controlFlowRegulate_of_due now running due, controlFlowStop_flowActive]
    simp
  · intro other t different inactive
    obtain ⟨record, -⟩ := controlFlowRegulate_other now (Ne.symm different) t
    unfold FlowActive at *
    rwa [record]

/-- The rule by which an invariant survives `control_flow_update`. -/
theorem controlFlowUpdate_preserves (property : Controller → Prop)
    (stop : ∀ flow s, property s → s.FlowRunning flow → s.FlowDue now flow →
      property (s.controlFlowStop now flow))
    (regulate : ∀ flow isActive s, property s → s.FlowRunning flow → ¬ s.FlowDue now flow →
      property (s.deviceToggle now (controlFlowDevice flow) isActive))
    (pump : ∀ s, property s → s.FlowActive 1 ∨ s.FlowActive 2 ∨ s.FlowActive 3 →
      property (s.deviceToggle now 3 1))
    (water : ∀ isActive s, property s → s.FlowActive 1 ∨ s.FlowActive 2 →
      property (s.deviceToggle now 9 isActive))
    (detect : ∀ s t, property s → DetectionOnly s t → property t)
    {s : Controller} (holds : property s) : property (s.controlFlowUpdate now) := by
  have pumped : ∀ s, property s → property (s.controlFlowSupplementPump now) := by
    intro s holds
    rcases controlFlowSupplementPump_cases now s with same | ⟨active, toggled⟩
    · rwa [same]
    · rw [toggled]
      exact pump s holds active
  have watered : ∀ s, property s → property (s.controlFlowWaterValve now) := by
    intro s holds
    rcases controlFlowWaterValve_cases now s with same | ⟨active, isActive, toggled⟩
    · rwa [same]
    · rw [toggled]
      exact water isActive s holds active
  have regulated := controlFlowRegulateAll_preserves now property stop regulate holds
  exact detect _ _ (watered _ (pumped _ regulated)) (.controlFlowDetection now _)

/-- While the flows of the two supplements are inactive, the supplement pump is the only relay
that `control_flow_update` may still write after the regulation. -/
theorem controlFlowUpdate_of_idle {s : Controller}
    (first : ¬ (s.controlFlowRegulateAll now).FlowActive 1)
    (second : ¬ (s.controlFlowRegulateAll now).FlowActive 2) :
    DetectionOnly ((s.controlFlowRegulateAll now).controlFlowSupplementPump now)
      (s.controlFlowUpdate now) := by
  unfold controlFlowUpdate
  rcases controlFlowWaterValve_cases now
    ((s.controlFlowRegulateAll now).controlFlowSupplementPump now) with same | ⟨active, _⟩
  · rw [same]
    exact .controlFlowDetection now _
  · rw [controlFlowSupplementPump_flowActive, controlFlowSupplementPump_flowActive] at active
    exact absurd active (not_or.mpr ⟨first, second⟩)

@[simp] theorem controlFlowUpdate_irrigation (s : Controller) :
    (s.controlFlowUpdate now).irrigation = s.irrigation :=
  controlFlowUpdate_preserves now (fun t => t.irrigation = s.irrigation)
    (fun _ _ same _ _ => by simpa using same) (fun _ _ _ same _ _ => same) (fun _ same _ => same)
    (fun _ _ same _ => same) (fun _ _ same detection => detection.irrigation.trans same) rfl

@[simp] theorem controlFlowUpdate_stagesBegun (s : Controller) :
    stagesBegun (s.controlFlowUpdate now).trace = stagesBegun s.trace :=
  controlFlowUpdate_preserves now (fun t => stagesBegun t.trace = stagesBegun s.trace)
    (fun _ _ same _ _ => by simpa using same) (fun _ _ _ same _ _ => by simpa using same)
    (fun _ same _ => by simpa using same) (fun _ _ same _ => by simpa using same)
    (fun _ _ same detection => by rw [detection.trace, same]) rfl

/-- `control_flow_update` starts no flow. -/
theorem controlFlowUpdate_flowActive {flow : Fin 6} {s : Controller}
    (active : (s.controlFlowUpdate now).FlowActive flow) : s.FlowActive flow :=
  controlFlowUpdate_preserves now (fun t => t.FlowActive flow → s.FlowActive flow)
    (fun _ _ before _ _ active => before ((controlFlowStop_flowActive now _ _ _).mp active).2)
    (fun _ _ _ before _ _ => before) (fun _ before _ => before) (fun _ _ before _ => before)
    (fun _ _ before detection active => before ((detection.flowActive_iff flow).mp active))
    id active

/-- `control_flow_update` ends every running flow that is due. -/
theorem controlFlowUpdate_due {flow : Fin 6} {s : Controller} (running : s.FlowRunning flow)
    (due : s.FlowDue now flow) : ¬ (s.controlFlowUpdate now).FlowActive flow := by
  unfold controlFlowUpdate
  rw [(DetectionOnly.controlFlowDetection now _).flowActive_iff, controlFlowWaterValve_flowActive,
    controlFlowSupplementPump_flowActive]
  exact controlFlowRegulateAll_due now running due

/-- `control_flow_update` gives no flow another target, limit or start. -/
theorem SameSchedule.controlFlowUpdate (flow : Fin 6) (s : Controller) :
    SameSchedule flow s (s.controlFlowUpdate now) := by
  refine controlFlowUpdate_preserves now (SameSchedule flow s) ?_ ?_ ?_ ?_ ?_ (.refl flow s)
  · exact fun other t same _ _ => same.trans (.controlFlowStop now flow other t)
  · exact fun _ _ _ same _ _ => same.trans (.of_eq flow rfl rfl)
  · exact fun _ same _ => same.trans (.of_eq flow rfl rfl)
  · exact fun _ _ same _ => same.trans (.of_eq flow rfl rfl)
  · exact fun _ _ same detection => same.trans (.of_detection flow detection)

/-- The flows `control_flow_update` leaves active are the active ones that are not due, as long as
none is paused. -/
theorem controlFlowUpdate_flowActive_iff {flow : Fin 6} {s : Controller}
    (unpaused : (s.controlFlowArray flow).isPause = 0) :
    (s.controlFlowUpdate now).FlowActive flow ↔ s.FlowActive flow ∧ ¬ s.FlowDue now flow := by
  constructor
  · intro active
    have before := controlFlowUpdate_flowActive now active
    exact ⟨before, fun due => controlFlowUpdate_due now ⟨before, unpaused⟩ due active⟩
  · rintro ⟨active, notDue⟩
    have kept := controlFlowUpdate_preserves now
      (fun t => SameSchedule flow s t ∧ t.FlowActive flow) ?_ ?_ ?_ ?_ ?_ ⟨.refl flow s, active⟩
    · exact kept.2
    · rintro other t ⟨same, still⟩ - due
      refine ⟨same.trans (.controlFlowStop now flow other t), ?_⟩
      rw [controlFlowStop_flowActive]
      refine ⟨?_, still⟩
      rintro rfl
      exact notDue ((same.due_iff now).mp due)
    · exact fun _ _ _ held _ _ => ⟨held.1.trans (.of_eq flow rfl rfl), held.2⟩
    · exact fun _ held _ => ⟨held.1.trans (.of_eq flow rfl rfl), held.2⟩
    · exact fun _ _ held _ => ⟨held.1.trans (.of_eq flow rfl rfl), held.2⟩
    · rintro t u ⟨same, still⟩ detection
      exact ⟨same.trans (.of_detection flow detection), (detection.flowActive_iff flow).mpr still⟩

/-- A relay that is off stays off while the one flow that drives it is idle, paused or due. -/
theorem controlFlowUpdate_keeps_off {device : Fin 15} {flow : Fin 6} {s : Controller}
    (own : ∀ other, controlFlowDevice other = device → other = flow) (pump : device ≠ 3)
    (water : device ≠ 9) (idle : s.FlowRunning flow → s.FlowDue now flow)
    (off : ¬ s.IsOn device) : ¬ (s.controlFlowUpdate now).IsOn device := by
  have regulated := controlFlowRegulateAll_preserves now
    (fun t => ¬ t.IsOn device ∧ (t.FlowRunning flow → t.FlowDue now flow)) ?_ ?_ ⟨off, idle⟩
  · have toggled : ∀ (other : Fin 15) (isActive : Flag) (t : Controller), device ≠ other →
        ¬ t.IsOn device → ¬ (t.deviceToggle now other isActive).IsOn device := by
      intro other isActive t different off
      simpa [different] using off
    have pumped : ¬ ((s.controlFlowRegulateAll now).controlFlowSupplementPump now).IsOn device := by
      rcases controlFlowSupplementPump_cases now (s.controlFlowRegulateAll now) with same |
        ⟨_, switched⟩
      · rw [same]
        exact regulated.1
      · rw [switched]
        exact toggled 3 1 _ pump regulated.1
    have watered : ¬ (((s.controlFlowRegulateAll now).controlFlowSupplementPump
        now).controlFlowWaterValve now).IsOn device := by
      rcases controlFlowWaterValve_cases now
        ((s.controlFlowRegulateAll now).controlFlowSupplementPump now) with same |
        ⟨_, isActive, switched⟩
      · rwa [same]
      · rw [switched]
        exact toggled 9 isActive _ water pumped
    exact mt ((DetectionOnly.controlFlowDetection now _).isOn_iff device).mp watered
  · rintro other t ⟨off, idle⟩ _ _
    refine ⟨fun on => off (controlFlowStop_isOn now other t on).2, fun running => ?_⟩
    have different := ((controlFlowStop_flowActive now other t flow).mp running.1).1
    have record :
        (t.controlFlowStop now other).controlFlowArray flow = t.controlFlowArray flow := by
      simp [different]
    unfold FlowDue FlowRunning FlowActive at *
    rw [record] at running ⊢
    rw [controlFlowStop_sensorFlowArray]
    exact idle running
  · rintro other isActive t ⟨off, idle⟩ running notDue
    refine ⟨?_, idle⟩
    by_cases same : controlFlowDevice other = device
    · obtain rfl := own other same
      exact absurd (idle running) notDue
    · simpa [Ne.symm same] using off

/-- `control_flow_update` writes the relays of active flows, the supplement pump and the
water valve, and no other. -/
theorem Untouched.controlFlowUpdate {device : Fin 15} {s : Controller}
    (idle : ∀ flow, s.FlowActive flow → device ≠ controlFlowDevice flow) (pump : device ≠ 3)
    (water : device ≠ 9) : Untouched device s (s.controlFlowUpdate now) := by
  have kept := controlFlowUpdate_preserves now
    (fun t => Untouched device s t ∧ ∀ flow, t.FlowActive flow → s.FlowActive flow)
    (fun flow t before running _ =>
      ⟨before.1.trans
          (.controlFlowStop now flow t (idle flow (before.2 flow running.1)) pump water),
        fun other active => before.2 other ((controlFlowStop_flowActive now flow t other).mp
          active).2⟩)
    (fun flow isActive t before running _ =>
      ⟨before.1.trans (.deviceToggle (idle flow (before.2 flow running.1)) now isActive t),
        before.2⟩)
    (fun t before _ => ⟨before.1.trans (.deviceToggle pump now 1 t), before.2⟩)
    (fun isActive t before _ => ⟨before.1.trans (.deviceToggle water now isActive t), before.2⟩)
    (fun t u before detection =>
      ⟨before.1.trans (.of_eq detection.deviceArray detection.trace),
        fun flow active => before.2 flow ((detection.flowActive_iff flow).mp active)⟩)
    ⟨Untouched.refl device s, fun _ active => active⟩
  exact kept.1

end Regulation

end BlueberryIrrigation.Controller
