import BlueberryIrrigation.Safety.Relays
import BlueberryIrrigation.Safety.Switching

/-!
# Pins and coils in runs of the whole controller

Whatever an operation does, it reaches the relays through `device_toggle` and `device_update` only.
`RelaySteps.run` is that decomposition, and with it an invariant of those two functions is one of
every run. Two of them follow: the pins always say what the tables say, and a coil of the click
pump is energised for at least its hold and for at most its hold and one gap between two calls of
`device_update`.
-/

namespace BlueberryIrrigation

open Semantics

namespace Controller

/-- The two states agree on the relays, but for the minimum switching times. -/
structure RelaysKept (before after : Controller) : Prop where
  pin : ∀ device, (after.deviceArray device).pin = (before.deviceArray device).pin
  isActive : ∀ device, (after.deviceArray device).isActive = (before.deviceArray device).isActive
  deviceExtension : ∀ device,
    (after.deviceArray device).deviceExtension = (before.deviceArray device).deviceExtension
  extensions : after.deviceExtensionArray = before.deviceExtensionArray
  extended : after.deviceExtendedArray = before.deviceExtendedArray
  trace : after.trace = before.trace

/-- What an operation does to the relays. -/
inductive RelaySteps (now : Nat) (origin : Controller) : Controller → Prop
  | refl : RelaySteps now origin origin
  | toggle {s : Controller} (prior : RelaySteps now origin s) (device : Fin 15)
      (isActive : Flag) : RelaySteps now origin (s.deviceToggle now device isActive)
  | release {s : Controller} (prior : RelaySteps now origin s) :
      RelaySteps now origin (s.deviceUpdate now)
  | stage {s : Controller} (prior : RelaySteps now origin s) (program : Program) :
      RelaySteps now origin (s.record now (.stage program))
  | beside {s t : Controller} (prior : RelaySteps now origin s) (kept : RelaysKept s t) :
      RelaySteps now origin t

namespace RelaysKept

variable {first second third : Controller}

theorem of_eq (devices : second.deviceArray = first.deviceArray)
    (extensions : second.deviceExtensionArray = first.deviceExtensionArray)
    (extended : second.deviceExtendedArray = first.deviceExtendedArray)
    (trace : second.trace = first.trace) : RelaysKept first second :=
  ⟨fun _ => by rw [devices], fun _ => by rw [devices], fun _ => by rw [devices], extensions,
    extended, trace⟩

theorem refl (s : Controller) : RelaysKept s s := .of_eq rfl rfl rfl rfl

theorem trans (before : RelaysKept first second) (after : RelaysKept second third) :
    RelaysKept first third where
  pin device := (after.pin device).trans (before.pin device)
  isActive device := (after.isActive device).trans (before.isActive device)
  deviceExtension device := (after.deviceExtension device).trans (before.deviceExtension device)
  extensions := after.extensions.trans before.extensions
  extended := after.extended.trans before.extended
  trace := after.trace.trans before.trace

theorem controlFlowDetect (flow : Fin 6) (s : Controller) :
    RelaysKept s (s.controlFlowDetect flow) := by
  unfold Controller.controlFlowDetect
  dsimp only
  split
  · exact .refl s
  · split <;> split <;> exact .of_eq rfl rfl rfl rfl

theorem controlFlowDetection (now : Nat) (s : Controller) :
    RelaysKept s (s.controlFlowDetection now) := by
  have all : RelaysKept s ((List.finRange 6).foldl (fun s flow => s.controlFlowDetect flow) s) :=
    List.foldlRecOn _ _ (.refl s) fun t held flow _ => held.trans (.controlFlowDetect flow t)
  unfold Controller.controlFlowDetection
  split
  · generalize (List.finRange 6).foldl (fun s flow => s.controlFlowDetect flow) s = looked at all ⊢
    exact all.trans (.of_eq rfl rfl rfl rfl)
  · exact .refl s

theorem sensorFlowUpdate (now : Nat) (s : Controller) : RelaysKept s (s.sensorFlowUpdate now) := by
  by_cases waiting : millis now - s.sensorFlowTimeUpdateLast < sensorFlowUpdateInterval
  · unfold Controller.sensorFlowUpdate
    rw [if_pos waiting]
    exact .refl s
  · rw [sensorFlowUpdate_eq waiting]
    exact .of_eq rfl rfl rfl rfl

theorem sensorPressureUpdate (now : Nat) (readings : Fin 3 → UInt16) (s : Controller) :
    RelaysKept s (s.sensorPressureUpdate now readings) := by
  unfold Controller.sensorPressureUpdate
  split <;> exact .of_eq rfl rfl rfl rfl

theorem assign (setting : Setting) (s : Controller) : RelaysKept s (s.assign setting) := by
  cases setting with
  | timeSwitchMinimum changed time =>
      have kept {value : Type} (field : Device → value) (device : Fin 15)
          (same : ∀ entry : Device, field { entry with timeSwitchMinimum := time } = field entry) :
          field ((s.assign (.timeSwitchMinimum changed time)).deviceArray device) =
            field (s.deviceArray device) := by
        by_cases own : device = changed
        · subst own
          simpa [Controller.assign] using same (s.deviceArray device)
        · simp [Controller.assign, own]
      exact ⟨fun device => kept Device.pin device fun _ => rfl,
        fun device => kept Device.isActive device fun _ => rfl,
        fun device => kept Device.deviceExtension device fun _ => rfl, rfl, rfl, rfl⟩
  | _ => exact .of_eq rfl rfl rfl rfl

end RelaysKept

namespace RelaySteps

variable {now : Nat} {origin s : Controller}

theorem withIrrigation (prior : RelaySteps now origin s) (change : Irrigation → Irrigation) :
    RelaySteps now origin (s.withIrrigation change) := prior.beside (.of_eq rfl rfl rfl rfl)

theorem beginStage (prior : RelaySteps now origin s) (stage : Program) :
    RelaySteps now origin (s.beginStage now stage) := (prior.stage stage).withIrrigation _

theorem pulsesTotalSet (prior : RelaySteps now origin s) (sensor : Fin 5) (total : UInt32) :
    RelaySteps now origin (s.sensorFlowPulsesTotalSet sensor total) :=
  prior.beside (.of_eq rfl rfl rfl rfl)

/-! ## Control flows -/

theorem controlFlowStop (prior : RelaySteps now origin s) (flow : Fin 6) :
    RelaySteps now origin (s.controlFlowStop now flow) := by
  have stopped := (prior.toggle (controlFlowDevice flow) 0).beside (t :=
    (s.deviceToggle now (controlFlowDevice flow) 0).setFlow flow
      { s.controlFlowArray flow with isActive := 0, isPause := 0 }) (.of_eq rfl rfl rfl rfl)
  unfold Controller.controlFlowStop
  dsimp only
  split
  · split
    · exact (stopped.toggle 3 0).toggle 9 0
    · exact stopped
  · exact stopped

theorem controlFlowPause (prior : RelaySteps now origin s) (flow : Fin 6) (isPause : Flag) :
    RelaySteps now origin (s.controlFlowPause now flow isPause) := by
  unfold Controller.controlFlowPause
  dsimp only
  split
  · exact (prior.toggle (controlFlowDevice flow) 0).beside (.of_eq rfl rfl rfl rfl)
  · exact prior.beside (.of_eq rfl rfl rfl rfl)

section

variable [FlowArithmetic]

theorem controlFlowStart (prior : RelaySteps now origin s) (flow : Fin 6) (volume time : UInt16) :
    RelaySteps now origin (s.controlFlowStart now flow volume time) :=
  prior.beside (.of_eq rfl rfl rfl rfl)

theorem controlFlowUpdate (prior : RelaySteps now origin s) :
    RelaySteps now origin (s.controlFlowUpdate now) := by
  have regulated : RelaySteps now origin (s.controlFlowRegulateAll now) := by
    refine controlFlowRegulateAll_turns now (RelaySteps now origin) (fun flow t held => ?_) prior
    rcases controlFlowRegulate_cases now flow t with same | ⟨-, -, stopped⟩ |
      ⟨-, -, isActive, toggled⟩
    · rwa [same]
    · rw [stopped]
      exact held.controlFlowStop flow
    · rw [toggled]
      exact held.toggle (controlFlowDevice flow) isActive
  have pumped : RelaySteps now origin
      ((s.controlFlowRegulateAll now).controlFlowSupplementPump now) := by
    rcases controlFlowSupplementPump_cases now (s.controlFlowRegulateAll now) with same |
      ⟨-, toggled⟩
    · rwa [same]
    · rw [toggled]
      exact regulated.toggle 3 1
  unfold Controller.controlFlowUpdate
  rcases controlFlowWaterValve_cases now
    ((s.controlFlowRegulateAll now).controlFlowSupplementPump now) with same |
    ⟨-, isActive, toggled⟩
  · rw [same]
    exact pumped.beside (.controlFlowDetection now _)
  · rw [toggled]
    exact (pumped.toggle 9 isActive).beside (.controlFlowDetection now _)

end

/-! ## The irrigation machine -/

theorem forceStop (prior : RelaySteps now origin s) :
    RelaySteps now origin (s.controlIrrigationTempForceStop now) := by
  have off : RelaySteps now origin (s.controlSafetyDevicesStop now) := by
    unfold Controller.controlSafetyDevicesStop
    induction List.finRange 15 with
    | nil => exact prior
    | cons device rest ih => exact ih.toggle device 0
  unfold controlIrrigationTempForceStop
  exact (((off.controlFlowStop 1).controlFlowStop 2).controlFlowStop 5).withIrrigation _

theorem prepareGenerator (prior : RelaySteps now origin s) :
    RelaySteps now origin (s.prepareGenerator now) := (prior.toggle 0 1).withIrrigation _

theorem finishProgram (prior : RelaySteps now origin s) :
    RelaySteps now origin (s.finishProgram now) := (prior.toggle 1 0).withIrrigation _

theorem resumeGroup (prior : RelaySteps now origin s) (valve : Fin 15) :
    RelaySteps now origin (s.resumeGroup now valve) := by
  have opened := ((prior.withIrrigation fun irrigation =>
    { irrigation with
      timeProgramStart :=
        millis now - (irrigation.timeProgramStop - irrigation.timeProgramStart) }).toggle
    2 1).toggle valve 1
  unfold Controller.resumeGroup
  dsimp only
  split
  · exact opened.beside (.of_eq rfl rfl rfl rfl)
  · exact opened

theorem resume (prior : RelaySteps now origin s) :
    RelaySteps now origin (s.controlIrrigationTempResume now) := by
  unfold controlIrrigationTempResume
  split
  · exact prior
  · split
    · exact prior.prepareGenerator
    · have resumed := prior.withIrrigation fun irrigation => { irrigation with isStopped := 0 }
      cases s.irrigation.programCurrent with
      | group1 => exact resumed.resumeGroup 10
      | group2 => exact resumed.resumeGroup 11
      | cleaning => exact (resumed.toggle 12 1).withIrrigation _
      | garden => exact resumed.beside (.of_eq rfl rfl rfl rfl)
      | both | unknown => exact resumed

variable [FlowArithmetic]

theorem beginGroup (prior : RelaySteps now origin s) (valve : Fin 15) (group : Program) :
    RelaySteps now origin (s.beginGroup now valve group) := by
  have opened := (prior.toggle 2 1).toggle valve 1
  unfold Controller.beginGroup
  dsimp only
  split
  · exact (((opened.controlFlowStart 1 _ _).controlFlowStart 2 _ _).pulsesTotalSet _ _).beginStage _
  · exact opened.beginStage group

theorem start (prior : RelaySteps now origin s) (program : Program) (isCleaning : Flag) :
    RelaySteps now origin (s.controlIrrigationTempStart now program isCleaning) := by
  have assigned (program : Program) : RelaySteps now origin (s.startAssign program isCleaning) :=
    prior.withIrrigation _
  unfold controlIrrigationTempStart
  dsimp only
  split
  · exact (assigned program).prepareGenerator
  · cases program with
    | group1 => exact (assigned .group1).beginGroup 10 .group1
    | group2 => exact (assigned .group2).beginGroup 11 .group2
    | both =>
        exact (((assigned .both).withIrrigation _).beginGroup 10 .group1).withIrrigation _
    | cleaning => exact ((assigned .cleaning).toggle 12 1).beginStage .cleaning
    | garden => exact ((assigned .garden).controlFlowStart 5 0 _).beginStage .garden
    | unknown excess => exact assigned (.unknown excess)

theorem cleanOrFinish (prior : RelaySteps now origin s) (isCleaning : Flag) :
    RelaySteps now origin (s.cleanOrFinish now isCleaning) := by
  unfold Controller.cleanOrFinish
  split
  · exact prior.start .cleaning isCleaning
  · exact prior.finishProgram

theorem updateProgram (prior : RelaySteps now origin s) :
    RelaySteps now origin (s.updateProgram now) := by
  have turn := programTurn now s
  generalize s.updateProgram now = t at turn ⊢
  cases turn with
  | waits | endless => exact prior
  | groupOver valve => exact ((prior.toggle 2 0).toggle valve 0).cleanOrFinish 1
  | bothNext => exact ((prior.toggle 10 0).start .group2 _).withIrrigation _
  | bothOver => exact ((prior.toggle 2 0).toggle 11 0).cleanOrFinish _
  | washFirst => exact ((prior.toggle 12 0).toggle 10 1).withIrrigation _
  | washSecond => exact ((prior.toggle 10 0).toggle 11 1).withIrrigation _
  | washOver => exact ((prior.toggle 1 0).toggle 11 0).withIrrigation _
  | gardenOver => exact prior.finishProgram

theorem update (prior : RelaySteps now origin s) :
    RelaySteps now origin (s.controlIrrigationTempUpdate now) := by
  have step := updateStep now s
  generalize s.controlIrrigationTempUpdate now = t at step ⊢
  cases step with
  | idle | warming | cooling => exact prior
  | begins =>
      have pumping : RelaySteps now origin (s.beginPumping now) :=
        (prior.toggle 1 1).withIrrigation _
      unfold beginProgram
      split
      · exact pumping.start s.irrigation.program s.irrigation.isCleaning
      · exact pumping.resume
  | runs => exact prior.updateProgram
  | stops => exact prior.forceStop
  | shuts => exact (prior.toggle 0 0).withIrrigation _

/-- Every operation reaches the relays through `device_toggle` and `device_update`. -/
theorem run (operation : Operation) : RelaySteps now s (operation.run now s) := by
  cases operation with
  | start program isCleaning => exact refl.start program isCleaning
  | forceStop => exact refl.forceStop
  | resume => exact refl.resume
  | irrigationUpdate => exact refl.update
  | controlFlowUpdate => exact refl.controlFlowUpdate
  | flowStart flow volume time => exact refl.controlFlowStart flow volume time
  | flowStop flow => exact refl.controlFlowStop flow
  | flowPause flow isPause => exact refl.controlFlowPause flow isPause
  | deviceUpdate => exact refl.release
  | deviceToggle device isActive => exact refl.toggle device isActive
  | assign setting => exact refl.beside (.assign setting s)
  | faultyDetectionToggle | pulsesTotalSet | sensorInterrupt =>
      exact refl.beside (.of_eq rfl rfl rfl rfl)
  | sensorFlowUpdate => exact refl.beside (.sensorFlowUpdate now s)
  | sensorPressureUpdate readings => exact refl.beside (.sensorPressureUpdate now readings s)

omit [FlowArithmetic] in
/-- What the functions of `device.cpp` keep, every operation keeps. -/
theorem keeps {property : Controller → Prop}
    (toggled : ∀ s device isActive, property s → property (s.deviceToggle now device isActive))
    (released : ∀ s, property s → property (s.deviceUpdate now))
    (staged : ∀ s program, property s → property (s.record now (.stage program)))
    (kept : ∀ s t, property s → RelaysKept s t → property t)
    (steps : RelaySteps now origin s) (holds : property origin) : property s := by
  induction steps with
  | refl => exact holds
  | toggle _ device isActive ih => exact toggled _ device isActive ih
  | release _ ih => exact released _ ih
  | stage _ program ih => exact staged _ program ih
  | beside _ same ih => exact kept _ _ ih same

end RelaySteps

end Controller

open Controller

/-! ## Pins -/

namespace RelayTruth

theorem stage {s : Controller} (truth : RelayTruth s) (now : Nat) (program : Program) :
    RelayTruth (s.record now (.stage program)) where
  pin := truth.pin
  deviceExtension := truth.deviceExtension
  extended := truth.extended
  extensionPin := truth.extensionPin
  plain := truth.plain
  clickOn := truth.clickOn
  clickOff := truth.clickOff
  exclusive := truth.exclusive.cons (truth.exclusive s.trace (List.suffix_refl _))

theorem beside {s t : Controller} (truth : RelayTruth s) (kept : RelaysKept s t) :
    RelayTruth t := by
  have on (device : Fin 15) : t.IsOn device ↔ s.IsOn device := by
    rw [IsOn, IsOn, kept.isActive]
  constructor
  · exact fun device => (kept.pin device).trans (truth.pin device)
  · exact fun device => (kept.deviceExtension device).trans (truth.deviceExtension device)
  · rw [kept.extended]
    exact truth.extended
  · rw [kept.extensions]
    exact truth.extensionPin
  · intro device plain
    rw [kept.trace, on]
    exact truth.plain device plain
  · rw [kept.trace, kept.extensions, on]
    exact truth.clickOn
  · rw [kept.trace, kept.extensions, on]
    exact truth.clickOff
  · rw [kept.trace]
    exact truth.exclusive

theorem steps {now : Nat} {origin s : Controller} (truth : RelayTruth origin)
    (steps : RelaySteps now origin s) : RelayTruth s :=
  steps.keeps (fun _ device isActive held => held.deviceToggle now device isActive)
    (fun _ held => held.deviceUpdate now) (fun _ program held => held.stage now program)
    (fun _ _ held kept => held.beside kept) truth

end RelayTruth

section

variable [FlowArithmetic]

theorem RelayTruth.after (history : List (Step Operation)) :
    RelayTruth (controller.after BlueberryIrrigation.boot history) := by
  induction history with
  | nil => exact .boot
  | cons step prior ih => exact ih.steps (.run step.operation)

/-- Every pin is true in every run of the controller, whatever its operations are and whatever the
clock shows: the pin of a relay without extension energises exactly while the relay is on, and the
two pins of the click pump, of which never both energise, do so during a hold alone. -/
theorem pins_are_true (history : List (Step Operation)) :
    let s := controller.after boot history
    (∀ device, device ≠ 6 → (Energised (devicePin device) s.trace ↔ s.IsOn device)) ∧
      (∀ moment, moment <:+ s.trace →
        ¬ (Energised (devicePin 6) moment ∧ Energised devicePinPumpClickOff moment)) ∧
      (Energised (devicePin 6) s.trace ↔ (s.deviceExtensionArray 0).isHold ≠ 0 ∧ s.IsOn 6) ∧
      (Energised devicePinPumpClickOff s.trace ↔
        (s.deviceExtensionArray 0).isHold ≠ 0 ∧ ¬ s.IsOn 6) := by
  intro s
  have truth : RelayTruth s := .after history
  exact ⟨truth.plain, truth.exclusive, truth.clickOn, truth.clickOff⟩

end

/-! ## Coils -/

/-- A pin of the click pump energises its coil. -/
def CoilEnergised (trace : List (Nat × Event)) : Prop :=
  Energised (devicePin 6) trace ∨ Energised devicePinPumpClickOff trace

instance decidableCoilEnergised (trace : List (Nat × Event)) : Decidable (CoilEnergised trace) :=
  inferInstanceAs (Decidable (_ ∨ _))

theorem RelayTruth.coil_iff {s : Controller} (truth : RelayTruth s) :
    CoilEnergised s.trace ↔ (s.deviceExtensionArray 0).isHold ≠ 0 := by
  unfold CoilEnergised
  rw [truth.clickOn, truth.clickOff, ← and_or_left, and_iff_left (Classical.em _)]

/-- `time_switch_hold_minimum * 100` of the click pump, in milliseconds. -/
def coilHold : Nat := 500

/-- The newest call of `device_update`, or the origin before the first one. -/
def lastDeviceUpdate (origin : Nat) : List (Step Operation) → Nat
  | [] => origin
  | ⟨now, .deviceUpdate⟩ :: _ => now
  | _ :: prior => lastDeviceUpdate origin prior

/-- No call comes later than `gap` after the last `device_update`. -/
def updateGuard (gap : Nat) (prior : List (Step Operation)) (step : Step Operation) : Prop :=
  step.now ≤ lastDeviceUpdate setupTime prior + gap

instance decidableUpdateGuard (gap : Nat) (prior : List (Step Operation))
    (step : Step Operation) : Decidable (updateGuard gap prior step) :=
  inferInstanceAs (Decidable (_ ≤ _))

/-- A hold is counted from the last switching of the click pump, and was not over when
`device_update` looked. -/
structure CoilTimed (update now : Nat) (s : Controller) : Prop where
  truth : RelayTruth s
  minimum : (s.deviceExtensionArray 0).timeSwitchHoldMinimum = 5
  held : (s.deviceExtensionArray 0).isHold ≠ 0 → ∃ time,
    lastSwitch 6 s.trace = some time ∧
      (s.deviceExtensionArray 0).timeSwitchHoldLast = millis time ∧ time ≤ now ∧
      update < time + coilHold

namespace CoilTimed

variable {update now : Nat} {s : Controller}

theorem boot (time : Nat) : CoilTimed time time BlueberryIrrigation.boot where
  truth := .boot
  minimum := rfl
  held hold := absurd rfl hold

/-- Another toggle leaves the hold alone, one of the click pump begins it anew. -/
theorem toggle (timed : CoilTimed update now s) (ordered : update ≤ now) (device : Fin 15)
    (isActive : Flag) : CoilTimed update now (s.deviceToggle now device isActive) := by
  have last := lastSwitch_deviceToggle now 6 device isActive s
  by_cases click : device = 6
  · subst click
    have extended : (s.deviceArray 6).deviceExtension = some 0 := timed.truth.deviceExtension 6
    refine ⟨timed.truth.deviceToggle now 6 isActive, ?_, fun _ => ⟨now, last, ?_, le_refl now, ?_⟩⟩
    · simpa [Controller.deviceToggle, relayHold, extended] using timed.minimum
    · simp [Controller.deviceToggle, relayHold, extended]
    · exact Nat.lt_of_le_of_lt ordered (Nat.lt_add_of_pos_right (by decide))
  · have single : (s.deviceArray device).deviceExtension = none := by
      rw [timed.truth.deviceExtension, if_neg click]
    have table : (s.deviceToggle now device isActive).deviceExtensionArray =
        s.deviceExtensionArray := by
      simp only [Controller.deviceToggle, relayHold, single]
    refine ⟨timed.truth.deviceToggle now device isActive, ?_, ?_⟩
    · rw [table]
      exact timed.minimum
    · rw [table, last, if_neg click]
      exact timed.held

/-- A call of `device_update` finds nothing to do, or it ends a hold that is over. -/
theorem release_cases (s : Controller) (now : Nat) :
    (s.deviceUpdate now = s ∧ ((s.deviceExtensionArray 0).isHold ≠ 0 →
        millis now - (s.deviceExtensionArray 0).timeSwitchHoldLast <
          (s.deviceExtensionArray 0).timeSwitchHoldMinimum.toUInt32 * 100)) ∨
      ((s.deviceExtensionArray 0).isHold ≠ 0 ∧
        ¬ millis now - (s.deviceExtensionArray 0).timeSwitchHoldLast <
          (s.deviceExtensionArray 0).timeSwitchHoldMinimum.toUInt32 * 100 ∧
        (s.deviceUpdate now).deviceExtensionArray 0 =
          { s.deviceExtensionArray 0 with isHold := 0 }) := by
  have same : s.deviceUpdate now = s.deviceRelease now 0 := rfl
  rw [same]
  unfold deviceRelease
  dsimp only
  by_cases free : (s.deviceExtensionArray 0).isHold = 0
  · rw [if_pos free]
    exact .inl ⟨rfl, fun held => absurd free held⟩
  · rw [if_neg free]
    by_cases early : millis now - (s.deviceExtensionArray 0).timeSwitchHoldLast <
        (s.deviceExtensionArray 0).timeSwitchHoldMinimum.toUInt32 * 100
    · rw [if_pos early]
      exact .inl ⟨rfl, fun _ => early⟩
    · rw [if_neg early]
      exact .inr ⟨free, early, by simp⟩

/-- The hold of the click pump in milliseconds, as the code computes it. -/
theorem hold_eq (timed : CoilTimed update now s) :
    ((s.deviceExtensionArray 0).timeSwitchHoldMinimum.toUInt32 * 100).toNat = coilHold := by
  rw [timed.minimum]
  rfl

/-- A call that is not counted keeps the hold, or ends it. -/
theorem release (timed : CoilTimed update now s) :
    CoilTimed update now (s.deviceUpdate now) := by
  rcases release_cases s now with ⟨same, -⟩ | ⟨-, -, ended⟩
  · rw [same]
    exact timed
  · refine ⟨timed.truth.deviceUpdate now, ?_, fun held => absurd ?_ held⟩
    · rw [ended]
      exact timed.minimum
    · rw [ended]

/-- A call soon enough ends every hold that is over. -/
theorem release_now {gap : Nat} (timed : CoilTimed update now s) (close : now ≤ update + gap)
    (short : gap + coilHold ≤ Clock.period) : CoilTimed now now (s.deviceUpdate now) := by
  rcases release_cases s now with ⟨same, early⟩ | ⟨-, -, ended⟩
  · rw [same]
    refine ⟨timed.truth, timed.minimum, fun hold => ?_⟩
    obtain ⟨time, last, shown, past, before⟩ := timed.held hold
    have waiting := early hold
    rw [shown] at waiting
    have soon := (Clock.wait_pending_iff past (by omega)).mp waiting
    rw [timed.hold_eq] at soon
    exact ⟨time, last, shown, past, soon⟩
  · refine ⟨timed.truth.deviceUpdate now, ?_, fun held => absurd ?_ held⟩
    · rw [ended]
      exact timed.minimum
    · rw [ended]

theorem later {now' : Nat} (timed : CoilTimed update now s) (ordered : now ≤ now') :
    CoilTimed update now' s := by
  refine ⟨timed.truth, timed.minimum, fun hold => ?_⟩
  obtain ⟨time, last, shown, past, before⟩ := timed.held hold
  exact ⟨time, last, shown, past.trans ordered, before⟩

theorem steps {t : Controller} (timed : CoilTimed update now s) (ordered : update ≤ now)
    (steps : RelaySteps now s t) : CoilTimed update now t := by
  refine steps.keeps (fun _ device isActive held => held.toggle ordered device isActive)
    (fun _ held => held.release) (fun u program held => ?_) (fun u v held kept => ?_) timed
  · exact ⟨held.truth.stage now program, held.minimum, held.held⟩
  · refine ⟨held.truth.beside kept, ?_, ?_⟩
    · rw [kept.extensions]
      exact held.minimum
    · rw [kept.extensions, kept.trace]
      exact held.held

/-- The hold in an admitted run, whose newest step comes soon after the last `device_update`. -/
theorem after [FlowArithmetic] {gap : Nat} (short : gap + coilHold ≤ Clock.period)
    {history : List (Step Operation)}
    (admitted : Machine.Admitted (updateGuard gap) setupTime history) :
    CoilTimed (lastDeviceUpdate setupTime history) (Machine.lastTime setupTime history)
        (controller.after BlueberryIrrigation.boot history) ∧
      lastDeviceUpdate setupTime history ≤ Machine.lastTime setupTime history ∧
      Machine.lastTime setupTime history ≤ lastDeviceUpdate setupTime history + gap := by
  induction history with
  | nil => exact ⟨.boot setupTime, le_refl setupTime, Nat.le_add_right setupTime gap⟩
  | cons step prior ih =>
      obtain ⟨earlier, ordered, close⟩ := admitted
      obtain ⟨timed, updated, -⟩ := ih earlier
      have ready := timed.later ordered
      have passed := updated.trans ordered
      obtain ⟨now, operation⟩ := step
      have ran := ready.steps passed (RelaySteps.run operation)
      cases operation with
      | deviceUpdate => exact ⟨ready.release_now close short, le_refl now, Nat.le_add_right now gap⟩
      | _ => exact ⟨ran, passed, close⟩

end CoilTimed

/-- In every run of the controller in which `device_update` comes at least every `gap`
milliseconds, an energised coil of the click pump was switched less than its hold and a gap ago,
and the `device_update` that ends this comes no sooner than its hold after the switching. -/
theorem coil_pulse [FlowArithmetic] {gap : Nat} (short : gap + coilHold ≤ Clock.period)
    {history : List (Step Operation)}
    (admitted : Machine.Admitted (updateGuard gap) setupTime history) :
    let s := controller.after boot history
    CoilEnergised s.trace → ∃ time, lastSwitch 6 s.trace = some time ∧
      Machine.lastTime setupTime history < time + coilHold + gap ∧
      ∀ now, Machine.lastTime setupTime history ≤ now →
        ¬ CoilEnergised (s.deviceUpdate now).trace → time + coilHold ≤ now := by
  intro s energised
  obtain ⟨timed, -, close⟩ := CoilTimed.after short admitted
  have hold := timed.truth.coil_iff.mp energised
  obtain ⟨time, last, shown, past, before⟩ := timed.held hold
  refine ⟨time, last, by omega, fun now ordered released => ?_⟩
  rcases CoilTimed.release_cases s now with ⟨same, -⟩ | ⟨-, passed, -⟩
  · rw [same] at released
    exact absurd energised released
  · have elapsed := Clock.wait_elapsed (past.trans ordered) (shown ▸ passed)
    rwa [timed.hold_eq] at elapsed

/-- A toggle of the click pump, four hundred milliseconds on. -/
theorem coil_pulse_click :
    let s := controller.after boot [⟨4400, .deviceUpdate⟩, ⟨4000, .deviceToggle 6 1⟩]
    CoilEnergised s.trace ∧ ∃ time, lastSwitch 6 s.trace = some time ∧
      Machine.lastTime setupTime
          ([⟨4400, .deviceUpdate⟩, ⟨4000, .deviceToggle 6 1⟩] : List (Step Operation)) <
        time + coilHold + 2000 ∧
      ∀ now, 4400 ≤ now → ¬ CoilEnergised (s.deviceUpdate now).trace → time + coilHold ≤ now := by
  intro s
  have energised : CoilEnergised s.trace := by decide
  have admitted : Machine.Admitted (updateGuard 2000) setupTime
      [⟨4400, .deviceUpdate⟩, ⟨4000, .deviceToggle 6 1⟩] :=
    ⟨⟨trivial, by decide, by decide⟩, by decide, by decide⟩
  exact ⟨energised, coil_pulse (by decide) admitted energised⟩

end BlueberryIrrigation
