import BlueberryIrrigation.Controller.Operation

/-!
# Minimum switching times

The supplement pump, the valves of the supplement line and the garden valve go on in
`control_flow_update` alone, each time behind `device_is_time_switch_minimum_passed`. Stops and
pauses switch them off whenever they come, but every toggle restarts the minimum time, so a
switching on never follows sooner. `Switches` says what an operation may do to the relays.
-/

namespace BlueberryIrrigation

open Semantics

/-- The supplement pump, the micro, macro and water valves and the garden valve. -/
def waitingDevices : List (Fin 15) := [3, 7, 8, 9, 13]

/-- The real time of the most recent `device_toggle` of a device, on or off. -/
def lastSwitch (device : Fin 15) : List (Nat × Event) → Option Nat
  | [] => none
  | (time, .deviceToggle toggled _) :: rest =>
      if toggled = device then some time else lastSwitch device rest
  | _ :: rest => lastSwitch device rest

/-- The trace has grown, and each time the device has been switched on in it, its previous switching
lies at least `wait` back. -/
inductive SwitchedApart (device : Fin 15) (wait : Nat) (before : List (Nat × Event)) :
    List (Nat × Event) → Prop
  | refl : SwitchedApart device wait before before
  | event {trace : List (Nat × Event)} (prior : SwitchedApart device wait before trace)
      (time : Nat) (event : Event)
      (apart : ∀ isActive, event = .deviceToggle device isActive → isActive ≠ 0 →
        ∀ previous, lastSwitch device trace = some previous → previous + wait ≤ time) :
      SwitchedApart device wait before ((time, event) :: trace)

/-- No `device_toggle` of any device. -/
def Event.Quiet (event : Event) : Prop := ∀ device isActive, event ≠ .deviceToggle device isActive

theorem lastSwitch_quiet {device : Fin 15} {time : Nat} {event : Event}
    {trace : List (Nat × Event)} (quiet : event.Quiet) :
    lastSwitch device ((time, event) :: trace) = lastSwitch device trace := by
  cases event with
  | deviceToggle toggled isActive => exact absurd rfl (quiet toggled isActive)
  | digitalWrite | stage => rfl

theorem SwitchedApart.quiet {device : Fin 15} {wait time : Nat} {before trace : List (Nat × Event)}
    {event : Event} (quiet : event.Quiet) (prior : SwitchedApart device wait before trace) :
    SwitchedApart device wait before ((time, event) :: trace) :=
  prior.event time event fun isActive same => absurd same (quiet device isActive)

/-- A list of events without a toggle, all at one time. -/
theorem lastSwitch_writes {device : Fin 15} {time : Nat} {events : List Event}
    {trace : List (Nat × Event)} (quiet : ∀ event ∈ events, event.Quiet) :
    lastSwitch device (events.map (fun event => (time, event)) ++ trace) =
      lastSwitch device trace := by
  induction events with
  | nil => rfl
  | cons event rest ih =>
      rw [List.map_cons, List.cons_append, lastSwitch_quiet (quiet event List.mem_cons_self)]
      exact ih fun other listed => quiet other (List.mem_cons_of_mem event listed)

theorem SwitchedApart.writes {device : Fin 15} {wait time : Nat} {before trace : List (Nat × Event)}
    {events : List Event} (quiet : ∀ event ∈ events, event.Quiet)
    (prior : SwitchedApart device wait before trace) :
    SwitchedApart device wait before (events.map (fun event => (time, event)) ++ trace) := by
  induction events with
  | nil => exact prior
  | cons event rest ih =>
      have before := ih fun other listed => quiet other (List.mem_cons_of_mem event listed)
      exact before.quiet (quiet event List.mem_cons_self)

/-- Pin writes are no toggles. -/
theorem relayWrites_quiet (device : Device) (isActive : Flag) (s : Controller) :
    ∀ event ∈ s.relayWrites device isActive, event.Quiet := by
  intro event listed toggled on same
  subst same
  unfold Controller.relayWrites at listed
  split at listed
  · dsimp only at listed
    split at listed <;> simp at listed
  · simp at listed

namespace Controller

/-- What an operation may do to the relays: it toggles them, but switches a waiting device on only
when its minimum switching time has passed. -/
inductive Switches (now : Nat) (origin : Controller) : Controller → Prop
  | refl : Switches now origin origin
  | toggle {s : Controller} (prior : Switches now origin s) (device : Fin 15) (isActive : Flag)
      (passed : device ∈ waitingDevices → isActive ≠ 0 →
        s.deviceIsTimeSwitchMinimumPassed now device = true) :
      Switches now origin (s.deviceToggle now device isActive)
  | event {s : Controller} (prior : Switches now origin s) (event : Event) (quiet : event.Quiet) :
      Switches now origin (s.record now event)
  | same {s t : Controller} (prior : Switches now origin s)
      (devices : t.deviceArray = s.deviceArray) (trace : t.trace = s.trace) :
      Switches now origin t

namespace Switches

variable {now : Nat} {origin s t : Controller}

theorem trans (first : Switches now origin s) (second : Switches now s t) :
    Switches now origin t := by
  induction second with
  | refl => exact first
  | toggle _ device isActive passed ih => exact ih.toggle device isActive passed
  | event _ event quiet ih => exact ih.event event quiet
  | same _ devices trace ih => exact ih.same devices trace

theorem off (prior : Switches now origin s) (device : Fin 15) :
    Switches now origin (s.deviceToggle now device 0) :=
  prior.toggle device 0 fun _ on => absurd rfl on

/-- The other relays have no minimum time to wait for. -/
theorem other (prior : Switches now origin s) {device : Fin 15} (isActive : Flag)
    (free : device ∉ waitingDevices) : Switches now origin (s.deviceToggle now device isActive) :=
  prior.toggle device isActive fun listed => absurd listed free

theorem withIrrigation (prior : Switches now origin s) (change : Irrigation → Irrigation) :
    Switches now origin (s.withIrrigation change) := prior.same rfl rfl

theorem setFlow (prior : Switches now origin s) (flow : Fin 6) (value : ControlFlow) :
    Switches now origin (s.setFlow flow value) := prior.same rfl rfl

theorem beginStage (prior : Switches now origin s) (stage : Program) :
    Switches now origin (s.beginStage now stage) :=
  (prior.event (.stage stage) fun _ _ same => Event.noConfusion same).withIrrigation _

theorem pulsesTotalSet (prior : Switches now origin s) (sensor : Fin 5) (total : UInt32) :
    Switches now origin (s.sensorFlowPulsesTotalSet sensor total) := prior.same rfl rfl

/-! ## Control flows -/

theorem controlFlowStop (prior : Switches now origin s) (flow : Fin 6) :
    Switches now origin (s.controlFlowStop now flow) := by
  have stopped := (prior.off (controlFlowDevice flow)).setFlow flow
    { s.controlFlowArray flow with isActive := 0, isPause := 0 }
  unfold Controller.controlFlowStop
  dsimp only
  split
  · split
    · exact (stopped.off 3).off 9
    · exact stopped
  · exact stopped

theorem controlFlowPause (prior : Switches now origin s) (flow : Fin 6) (isPause : Flag) :
    Switches now origin (s.controlFlowPause now flow isPause) := by
  unfold Controller.controlFlowPause
  dsimp only
  split
  · exact (prior.off _).setFlow flow _
  · exact prior.setFlow flow _

section

variable [FlowArithmetic]

theorem controlFlowStart (prior : Switches now origin s) (flow : Fin 6) (volume time : UInt16) :
    Switches now origin (s.controlFlowStart now flow volume time) := prior.same rfl rfl

/-- Both ways to switch a flow's relay on ask for its minimum time. -/
theorem controlFlowRegulate (prior : Switches now origin s) (flow : Fin 6) :
    Switches now origin (s.controlFlowRegulate now flow) := by
  unfold Controller.controlFlowRegulate
  dsimp only
  split
  · exact prior
  · split
    · exact prior.controlFlowStop flow
    · split
      · split
        · rename_i allowed
          exact prior.toggle _ 1 fun _ _ => allowed.1
        · exact prior
      · split
        · split
          · rename_i allowed
            exact prior.toggle _ 1 fun _ _ => allowed.1
          · exact prior
        · split
          · exact prior.off _
          · exact prior

omit [FlowArithmetic] in
theorem controlFlowSupplementPump (prior : Switches now origin s) :
    Switches now origin (s.controlFlowSupplementPump now) := by
  unfold Controller.controlFlowSupplementPump
  split
  · split
    · rename_i allowed
      exact prior.toggle 3 1 fun _ _ => allowed.2
    · exact prior
  · exact prior

omit [FlowArithmetic] in
theorem controlFlowWaterValve (prior : Switches now origin s) :
    Switches now origin (s.controlFlowWaterValve now) := by
  unfold Controller.controlFlowWaterValve
  split
  · split
    · split
      · rename_i allowed
        exact prior.toggle 9 1 fun _ _ => allowed.2
      · exact prior
    · split
      · split
        · exact prior.off 9
        · exact prior
      · exact prior
  · exact prior

theorem controlFlowUpdate (prior : Switches now origin s) :
    Switches now origin (s.controlFlowUpdate now) := by
  have regulated : Switches now origin (s.controlFlowRegulateAll now) :=
    controlFlowRegulateAll_turns now (Switches now origin)
      (fun flow _ before => before.controlFlowRegulate flow) prior
  have detection := DetectionOnly.controlFlowDetection now
    (((s.controlFlowRegulateAll now).controlFlowSupplementPump now).controlFlowWaterValve now)
  exact (regulated.controlFlowSupplementPump.controlFlowWaterValve).same detection.deviceArray
    detection.trace

end

/-! ## The irrigation machine -/

theorem controlSafetyDevicesStop (prior : Switches now origin s) :
    Switches now origin (s.controlSafetyDevicesStop now) := by
  have all : ∀ devices : List (Fin 15),
      Switches now origin (devices.foldr (fun device s => s.deviceToggle now device 0) s) := by
    intro devices
    induction devices with
    | nil => exact prior
    | cons device rest ih => exact ih.off device
  exact all (List.finRange 15)

theorem forceStop (prior : Switches now origin s) :
    Switches now origin (s.controlIrrigationTempForceStop now) := by
  unfold controlIrrigationTempForceStop
  exact (((prior.controlSafetyDevicesStop.controlFlowStop 1).controlFlowStop 2).controlFlowStop
    5).withIrrigation _

theorem prepareGenerator (prior : Switches now origin s) :
    Switches now origin (s.prepareGenerator now) :=
  (prior.other 1 (by decide)).withIrrigation _

theorem finishProgram (prior : Switches now origin s) : Switches now origin (s.finishProgram now) :=
  (prior.off 1).withIrrigation _

theorem resumeGroup (prior : Switches now origin s) {valve : Fin 15}
    (free : valve ∉ waitingDevices) : Switches now origin (s.resumeGroup now valve) := by
  have opened : Switches now origin
      (((s.restoreProgramStart now).deviceToggle now 2 1).deviceToggle now valve 1) :=
    ((prior.withIrrigation _).other 1 (by decide)).other 1 free
  unfold Controller.resumeGroup
  dsimp only
  split
  · exact opened.same rfl rfl
  · exact opened

theorem resume (prior : Switches now origin s) :
    Switches now origin (s.controlIrrigationTempResume now) := by
  unfold controlIrrigationTempResume
  split
  · exact prior
  · split
    · exact prior.prepareGenerator
    · have resumed := prior.withIrrigation fun irrigation => { irrigation with isStopped := 0 }
      cases s.irrigation.programCurrent with
      | group1 => exact resumed.resumeGroup (by decide)
      | group2 => exact resumed.resumeGroup (by decide)
      | cleaning => exact (resumed.other 1 (by decide)).withIrrigation _
      | garden => exact resumed.same rfl rfl
      | both | unknown => exact resumed

variable [FlowArithmetic]

theorem beginGroup (prior : Switches now origin s) {valve : Fin 15} (group : Program)
    (free : valve ∉ waitingDevices) : Switches now origin (s.beginGroup now valve group) := by
  have opened : Switches now origin ((s.deviceToggle now 2 1).deviceToggle now valve 1) :=
    (prior.other 1 (by decide)).other 1 free
  unfold Controller.beginGroup
  dsimp only
  split
  · exact (((opened.controlFlowStart 1 _ _).controlFlowStart 2 _ _).pulsesTotalSet _ _).beginStage _
  · exact opened.beginStage group

theorem start (prior : Switches now origin s) (program : Program) (isCleaning : Flag) :
    Switches now origin (s.controlIrrigationTempStart now program isCleaning) := by
  have assigned (program : Program) : Switches now origin (s.startAssign program isCleaning) :=
    prior.withIrrigation _
  unfold controlIrrigationTempStart
  dsimp only
  split
  · exact (assigned program).prepareGenerator
  · cases program with
    | group1 => exact (assigned .group1).beginGroup .group1 (by decide)
    | group2 => exact (assigned .group2).beginGroup .group2 (by decide)
    | both =>
        exact (((assigned .both).withIrrigation _).beginGroup .group1 (by decide)).withIrrigation _
    | cleaning => exact ((assigned .cleaning).other 1 (by decide)).beginStage .cleaning
    | garden => exact ((assigned .garden).controlFlowStart 5 0 _).beginStage .garden
    | unknown excess => exact assigned (.unknown excess)

theorem cleanOrFinish (prior : Switches now origin s) (isCleaning : Flag) :
    Switches now origin (s.cleanOrFinish now isCleaning) := by
  unfold Controller.cleanOrFinish
  split
  · exact prior.start .cleaning isCleaning
  · exact prior.finishProgram

theorem updateProgram (prior : Switches now origin s) :
    Switches now origin (s.updateProgram now) := by
  have turn := programTurn now s
  generalize s.updateProgram now = t at turn ⊢
  cases turn with
  | waits | endless => exact prior
  | groupOver valve => exact ((prior.off 2).off valve).cleanOrFinish 1
  | bothNext => exact ((prior.off 10).start .group2 _).withIrrigation _
  | bothOver => exact ((prior.off 2).off 11).cleanOrFinish _
  | washFirst => exact ((prior.off 12).other 1 (by decide)).withIrrigation _
  | washSecond => exact ((prior.off 10).other 1 (by decide)).withIrrigation _
  | washOver => exact ((prior.off 1).off 11).withIrrigation _
  | gardenOver => exact prior.finishProgram

theorem update (prior : Switches now origin s) :
    Switches now origin (s.controlIrrigationTempUpdate now) := by
  have step := updateStep now s
  generalize s.controlIrrigationTempUpdate now = t at step ⊢
  cases step with
  | idle | warming | cooling => exact prior
  | begins =>
      have pumping : Switches now origin (s.beginPumping now) :=
        (prior.other 1 (by decide)).withIrrigation _
      unfold beginProgram
      split
      · exact pumping.start s.irrigation.program s.irrigation.isCleaning
      · exact pumping.resume
  | runs => exact prior.updateProgram
  | stops => exact prior.forceStop
  | shuts => exact (prior.off 0).withIrrigation _

omit [FlowArithmetic] in
theorem deviceUpdate (prior : Switches now origin s) :
    Switches now origin (s.deviceUpdate now) := by
  change Switches now origin (s.deviceRelease now 0)
  unfold deviceRelease
  dsimp only
  split
  · exact prior
  · split
    · exact prior
    · exact (prior.event (.digitalWrite _ deviceRelayOff) fun _ _ same =>
        Event.noConfusion same).same rfl rfl

/-- Every operation but the manual toggle and the setting of a minimum time. -/
theorem run {operation : Operation}
    (toggle : ∀ device isActive, operation ≠ .deviceToggle device isActive)
    (minimum : ∀ device time, operation ≠ .assign (.timeSwitchMinimum device time)) :
    Switches now s (operation.run now s) := by
  cases operation with
  | start program isCleaning => exact refl.start program isCleaning
  | forceStop => exact refl.forceStop
  | resume => exact refl.resume
  | irrigationUpdate => exact refl.update
  | controlFlowUpdate => exact refl.controlFlowUpdate
  | flowStart flow volume time => exact refl.controlFlowStart flow volume time
  | flowStop flow => exact refl.controlFlowStop flow
  | flowPause flow isPause => exact refl.controlFlowPause flow isPause
  | deviceUpdate => exact refl.deviceUpdate
  | deviceToggle device isActive => exact absurd rfl (toggle device isActive)
  | assign setting =>
      cases setting with
      | timeSwitchMinimum device time => exact absurd rfl (minimum device time)
      | _ => exact refl.same rfl rfl
  | faultyDetectionToggle | pulsesTotalSet | sensorInterrupt => exact refl.same rfl rfl
  | sensorFlowUpdate =>
      have sensors := SensorsOnly.sensorFlowUpdate now s
      exact refl.same sensors.deviceArray sensors.trace
  | sensorPressureUpdate readings =>
      have sensors := SensorsOnly.sensorPressureUpdate now readings s
      exact refl.same sensors.deviceArray sensors.trace

end Switches

/-! ## Runs -/

/-- The device's clock shows its last switching. -/
def Clocked (device : Fin 15) (now : Nat) (s : Controller) : Prop :=
  ∀ previous, lastSwitch device s.trace = some previous →
    (s.deviceArray device).timeSwitchLast = millis previous ∧ previous ≤ now

/-- The newest switching after a toggle. -/
theorem lastSwitch_deviceToggle (now : Nat) (device toggled : Fin 15) (isActive : Flag)
    (s : Controller) :
    lastSwitch device (s.deviceToggle now toggled isActive).trace =
      if toggled = device then some now else lastSwitch device s.trace := by
  change (if toggled = device then some now else lastSwitch device
    ((s.relayWrites (s.deviceArray toggled) isActive).map (fun event => (now, event)) ++
      s.trace)) = _
  rw [lastSwitch_writes (relayWrites_quiet _ isActive s)]

/-- What an operation has done so far to a waiting device, from the state in which it began. -/
structure WaitsItsTime (device : Fin 15) (now : Nat) (origin s : Controller) : Prop where
  clocked : s.Clocked device now
  minimum : (s.deviceArray device).timeSwitchMinimum = (origin.deviceArray device).timeSwitchMinimum
  apart : SwitchedApart device ((origin.deviceArray device).timeSwitchMinimum.toNat * 100)
    origin.trace s.trace

/-- The test of `device_is_time_switch_minimum_passed`, in real time. -/
theorem minimum_passed {device : Fin 15} {now previous : Nat} {s : Controller}
    (clocked : s.Clocked device now) (last : lastSwitch device s.trace = some previous)
    (passed : s.deviceIsTimeSwitchMinimumPassed now device = true) :
    previous + (s.deviceArray device).timeSwitchMinimum.toNat * 100 ≤ now := by
  obtain ⟨shown, ordered⟩ := clocked previous last
  have expired : ¬ millis now - millis previous <
      (s.deviceArray device).timeSwitchMinimum.toUInt32 * 100 := by
    rw [← shown]
    simpa [deviceIsTimeSwitchMinimumPassed] using passed
  have wait : ((s.deviceArray device).timeSwitchMinimum.toUInt32 * 100).toNat =
      (s.deviceArray device).timeSwitchMinimum.toNat * 100 := by
    have small := (s.deviceArray device).timeSwitchMinimum.toNat_lt
    rw [UInt32.toNat_mul, UInt8.toNat_toUInt32]
    exact Nat.mod_eq_of_lt (by change _ * 100 < 2 ^ 32; omega)
  rw [← wait]
  exact Clock.wait_elapsed ordered expired

/-- A toggle of a waiting device has waited for the minimum time, if it switches the device on. -/
theorem WaitsItsTime.toggle {device : Fin 15} {now : Nat} {origin s : Controller}
    (waits : WaitsItsTime device now origin s) (toggled : Fin 15) (isActive : Flag)
    (passed : toggled = device → isActive ≠ 0 →
      s.deviceIsTimeSwitchMinimumPassed now device = true) :
    WaitsItsTime device now origin (s.deviceToggle now toggled isActive) where
  clocked := by
    intro previous last
    rw [lastSwitch_deviceToggle] at last
    by_cases own : toggled = device
    · subst own
      rw [if_pos rfl, Option.some_inj] at last
      subst last
      simp [deviceToggle]
    · rw [if_neg own] at last
      rw [deviceToggle_deviceArray_of_ne now toggled isActive s (Ne.symm own)]
      exact waits.clocked previous last
  minimum := by
    by_cases own : toggled = device
    · subst own
      simpa [deviceToggle] using waits.minimum
    · rw [deviceToggle_deviceArray_of_ne now toggled isActive s (Ne.symm own)]
      exact waits.minimum
  apart := by
    have quiet := relayWrites_quiet (s.deviceArray toggled) isActive s
    refine (waits.apart.writes quiet).event now _ fun active same on previous last => ?_
    obtain ⟨rfl, rfl⟩ := Event.deviceToggle.inj same
    rw [lastSwitch_writes quiet] at last
    rw [← waits.minimum]
    exact minimum_passed waits.clocked last (passed rfl on)

/-- On its way, an operation keeps a waiting device to its minimum time. -/
theorem Switches.waitsItsTime {device : Fin 15} {now : Nat} {origin s : Controller}
    (listed : device ∈ waitingDevices) (clocked : origin.Clocked device now)
    (switches : Switches now origin s) : WaitsItsTime device now origin s := by
  induction switches with
  | refl => exact ⟨clocked, rfl, .refl⟩
  | toggle _ toggled isActive passed ih =>
      refine ih.toggle toggled isActive fun own on => ?_
      subst own
      exact passed listed on
  | event _ event quiet ih =>
      refine ⟨fun previous last => ?_, ih.minimum, ih.apart.quiet quiet⟩
      exact ih.clocked previous ((lastSwitch_quiet quiet).symm.trans last)
  | same _ devices trace ih =>
      refine ⟨fun previous last => ?_, ?_, ?_⟩
      · rw [trace] at last
        rw [devices]
        exact ih.clocked previous last
      · rw [devices]
        exact ih.minimum
      · rw [trace]
        exact ih.apart

theorem Clocked.later {device : Fin 15} {now later : Nat} {s : Controller}
    (clocked : s.Clocked device now) (ordered : now ≤ later) : s.Clocked device later := by
  intro previous last
  obtain ⟨shown, past⟩ := clocked previous last
  exact ⟨shown, past.trans ordered⟩

end Controller

section

open Controller

variable [FlowArithmetic]

/-- No device is toggled by hand. -/
def switchingGuard (_ : List (Step Operation)) (step : Step Operation) : Prop :=
  ∀ device isActive, step.operation ≠ .deviceToggle device isActive

/-- A step switches a waiting device no sooner than the minimum time allows, or it is the setting of
a minimum time, which switches nothing. -/
theorem step_switches {device : Fin 15} (listed : device ∈ waitingDevices) {now : Nat}
    {operation : Operation} {s : Controller}
    (manual : ∀ toggled isActive, operation ≠ .deviceToggle toggled isActive)
    (clocked : s.Clocked device now) :
    (operation.run now s).Clocked device now ∧
      SwitchedApart device ((s.deviceArray device).timeSwitchMinimum.toNat * 100) s.trace
        (operation.run now s).trace ∧
      ((operation.run now s).trace = s.trace ∨
        ((operation.run now s).deviceArray device).timeSwitchMinimum =
          (s.deviceArray device).timeSwitchMinimum) := by
  by_cases minimum : ∃ changed time, operation = .assign (.timeSwitchMinimum changed time)
  · obtain ⟨changed, time, rfl⟩ := minimum
    refine ⟨fun previous last => ?_, .refl, .inl rfl⟩
    obtain ⟨shown, past⟩ := clocked previous last
    refine ⟨?_, past⟩
    change (Function.update s.deviceArray changed _ device).timeSwitchLast = _
    by_cases own : device = changed
    · subst own
      simpa using shown
    · simpa [own] using shown
  · have fixed (changed : Fin 15) (time : UInt8) :
        operation ≠ .assign (.timeSwitchMinimum changed time) :=
      fun same => minimum ⟨changed, time, same⟩
    have waits := (Switches.run (s := s) manual fixed).waitsItsTime listed clocked
    exact ⟨waits.clocked, waits.apart, .inr waits.minimum⟩

theorem clocked_of_admitted {device : Fin 15} (listed : device ∈ waitingDevices)
    {history : List (Step Operation)}
    (admitted : Machine.Admitted switchingGuard setupTime history) :
    (controller.after boot history).Clocked device (Machine.lastTime setupTime history) := by
  refine admitted.invariant (fun now s => Clocked device now s) ?_ ?_
  · intro previous last
    exact absurd last (by simp [boot, lastSwitch])
  · intro prior step clocked ordered manual
    exact (step_switches listed manual (clocked.later ordered)).1

/-- Whenever the supplement pump, a valve of the supplement line or the garden valve is switched on,
its previous switching is at least its minimum time ago. The step that switches it does not change
this time. -/
theorem minimum_switching_time {device : Fin 15} (listed : device ∈ waitingDevices)
    {step : Step Operation} {history : List (Step Operation)}
    (admitted : Machine.Admitted switchingGuard setupTime (step :: history)) :
    let s := controller.after boot history
    let t := controller.after boot (step :: history)
    SwitchedApart device ((s.deviceArray device).timeSwitchMinimum.toNat * 100) s.trace t.trace ∧
      (t.trace = s.trace ∨
        (t.deviceArray device).timeSwitchMinimum = (s.deviceArray device).timeSwitchMinimum) := by
  obtain ⟨earlier, ordered, manual⟩ := admitted
  have clocked := (clocked_of_admitted listed earlier).later ordered
  exact (step_switches listed manual clocked).2

end

/-- The water flow opens its valve, a pause closes it, and half a second later it opens again. -/
def waterPaused : List (Step Operation) :=
  [⟨5400, .flowPause 3 0⟩, ⟨5300, .flowPause 3 1⟩, ⟨5000, .controlFlowUpdate⟩,
    ⟨4500, .flowStart 3 0 0⟩]

theorem minimum_switching_time_water :
    let s := controller.after boot waterPaused
    let t := controller.after boot (⟨5800, .controlFlowUpdate⟩ :: waterPaused)
    lastSwitch 9 s.trace = some 5300 ∧ lastSwitch 9 t.trace = some 5800 ∧
      SwitchedApart 9 ((s.deviceArray 9).timeSwitchMinimum.toNat * 100) s.trace t.trace := by
  intro s t
  have admitted : Machine.Admitted switchingGuard setupTime
      (⟨5800, .controlFlowUpdate⟩ :: waterPaused) := by
    refine ⟨⟨⟨⟨⟨trivial, by decide, ?_⟩, by decide, ?_⟩, by decide, ?_⟩, by decide, ?_⟩,
      by decide, ?_⟩
    all_goals exact fun _ _ => Operation.noConfusion
  exact ⟨by decide, by decide, (minimum_switching_time (by decide) admitted).1⟩

end BlueberryIrrigation
