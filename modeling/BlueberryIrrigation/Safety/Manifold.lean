import BlueberryIrrigation.Safety.Switching

/-!
# The supplement manifold

The micro, the macro and the water flow share the supplement pump and, the first two, the water
valve, through which plain water flows while both supplement valves are closed. Beside the flows'
own turns, `control_flow_update` switches the two behind their minimum switching times, and the
stop of the last of the three flows switches them off.
-/

namespace BlueberryIrrigation

open Semantics

/-- When a device was switched last, by the clock of the code; at power-up if it never was. -/
def switchTime (device : Fin 15) (trace : List (Nat × Event)) : UInt32 :=
  (lastSwitch device trace).elim 0 millis

namespace Controller

/-- The device was switched less than its minimum switching time ago. -/
def JustSwitched (now : Nat) (device : Fin 15) (s : Controller) : Prop :=
  millis now - switchTime device s.trace < (s.deviceArray device).timeSwitchMinimum.toUInt32 * 100

/-- One of the micro, macro and water flows is active. -/
def Supplementing (s : Controller) : Prop := s.FlowActive 1 ∨ s.FlowActive 2 ∨ s.FlowActive 3

/-- The manifold as `control_flow_update` leaves it. -/
structure ManifoldRegulated (now : Nat) (s : Controller) : Prop where
  water : s.FlowActive 1 ∨ s.FlowActive 2 → ¬ s.IsOn 7 ∧ ¬ s.IsOn 8 →
    s.IsOn 9 ∨ s.JustSwitched now 9
  supplement : s.FlowActive 1 ∨ s.FlowActive 2 → ¬ s.FlowActive 3 → s.IsOn 7 ∨ s.IsOn 8 →
    ¬ s.IsOn 9 ∨ s.JustSwitched now 9
  pump : s.Supplementing → s.IsOn 3 ∨ s.JustSwitched now 3

/-! ## The clock of a device -/

/-- The device's variable is the time of its last switching. -/
def Stamped (device : Fin 15) (s : Controller) : Prop :=
  (s.deviceArray device).timeSwitchLast = switchTime device s.trace

variable {now : Nat} {device : Fin 15} {s t : Controller}

theorem Stamped.deviceToggle (stamped : s.Stamped device) (toggled : Fin 15) (isActive : Flag) :
    (s.deviceToggle now toggled isActive).Stamped device := by
  unfold Stamped switchTime
  rw [lastSwitch_deviceToggle]
  by_cases own : toggled = device
  · subst own
    simp [Controller.deviceToggle]
  · rw [if_neg own, deviceToggle_deviceArray_of_ne now toggled isActive s (Ne.symm own)]
    exact stamped

theorem Stamped.of_eq (stamped : s.Stamped device) (devices : t.deviceArray = s.deviceArray)
    (trace : t.trace = s.trace) : t.Stamped device := by
  unfold Stamped
  rw [devices, trace]
  exact stamped

/-- Whatever switches relays keeps their clocks. -/
theorem Switches.stamped (stamped : s.Stamped device) (switches : Switches now s t) :
    t.Stamped device := by
  induction switches with
  | refl => exact stamped
  | toggle _ toggled isActive _ ih => exact ih.deviceToggle toggled isActive
  | event _ event quiet ih =>
      unfold Stamped switchTime at ih ⊢
      exact ih.trans (by rw [record, lastSwitch_quiet quiet])
  | same _ devices trace ih => exact ih.of_eq devices trace

/-- The minimum time that the code waits for is that since the last switching. -/
theorem justSwitched_of_waiting (stamped : s.Stamped device)
    (waiting : ¬ s.deviceIsTimeSwitchMinimumPassed now device = true) :
    s.JustSwitched now device := by
  unfold JustSwitched
  rw [← stamped]
  simpa [deviceIsTimeSwitchMinimumPassed] using waiting

/-! ## The regulation of the manifold -/

theorem Supplementing.congr (flows : ∀ flow, t.FlowActive flow ↔ s.FlowActive flow) :
    t.Supplementing ↔ s.Supplementing := by
  unfold Supplementing
  rw [flows, flows, flows]

/-- A relay that is switched behind its minimum time has the other state then, or waits. -/
theorem switched_or_waiting (now : Nat) (device : Fin 15) (isActive : Flag)
    (switched : Controller → Prop) {idle : Prop} [Decidable idle]
    (after : switched (s.deviceToggle now device isActive)) (before : ¬ idle → switched s) :
    let t := if idle ∧ s.deviceIsTimeSwitchMinimumPassed now device = true then
      s.deviceToggle now device isActive else s
    switched t ∨ ¬ t.deviceIsTimeSwitchMinimumPassed now device = true := by
  intro t
  by_cases allowed : idle ∧ s.deviceIsTimeSwitchMinimumPassed now device = true
  · have toggled : t = s.deviceToggle now device isActive := if_pos allowed
    rw [toggled]
    exact .inl after
  · have same : t = s := if_neg allowed
    rw [same]
    by_cases waiting : idle
    · exact .inr fun passed => allowed ⟨waiting, passed⟩
    · exact .inl (before waiting)

/-- The pump of an active manifold runs after its turn, or waits for its minimum time. -/
theorem controlFlowSupplementPump_runs (now : Nat) (active : s.Supplementing) :
    (s.controlFlowSupplementPump now).IsOn 3 ∨
      ¬ (s.controlFlowSupplementPump now).deviceIsTimeSwitchMinimumPassed now 3 = true := by
  unfold controlFlowSupplementPump
  rw [if_pos (show s.FlowActive 1 ∨ s.FlowActive 2 ∨ s.FlowActive 3 from active)]
  exact switched_or_waiting now 3 1 (fun s => s.IsOn 3) (by simp) not_not.mp

/-- The water valve of closed supplement valves is open after its turn, or waits. -/
theorem controlFlowWaterValve_opens (now : Nat) (active : s.FlowActive 1 ∨ s.FlowActive 2)
    (closed : ¬ s.IsOn 7 ∧ ¬ s.IsOn 8) :
    (s.controlFlowWaterValve now).IsOn 9 ∨
      ¬ (s.controlFlowWaterValve now).deviceIsTimeSwitchMinimumPassed now 9 = true := by
  unfold controlFlowWaterValve
  rw [if_pos active, if_pos (show ¬ s.IsOn (controlFlowDevice 1) ∧ ¬ s.IsOn (controlFlowDevice 2)
    from closed)]
  exact switched_or_waiting now 9 1 (fun s => s.IsOn 9) (by simp) not_not.mp

/-- With a supplement valve open and no water flow, it is closed, or waits. -/
theorem controlFlowWaterValve_closes (now : Nat) (active : s.FlowActive 1 ∨ s.FlowActive 2)
    (water : ¬ s.FlowActive 3) (opened : s.IsOn 7 ∨ s.IsOn 8) :
    ¬ (s.controlFlowWaterValve now).IsOn 9 ∨
      ¬ (s.controlFlowWaterValve now).deviceIsTimeSwitchMinimumPassed now 9 = true := by
  have busy : ¬ (¬ s.IsOn (controlFlowDevice 1) ∧ ¬ s.IsOn (controlFlowDevice 2)) := by
    rintro ⟨first, second⟩
    exact opened.elim first second
  unfold controlFlowWaterValve
  rw [if_pos active, if_neg busy, if_pos water]
  exact switched_or_waiting now 9 0 (fun s => ¬ s.IsOn 9) (by simp) id

/-- The turn of the water valve moves no other relay. -/
theorem controlFlowWaterValve_others (now : Nat) (s : Controller) {device : Fin 15}
    (other : device ≠ 9) :
    (s.controlFlowWaterValve now).deviceArray device = s.deviceArray device := by
  rcases controlFlowWaterValve_cases now s with same | ⟨_, isActive, toggled⟩
  · rw [same]
  · rw [toggled, deviceToggle_deviceArray_of_ne now 9 isActive s other]

/-- After `control_flow_update` the manifold is regulated. -/
theorem manifoldRegulated [FlowArithmetic] (now : Nat) (s : Controller)
    (water : (s.controlFlowUpdate now).Stamped 9) (pump : (s.controlFlowUpdate now).Stamped 3) :
    ManifoldRegulated now (s.controlFlowUpdate now) := by
  generalize pumped : (s.controlFlowRegulateAll now).controlFlowSupplementPump now = r
  have updated : s.controlFlowUpdate now =
      (r.controlFlowWaterValve now).controlFlowDetection now := by rw [← pumped]; rfl
  have detection := DetectionOnly.controlFlowDetection now (r.controlFlowWaterValve now)
  rw [← updated] at detection
  have flows (flow : Fin 6) : (s.controlFlowUpdate now).FlowActive flow ↔ r.FlowActive flow :=
    (detection.flowActive_iff flow).trans (controlFlowWaterValve_flowActive now flow r)
  have others {device : Fin 15} (other : device ≠ 9) :
      (s.controlFlowUpdate now).deviceArray device = r.deviceArray device := by
    rw [detection.deviceArray, controlFlowWaterValve_others now r other]
  have valves {device : Fin 15} (other : device ≠ 9) :
      (s.controlFlowUpdate now).IsOn device ↔ r.IsOn device := by
    unfold IsOn
    rw [others other]
  have passed (device : Fin 15) :
      (s.controlFlowUpdate now).deviceIsTimeSwitchMinimumPassed now device =
        (r.controlFlowWaterValve now).deviceIsTimeSwitchMinimumPassed now device := by
    unfold deviceIsTimeSwitchMinimumPassed
    rw [detection.deviceArray]
  refine ⟨fun active closed => ?_, fun active idle opened => ?_, fun active => ?_⟩
  · rw [flows, flows] at active
    rw [valves (by decide), valves (by decide)] at closed
    refine (controlFlowWaterValve_opens now active closed).imp (detection.isOn_iff 9).mpr ?_
    rw [← passed]
    exact justSwitched_of_waiting water
  · rw [flows, flows] at active
    rw [flows] at idle
    rw [valves (by decide), valves (by decide)] at opened
    refine (controlFlowWaterValve_closes now active idle opened).imp
      (fun closed on => closed ((detection.isOn_iff 9).mp on)) ?_
    rw [← passed]
    exact justSwitched_of_waiting water
  · have before : (s.controlFlowRegulateAll now).Supplementing := by
      refine (Supplementing.congr fun flow => ?_).mp active
      rw [flows, ← pumped, controlFlowSupplementPump_flowActive]
    have runs := controlFlowSupplementPump_runs now before
    rw [pumped] at runs
    refine runs.imp (valves (by decide)).mpr fun waiting => ?_
    refine justSwitched_of_waiting pump ?_
    unfold deviceIsTimeSwitchMinimumPassed at waiting ⊢
    rwa [others (by decide)]

/-! ## The end of the last flow -/

/-- Of the relays that flows drive, only that of the water flow is one of the two. -/
theorem controlFlowDevice_ne_manifold {flow : Fin 6} (other : flow ≠ 3) :
    (3 : Fin 15) ≠ controlFlowDevice flow ∧ (9 : Fin 15) ≠ controlFlowDevice flow := by
  revert flow
  decide

/-- Without an active flow of the manifold, its pump and its water valve are off. -/
def ManifoldShut (s : Controller) : Prop := s.Supplementing ∨ ¬ s.IsOn 3 ∧ ¬ s.IsOn 9

namespace ManifoldShut

/-- What ends no flow of the manifold and switches neither relay on keeps it. -/
theorem frame (shut : s.ManifoldShut) (flows : ∀ flow, s.FlowActive flow → t.FlowActive flow)
    (pump : t.IsOn 3 → s.IsOn 3) (water : t.IsOn 9 → s.IsOn 9) : t.ManifoldShut := by
  rcases shut with active | ⟨off, closed⟩
  · exact .inl (active.imp (flows 1) (Or.imp (flows 2) (flows 3)))
  · exact .inr ⟨fun on => off (pump on), fun opened => closed (water opened)⟩

theorem untouched (shut : s.ManifoldShut) (flows : ∀ flow, s.FlowActive flow → t.FlowActive flow)
    (pump : Untouched 3 s t) (water : Untouched 9 s t) : t.ManifoldShut :=
  shut.frame flows pump.isOn_iff.mp water.isOn_iff.mp

theorem controlFlowStop (shut : s.ManifoldShut) (flow : Fin 6) :
    (s.controlFlowStop now flow).ManifoldShut := by
  by_cases active : (s.controlFlowStop now flow).Supplementing
  · exact .inl active
  right
  by_cases supplement : flow = 1 ∨ flow = 2 ∨ flow = 3
  · refine controlFlowStop_supplements now s supplement fun other listed running => active ?_
    rcases listed with rfl | rfl | rfl
    · exact .inl running
    · exact .inr (.inl running)
    · exact .inr (.inr running)
  · have kept (other : Fin 6) (listed : other = 1 ∨ other = 2 ∨ other = 3)
        (running : s.FlowActive other) : (s.controlFlowStop now flow).FlowActive other :=
      (controlFlowStop_flowActive now flow s other).mpr
        ⟨fun own => supplement (own ▸ listed), running⟩
    have ended : ¬ s.Supplementing := fun running => active
      (running.imp (kept 1 (by simp)) (Or.imp (kept 2 (by simp)) (kept 3 (by simp))))
    obtain ⟨off, closed⟩ := shut.resolve_left ended
    exact ⟨fun on => off (controlFlowStop_isOn now flow s on).2,
      fun opened => closed (controlFlowStop_isOn now flow s opened).2⟩

theorem forceStop : (s.controlIrrigationTempForceStop now).ManifoldShut :=
  .inr ⟨by simp, by simp⟩

theorem prepareGenerator (shut : s.ManifoldShut) : (s.prepareGenerator now).ManifoldShut :=
  shut.frame (fun _ => id) (by simp) (by simp)

theorem resume (shut : s.ManifoldShut) : (s.controlIrrigationTempResume now).ManifoldShut := by
  by_cases running : s.irrigation.isStopped = 0
  · rw [resume_of_not_stopped now s running]
    exact shut
  by_cases ready : s.irrigation.status = .ready
  · have closed (device : Fin 15) (outside : device ∉ programRelays) :
        Untouched device s (s.controlIrrigationTempResume now) :=
      .resume_ready now s running ready (Program.not_opened outside _)
    refine shut.untouched (fun flow active => ?_) (closed 3 (by decide)) (closed 9 (by decide))
    exact (resume_ready_flowActive now s running ready flow).mpr (.inr (.inr active))
  · rw [resume_of_not_ready now s running ready]
    exact shut.prepareGenerator

section

variable [FlowArithmetic]

theorem start (shut : s.ManifoldShut) (program : Program) (isCleaning : Flag) :
    (s.controlIrrigationTempStart now program isCleaning).ManifoldShut := by
  by_cases ready : s.irrigation.status = .ready
  · have closed (device : Fin 15) (outside : device ∉ programRelays) :
        Untouched device s (s.controlIrrigationTempStart now program isCleaning) :=
      .start_ready now s program isCleaning ready (Program.not_opened outside _)
    refine shut.untouched (fun flow active => ?_) (closed 3 (by decide)) (closed 9 (by decide))
    exact (start_ready_flowActive now s program isCleaning ready flow).mpr (.inr (.inr active))
  · rw [start_of_not_ready now s program isCleaning ready]
    exact prepareGenerator (s := s.startAssign program isCleaning) shut

theorem update (shut : s.ManifoldShut) : (s.controlIrrigationTempUpdate now).ManifoldShut := by
  have step := updateStep now s
  generalize s.controlIrrigationTempUpdate now = t at step ⊢
  cases step with
  | idle | warming | cooling => exact shut
  | begins =>
      refine shut.untouched (fun flow active => ?_) (.beginProgram now s (by decide))
        (.beginProgram now s (by decide))
      exact (beginProgram_flowActive now s flow).mpr (.inr (.inr active))
  | runs status =>
      exact shut.untouched (fun flow => (updateProgram_flowActive now s status flow).1)
        (.updateProgram now s status (by decide)) (.updateProgram now s status (by decide))
  | stops => exact .forceStop
  | shuts => exact shut.frame (fun _ => id) (by simp) (by simp)

/-- Only the water flow switches a relay of the manifold in its turn. -/
theorem controlFlowUpdate (shut : s.ManifoldShut) : (s.controlFlowUpdate now).ManifoldShut := by
  refine controlFlowUpdate_preserves now ManifoldShut ?_ ?_ ?_ ?_ ?_ shut
  · exact fun flow t shut _ _ => shut.controlFlowStop flow
  · intro flow isActive t shut running _
    by_cases water : flow = 3
    · subst water
      exact .inl (.inr (.inr running.1))
    · have others := controlFlowDevice_ne_manifold water
      exact shut.untouched (fun _ => id) (.deviceToggle others.1 now isActive t)
        (.deviceToggle others.2 now isActive t)
  · exact fun t _ active => .inl active
  · exact fun _ t _ active => .inl (active.imp_right .inl)
  · exact fun t u shut detection => shut.frame (fun flow => (detection.flowActive_iff flow).mpr)
      (detection.isOn_iff 3).mp (detection.isOn_iff 9).mp

/-- Every operation but the manual toggle keeps it. -/
theorem run (shut : s.ManifoldShut) {operation : Operation}
    (manual : ∀ device isActive, operation ≠ .deviceToggle device isActive) :
    (operation.run now s).ManifoldShut := by
  have sensors {t : Controller} (only : SensorsOnly s t) : t.ManifoldShut :=
    shut.frame (fun flow => (only.flowActive_iff flow).mpr) (only.isOn_iff 3).mp
      (only.isOn_iff 9).mp
  cases operation with
  | start program isCleaning => exact shut.start program isCleaning
  | forceStop => exact .forceStop
  | resume => exact shut.resume
  | irrigationUpdate => exact shut.update
  | controlFlowUpdate => exact shut.controlFlowUpdate
  | flowStop flow => exact shut.controlFlowStop flow
  | flowStart flow volume time =>
      exact shut.frame
        (fun other active => (controlFlowStart_flowActive now flow s volume time other).mpr
          (.inr active)) id id
  | flowPause flow isPause =>
      exact shut.frame (fun other => (controlFlowPause_flowActive now flow s isPause other).mpr)
        (controlFlowPause_isOn now flow s) (controlFlowPause_isOn now flow s)
  | deviceToggle device isActive => exact absurd rfl (manual device isActive)
  | assign setting =>
      exact shut.frame (fun flow => (s.assign_flowActive setting flow).mpr)
        (s.assign_isOn setting 3).mp (s.assign_isOn setting 9).mp
  | faultyDetectionToggle => exact shut
  | deviceUpdate =>
      exact shut.untouched (fun flow => (deviceUpdate_flowActive now flow s).mpr)
        (.deviceUpdate 3 now s) (.deviceUpdate 9 now s)
  | pulsesTotalSet sensor pulses => exact sensors (.sensorFlowPulsesTotalSet sensor pulses s)
  | sensorInterrupt sensor => exact sensors (.sensorFlowInterrupt sensor s)
  | sensorFlowUpdate => exact sensors (.sensorFlowUpdate now s)
  | sensorPressureUpdate readings => exact sensors (.sensorPressureUpdate now readings s)

end

end ManifoldShut

end Controller

/-! ## Runs -/

section

open Controller

variable [FlowArithmetic]

/-- Every operation but the manual toggle keeps the clocks of the relays. -/
theorem run_stamped {now : Nat} {device : Fin 15} {operation : Operation} {s : Controller}
    (stamped : s.Stamped device)
    (manual : ∀ toggled isActive, operation ≠ .deviceToggle toggled isActive) :
    (operation.run now s).Stamped device := by
  by_cases minimum : ∃ changed time, operation = .assign (.timeSwitchMinimum changed time)
  · obtain ⟨changed, time, rfl⟩ := minimum
    refine Eq.trans ?_ stamped
    change (Function.update s.deviceArray changed _ device).timeSwitchLast = _
    by_cases own : device = changed
    · subst own
      simp
    · simp [own]
  · have fixed (changed : Fin 15) (time : UInt8) :
        operation ≠ .assign (.timeSwitchMinimum changed time) :=
      fun same => minimum ⟨changed, time, same⟩
    exact (Switches.run manual fixed).stamped stamped

/-- The supplement manifold. Without an active flow of it, its pump and its water valve are off.
After every `control_flow_update`, the pump of an active manifold runs, the water valve is open
while both supplement valves are closed, and closed while one is open and the water flow is not
active, unless the relay was switched less than its minimum switching time ago. -/
theorem supplement_manifold {history : List (Step Operation)}
    (admitted : Machine.Admitted switchingGuard setupTime history) :
    let s := controller.after boot history
    (¬ s.FlowActive 1 ∧ ¬ s.FlowActive 2 ∧ ¬ s.FlowActive 3 → ¬ s.IsOn 3 ∧ ¬ s.IsOn 9) ∧
      ∀ now, Machine.lastTime setupTime history ≤ now →
        ManifoldRegulated now (controller.after boot (⟨now, .controlFlowUpdate⟩ :: history)) := by
  have shut : ∀ history, Machine.Admitted switchingGuard setupTime history →
      (controller.after boot history).ManifoldShut := by
    intro history admitted
    refine admitted.invariant (fun _ s => ManifoldShut s) (.inr ⟨boot_isOn 3, boot_isOn 9⟩) ?_
    exact fun prior step shut _ manual => shut.run manual
  have stamped : ∀ device, (controller.after boot history).Stamped device := by
    intro device
    exact admitted.invariant (fun _ s => Stamped device s) rfl
      fun prior step stamped _ manual => run_stamped stamped manual
  refine ⟨fun idle => (shut history admitted).resolve_left ?_, fun now _ => ?_⟩
  · rintro (first | second | third)
    · exact idle.1 first
    · exact idle.2.1 second
    · exact idle.2.2 third
  · have manual (device : Fin 15) (isActive : Flag) :
        Operation.controlFlowUpdate ≠ .deviceToggle device isActive := Operation.noConfusion
    exact manifoldRegulated now _ (run_stamped (stamped 9) manual) (run_stamped (stamped 3) manual)

end

/-- The macro flow runs: its pump and its valve go on, the water valve stays closed. After the
flow's stop everything is off. -/
theorem supplement_manifold_macro :
    let running : List (Step Operation) :=
      [⟨9000, .controlFlowUpdate⟩, ⟨8000, .flowStart 2 10 0⟩]
    let stopped : List (Step Operation) := ⟨10000, .flowStop 2⟩ :: running
    let t := controller.after boot (⟨9500, .controlFlowUpdate⟩ :: running)
    t.FlowActive 2 ∧ t.IsOn 8 ∧ t.IsOn 3 ∧ Controller.ManifoldRegulated 9500 t ∧
      (¬ (controller.after boot stopped).IsOn 3 ∧ ¬ (controller.after boot stopped).IsOn 9) := by
  have running : Machine.Admitted switchingGuard setupTime
      [⟨9000, .controlFlowUpdate⟩, ⟨8000, .flowStart 2 10 0⟩] :=
    ⟨⟨trivial, by decide, fun _ _ => Operation.noConfusion⟩, by decide,
      fun _ _ => Operation.noConfusion⟩
  have stopped : Machine.Admitted switchingGuard setupTime
      [⟨10000, .flowStop 2⟩, ⟨9000, .controlFlowUpdate⟩, ⟨8000, .flowStart 2 10 0⟩] :=
    ⟨running, by decide, fun _ _ => Operation.noConfusion⟩
  exact ⟨by decide, by decide, by decide, (supplement_manifold running).2 9500 (by decide),
    (supplement_manifold stopped).1 (by decide)⟩

end BlueberryIrrigation
