import Mathlib.Data.List.Infix
import BlueberryIrrigation.Controller.Operation

/-!
# Relays and pins

A relay is energised by the level of its pin, the last one that was written. The click pump has
two pins, of which a toggle energises one for the hold; it has to be released before the other
one is energised.
-/

namespace BlueberryIrrigation

open Semantics

/-- The level of a pin after these events, newest first; the pull-up holds it high before. -/
def pinLevel (pin : UInt8) : List (Nat × Event) → UInt8
  | [] => deviceRelayOff
  | (_, .digitalWrite written level) :: rest => if written = pin then level else pinLevel pin rest
  | (_, .deviceToggle _ _) :: rest => pinLevel pin rest
  | (_, .stage _) :: rest => pinLevel pin rest

/-- The level of the pin energises its relay. -/
def Energised (pin : UInt8) (trace : List (Nat × Event)) : Prop :=
  pinLevel pin trace = deviceRelayOn

instance decidableEnergised (pin : UInt8) (trace : List (Nat × Event)) :
    Decidable (Energised pin trace) :=
  inferInstanceAs (Decidable (_ = _))

/-- The calls that switch relays. -/
inductive RelayCall where
  | deviceToggle (device : Fin 15) (isActive : Flag)
  | controlSafetyDevicesStop
  | deviceUpdate
deriving DecidableEq, Repr

/-- The relays as a timed machine. -/
def relays : Machine Controller RelayCall where
  run
    | .deviceToggle device isActive, now, s => s.deviceToggle now device isActive
    | .controlSafetyDevicesStop, now, s => s.controlSafetyDevicesStop now
    | .deviceUpdate, now, s => s.deviceUpdate now

/-! ## Pins -/

@[simp] theorem pinLevel_digitalWrite (pin written level : UInt8) (now : Nat)
    (trace : List (Nat × Event)) :
    pinLevel pin ((now, .digitalWrite written level) :: trace) =
      if written = pin then level else pinLevel pin trace := rfl

@[simp] theorem pinLevel_deviceToggle (pin : UInt8) (now : Nat) (device : Fin 15)
    (isActive : Flag) (trace : List (Nat × Event)) :
    pinLevel pin ((now, .deviceToggle device isActive) :: trace) = pinLevel pin trace := rfl

@[simp] theorem devicePin_inj {device other : Fin 15} :
    devicePin device = devicePin other ↔ device = other := by
  revert device other
  decide

@[simp] theorem devicePin_ne_off (device : Fin 15) : devicePin device ≠ devicePinPumpClickOff := by
  revert device
  decide

@[simp] theorem off_ne_devicePin (device : Fin 15) : devicePinPumpClickOff ≠ devicePin device :=
  (devicePin_ne_off device).symm

@[simp] theorem deviceRelayOff_ne_on : deviceRelayOff ≠ deviceRelayOn := by decide

/-- At no moment of the trace both pins of the click pump energise. -/
def PinsExclusive (trace : List (Nat × Event)) : Prop :=
  ∀ moment, moment <:+ trace →
    ¬ (Energised (devicePin 6) moment ∧ Energised devicePinPumpClickOff moment)

/-- One more event is one more moment. -/
theorem PinsExclusive.cons {trace : List (Nat × Event)} {event : Nat × Event}
    (before : PinsExclusive trace)
    (latest : ¬ (Energised (devicePin 6) (event :: trace) ∧
      Energised devicePinPumpClickOff (event :: trace))) : PinsExclusive (event :: trace) := by
  intro moment earlier
  rcases List.suffix_cons_iff.mp earlier with rfl | past
  · exact latest
  · exact before moment past

/-- The pin that a toggle of the click pump energises. -/
def clickPin (isActive : Flag) : UInt8 :=
  if isActive ≠ 0 then devicePin 6 else devicePinPumpClickOff

/-- No pin of the click pump energises, and never both have done. -/
structure ClickIdle (trace : List (Nat × Event)) : Prop where
  on : ¬ Energised (devicePin 6) trace
  off : ¬ Energised devicePinPumpClickOff trace
  exclusive : PinsExclusive trace

/-- From there, one of them may be energised. -/
theorem ClickIdle.energise {trace : List (Nat × Event)} (idle : ClickIdle trace) (now : Nat)
    (isActive : Flag) :
    let energised := (now, .digitalWrite (clickPin isActive) deviceRelayOn) :: trace
    (Energised (devicePin 6) energised ↔ isActive ≠ 0) ∧
      (Energised devicePinPumpClickOff energised ↔ isActive = 0) ∧ PinsExclusive energised := by
  intro energised
  have on : Energised (devicePin 6) energised ↔ isActive ≠ 0 := by
    have before := idle.on
    by_cases active : isActive = 0 <;> simp_all [energised, Energised, clickPin]
  have off : Energised devicePinPumpClickOff energised ↔ isActive = 0 := by
    have before := idle.off
    by_cases active : isActive = 0 <;> simp_all [energised, Energised, clickPin]
  refine ⟨on, off, idle.exclusive.cons ?_⟩
  rintro ⟨isOn, isOff⟩
  exact on.mp isOn (off.mp isOff)

/-! ## The invariant -/

/-- The tables are those of `device_init`, and the pins say what the tables say. -/
structure RelayTruth (s : Controller) : Prop where
  pin : ∀ device, (s.deviceArray device).pin = devicePin device
  deviceExtension : ∀ device,
    (s.deviceArray device).deviceExtension = if device = 6 then some 0 else none
  extended : s.deviceExtendedArray 0 = 6
  extensionPin : (s.deviceExtensionArray 0).pin = devicePinPumpClickOff
  plain : ∀ device, device ≠ 6 → (Energised (devicePin device) s.trace ↔ s.IsOn device)
  clickOn : Energised (devicePin 6) s.trace ↔ (s.deviceExtensionArray 0).isHold ≠ 0 ∧ s.IsOn 6
  clickOff : Energised devicePinPumpClickOff s.trace ↔
    (s.deviceExtensionArray 0).isHold ≠ 0 ∧ ¬ s.IsOn 6
  exclusive : PinsExclusive s.trace

namespace RelayTruth

theorem boot : RelayTruth boot where
  pin _ := rfl
  deviceExtension _ := rfl
  extended := rfl
  extensionPin := rfl
  plain := by
    intro device _
    revert device
    decide
  clickOn := by decide
  clickOff := by decide
  exclusive := by
    have moments : ∀ moment ∈ BlueberryIrrigation.boot.trace.tails,
        ¬ (Energised (devicePin 6) moment ∧ Energised devicePinPumpClickOff moment) := by
      decide
    exact fun moment past => moments moment ((List.mem_tails _ _).mpr past)

variable {s : Controller} (truth : RelayTruth s) (now : Nat)
include truth

/-- A toggle keeps the pins and the extensions of the table. -/
theorem deviceToggle_table (device : Fin 15) (isActive : Flag) (other : Fin 15) :
    ((s.deviceToggle now device isActive).deviceArray other).pin = devicePin other ∧
      ((s.deviceToggle now device isActive).deviceArray other).deviceExtension =
        if other = 6 then some 0 else none := by
  by_cases same : other = device
  · subst same
    simpa [Controller.deviceToggle] using ⟨truth.pin other, truth.deviceExtension other⟩
  · rw [Controller.deviceToggle_deviceArray_of_ne now device isActive s same]
    exact ⟨truth.pin other, truth.deviceExtension other⟩

/-- A toggle of a plain relay writes its own pin. -/
theorem plainToggle {device : Fin 15} (plain : device ≠ 6) (isActive : Flag) :
    RelayTruth (s.deviceToggle now device isActive) := by
  have single : (s.deviceArray device).deviceExtension = none := by
    rw [truth.deviceExtension, if_neg plain]
  have trace : (s.deviceToggle now device isActive).trace =
      (now, .deviceToggle device isActive) ::
        (now, .digitalWrite (devicePin device)
          (if isActive ≠ 0 then deviceRelayOn else deviceRelayOff)) :: s.trace := by
    unfold Controller.deviceToggle Controller.relayWrites
    simp only [single, truth.pin]
    rfl
  have table : (s.deviceToggle now device isActive).deviceExtensionArray =
      s.deviceExtensionArray := by
    unfold Controller.deviceToggle Controller.relayHold
    simp only [single]
  have others {pin : UInt8} (other : devicePin device ≠ pin) :
      Energised pin (s.deviceToggle now device isActive).trace ↔ Energised pin s.trace := by
    simp [trace, Energised, other]
  have own : Energised (devicePin device) (s.deviceToggle now device isActive).trace ↔
      isActive ≠ 0 := by
    rw [trace]
    by_cases off : isActive = 0 <;> simp [Energised, off]
  have kept : (s.deviceToggle now device isActive).IsOn 6 ↔ s.IsOn 6 := by
    simp [plain.symm]
  have clickOn : Energised (devicePin 6) (s.deviceToggle now device isActive).trace ↔
      Energised (devicePin 6) s.trace := others (by simp [plain])
  have clickOff : Energised devicePinPumpClickOff (s.deviceToggle now device isActive).trace ↔
      Energised devicePinPumpClickOff s.trace := others (by simp)
  refine ⟨fun other => (truth.deviceToggle_table now device isActive other).1,
    fun other => (truth.deviceToggle_table now device isActive other).2, truth.extended, ?_,
    fun other different => ?_, ?_, ?_, ?_⟩
  · rw [table]
    exact truth.extensionPin
  · by_cases same : other = device
    · subst same
      rw [own, Controller.deviceToggle_isOn, if_pos rfl]
    · rw [others (by simp [Ne.symm same]), truth.plain other different,
        Controller.deviceToggle_isOn, if_neg same]
  · rw [clickOn, table, kept]
    exact truth.clickOn
  · rw [clickOff, table, kept]
    exact truth.clickOff
  · have latest := truth.exclusive s.trace (List.suffix_refl _)
    have toggled : ¬ (Energised (devicePin 6) (s.deviceToggle now device isActive).trace ∧
        Energised devicePinPumpClickOff (s.deviceToggle now device isActive).trace) := by
      rw [clickOn, clickOff]
      exact latest
    rw [trace] at toggled ⊢
    exact (truth.exclusive.cons toggled).cons toggled

/-- Without a hold the click pump is idle. -/
theorem clickIdle_of_free (free : (s.deviceExtensionArray 0).isHold = 0) : ClickIdle s.trace where
  on energised := (truth.clickOn.mp energised).1 free
  off energised := (truth.clickOff.mp energised).1 free
  exclusive := truth.exclusive

/-- It is idle as well once the pin of the running hold is released. -/
theorem clickIdle_release :
    ClickIdle ((now, .digitalWrite (clickPin (s.deviceArray 6).isActive) deviceRelayOff) ::
      s.trace) := by
  have on : ¬ Energised (devicePin 6)
      ((now, .digitalWrite (clickPin (s.deviceArray 6).isActive) deviceRelayOff) :: s.trace) := by
    have before := truth.clickOn
    by_cases active : (s.deviceArray 6).isActive = 0 <;>
      simp_all [Energised, clickPin, Controller.IsOn]
  have off : ¬ Energised devicePinPumpClickOff
      ((now, .digitalWrite (clickPin (s.deviceArray 6).isActive) deviceRelayOff) :: s.trace) := by
    have before := truth.clickOff
    by_cases active : (s.deviceArray 6).isActive = 0 <;>
      simp_all [Energised, clickPin, Controller.IsOn]
  exact ⟨on, off, truth.exclusive.cons fun both => on both.1⟩

/-- A toggle of the click pump releases a hold that still runs, then energises its pin. -/
theorem clickToggle (isActive : Flag) : RelayTruth (s.deviceToggle now 6 isActive) := by
  obtain ⟨released, idle, others, trace⟩ : ∃ released, ClickIdle released ∧
      (∀ device, device ≠ 6 → (Energised (devicePin device) released ↔
        Energised (devicePin device) s.trace)) ∧
      (s.deviceToggle now 6 isActive).trace = (now, .deviceToggle 6 isActive) ::
        (now, .digitalWrite (clickPin isActive) deviceRelayOn) :: released := by
    have extended : (s.deviceArray 6).deviceExtension = some 0 := truth.deviceExtension 6
    by_cases free : (s.deviceExtensionArray 0).isHold = 0
    · refine ⟨s.trace, truth.clickIdle_of_free free, fun _ _ => Iff.rfl, ?_⟩
      simp [Controller.deviceToggle, Controller.relayWrites, extended, free, clickPin, truth.pin,
        truth.extensionPin]
    · refine ⟨_, truth.clickIdle_release now, fun device plain => ?_, ?_⟩
      · by_cases active : (s.deviceArray 6).isActive = 0 <;>
          simp [Energised, clickPin, active, Ne.symm plain]
      · simp [Controller.deviceToggle, Controller.relayWrites, extended, free, clickPin, truth.pin,
          truth.extensionPin]
  have table : ((s.deviceToggle now 6 isActive).deviceExtensionArray 0).pin =
        devicePinPumpClickOff ∧
      ((s.deviceToggle now 6 isActive).deviceExtensionArray 0).isHold ≠ 0 := by
    have extended : (s.deviceArray 6).deviceExtension = some 0 := truth.deviceExtension 6
    by_cases free : (s.deviceExtensionArray 0).isHold = 0 <;>
      simp [Controller.deviceToggle, Controller.relayHold, extended, free, truth.extensionPin]
  have active : (s.deviceToggle now 6 isActive).IsOn 6 ↔ isActive ≠ 0 := by simp
  obtain ⟨on, off, exclusive⟩ := idle.energise now isActive
  refine ⟨fun other => (truth.deviceToggle_table now 6 isActive other).1,
    fun other => (truth.deviceToggle_table now 6 isActive other).2, truth.extended, table.1,
    fun other different => ?_, ?_, ?_, ?_⟩
  · rw [Controller.deviceToggle_isOn, if_neg different, ← truth.plain other different,
      ← others other different, trace]
    by_cases off : isActive = 0 <;> simp [Energised, clickPin, off, Ne.symm different]
  · rw [active, trace]
    exact on.trans (iff_and_self.mpr fun _ => table.2)
  · rw [active, not_not, trace]
    exact off.trans (iff_and_self.mpr fun _ => table.2)
  · have latest := exclusive _ (List.suffix_refl _)
    rw [trace]
    exact exclusive.cons latest

/-- The end of a hold releases its pin. -/
theorem deviceUpdate : RelayTruth (s.deviceUpdate now) := by
  change RelayTruth (s.deviceRelease now 0)
  unfold Controller.deviceRelease
  simp only [truth.extended, truth.pin, truth.extensionPin]
  by_cases free : (s.deviceExtensionArray 0).isHold = 0
  · rw [if_pos free]
    exact truth
  rw [if_neg free]
  by_cases early : millis now - (s.deviceExtensionArray 0).timeSwitchHoldLast <
      (s.deviceExtensionArray 0).timeSwitchHoldMinimum.toUInt32 * 100
  · rw [if_pos early]
    exact truth
  rw [if_neg early]
  have idle := truth.clickIdle_release now
  refine ⟨truth.pin, truth.deviceExtension, truth.extended, ?_, fun device plain => ?_, ?_, ?_,
    idle.exclusive⟩
  · simp
  · refine Iff.trans ?_ (truth.plain device plain)
    by_cases active : (s.deviceArray 6).isActive = 0 <;>
      simp [Energised, active, Ne.symm plain]
  · exact iff_of_false idle.on fun held => held.1 (by simp)
  · exact iff_of_false idle.off fun held => held.1 (by simp)

theorem deviceToggle (device : Fin 15) (isActive : Flag) :
    RelayTruth (s.deviceToggle now device isActive) := by
  by_cases click : device = 6
  · subst click
    exact truth.clickToggle now isActive
  · exact truth.plainToggle now click isActive

theorem controlSafetyDevicesStop : RelayTruth (s.controlSafetyDevicesStop now) := by
  unfold Controller.controlSafetyDevicesStop
  induction List.finRange 15 with
  | nil => exact truth
  | cons device rest ih => exact ih.deviceToggle now device 0

end RelayTruth

theorem RelayTruth.run (history : List (Step RelayCall)) :
    RelayTruth (relays.after BlueberryIrrigation.boot history) := by
  induction history with
  | nil => exact .boot
  | cons step prior ih =>
      rw [Machine.after_cons]
      cases step.operation with
      | deviceToggle device isActive => exact ih.deviceToggle step.now device isActive
      | controlSafetyDevicesStop => exact ih.controlSafetyDevicesStop step.now
      | deviceUpdate => exact ih.deviceUpdate step.now

/-- Relay truth and click-pump exclusion. After any calls, at any clock values, the pin of every
relay without extension energises exactly when the relay is meant to be on. The two pins of the
click pump never energise at once, neither does without a hold, and during a hold exactly the one
of the side that is meant does. -/
theorem relays_are_true (history : List (Step RelayCall)) :
    let s := relays.after boot history
    let click := s.deviceArray 6
    let extension := s.deviceExtensionArray 0
    (∀ device, (s.deviceArray device).deviceExtension = if device = 6 then some 0 else none) ∧
      (∀ device, (s.deviceArray device).deviceExtension = none →
        (Energised (s.deviceArray device).pin s.trace ↔ (s.deviceArray device).isActive ≠ 0)) ∧
      (∀ moment, moment <:+ s.trace →
        ¬ (Energised click.pin moment ∧ Energised extension.pin moment)) ∧
      (extension.isHold = 0 →
        ¬ Energised click.pin s.trace ∧ ¬ Energised extension.pin s.trace) ∧
      (extension.isHold ≠ 0 →
        (Energised click.pin s.trace ↔ click.isActive ≠ 0) ∧
          (Energised extension.pin s.trace ↔ click.isActive = 0)) := by
  intro s click extension
  have truth : RelayTruth s := .run history
  have clickPin : click.pin = devicePin 6 := truth.pin 6
  have offPin : extension.pin = devicePinPumpClickOff := truth.extensionPin
  rw [clickPin, offPin]
  refine ⟨truth.deviceExtension, fun device single => ?_, truth.exclusive, fun free => ?_,
    fun held => ⟨?_, ?_⟩⟩
  · have plain : device ≠ 6 := by
      rintro rfl
      rw [truth.deviceExtension, if_pos rfl] at single
      nomatch single
    rw [truth.pin]
    exact truth.plain device plain
  · have idle := truth.clickIdle_of_free free
    exact ⟨idle.on, idle.off⟩
  · exact truth.clickOn.trans (and_iff_right held)
  · refine truth.clickOff.trans ((and_iff_right held).trans ?_)
    exact not_not

end BlueberryIrrigation
