import BlueberryIrrigation.Interface.Words

/-!
# Indices from the network

Three commands take an index of an array from their body and use it as it is. The sizes of their
bodies are checked, their indices are not.
-/

namespace BlueberryIrrigation

open Semantics

/-- The packet is a well-formed command about a device or a flow sensor that does not exist. -/
def Packet.NamesMissingEntry (packet : Packet) : Prop :=
  ((packet.data 0 = 42 ∨ packet.data 0 = 43) ∧ packet.size = 3 ∧ 15 ≤ (packet.data 1).toNat) ∨
    (packet.data 0 = 62 ∧ packet.size = 4 ∧ 5 ≤ (packet.data 1).toNat)

instance decidableNamesMissingEntry (packet : Packet) : Decidable packet.NamesMissingEntry :=
  inferInstanceAs (Decidable (_ ∨ _))

namespace Network

/-- A body that fits is filled and sent without leaving the packet. -/
theorem sendBody_inside (n : Network) (isSent : Bool) {bytes : List UInt8}
    (fits : bytes.length ≤ bodyDataSize) :
    Memory.Ensures (n.sendBody isSent bytes) fun _ => True := by
  unfold sendBody internetSend
  rw [Memory.ensures_bind]
  refine (n.fillBody_fits fits).mono fun filled filling => ?_
  have counted := filling.size
  simp only [Memory.ensures_ite, Memory.ensures_ok]
  exact ⟨fun _ => trivial, fun _ => ⟨fun large => absurd large (by omega), fun _ => trivial⟩⟩

end Network

namespace System

theorem sendInfoAll_inside (answers : InterfaceAnswers) (s : System) :
    Memory.Ensures (s.sendInfoAll answers) fun _ => True := by
  have room : bodyDataSize = 64 := rfl
  have devices := length_deviceInfo s.controller
  have flows := length_sensorFlowInfo s.controller
  have pressures := length_sensorPressureInfo s.controller
  have irrigation := length_controlIrrigationInfo answers.later s.controller.irrigation
  unfold sendInfoAll
  simp only [Memory.ensures_bind, Memory.ensures_pure]
  refine (s.network.sendBody_inside _ (by omega)).mono fun n _ => ?_
  refine (n.sendBody_inside _ (by omega)).mono fun n _ => ?_
  refine (n.sendBody_inside _ (by omega)).mono fun n _ => ?_
  exact n.sendBody_inside _ (by omega)

theorem answerPing_inside (answers : InterfaceAnswers) {s : System}
    (fits : s.network.packet.size.toNat ≤ bodyDataSize) :
    Memory.Ensures (s.answerPing answers) fun _ => True := by
  unfold answerPing Network.internetSend
  simp only [Memory.ensures_bind, Memory.ensures_pure, Memory.ensures_ite, Memory.ensures_ok]
  exact ⟨fun _ => ⟨fun _ => trivial, fun _ =>
    ⟨fun large => absurd large (Nat.not_lt.mpr fits), fun _ => trivial⟩⟩, fun _ => trivial⟩

theorem ensures_element {length index : Nat} {β : Type} {next : Fin length → β} :
    Memory.Ensures (do let entry ← Memory.element length index; return next entry)
      (fun _ => True) ↔ index < length := by
  by_cases inside : index < length
  · simp [Memory.element_inside inside, inside]
  · simp [Memory.element_outside inside, inside]

variable [FlowArithmetic] {s : System} (now : Nat) (answers : InterfaceAnswers)

/-- A command stays inside the arrays exactly when the entry that it names exists. -/
theorem ensures_perform (fits : s.network.packet.size.toNat ≤ bodyDataSize) (command : Command) :
    Memory.Ensures (s.perform now answers command) (fun _ => True) ↔
      (command = .deviceToggle ∨ command = .deviceTimeSwitchMinimum →
        (s.network.packet.data 1).toNat < 15) ∧
      (command = .sensorFlowPulsesPerLiter → (s.network.packet.data 1).toNat < 5) := by
  cases command with
  | deviceToggle =>
      refine ensures_element.trans ?_
      simp
  | deviceTimeSwitchMinimum =>
      refine ensures_element.trans ?_
      simp
  | sensorFlowPulsesPerLiter =>
      refine ensures_element.trans ?_
      simp
  | infoAll => exact iff_of_true (s.sendInfoAll_inside answers) ⟨by simp, by simp⟩
  | ping => exact iff_of_true (answerPing_inside answers fits) ⟨by simp, by simp⟩
  | _ => exact iff_of_true ((Memory.ensures_ok _).mpr trivial) ⟨by simp, by simp⟩

/-- The dispatcher stays inside the arrays exactly when its case does. -/
theorem ensures_processPacket :
    Memory.Ensures (s.processPacket now answers) (fun _ => True) ↔
      ∀ command, Command.ofByte (s.network.packet.data 0) = some command →
        1 + command.operands = s.network.packet.size →
        Memory.Ensures (s.perform now answers command) fun _ => True := by
  have released : Memory.Ensures (s.processPacket now answers) (fun _ => True) ↔
      Memory.Ensures (s.interfaceSwitch now answers) fun _ => True := by
    unfold processPacket
    cases s.interfaceSwitch now answers with
    | error outside => simp [bind, Except.bind]
    | ok left =>
        obtain ⟨processed, exit⟩ := left
        cases exit <;> simp [bind, Except.bind]
  refine released.trans ?_
  unfold interfaceSwitch
  cases taken : Command.ofByte (s.network.packet.data 0) with
  | none => simp
  | some command =>
      by_cases size : 1 + command.operands = s.network.packet.size
      · have only : (∀ other, some command = some other →
            1 + other.operands = s.network.packet.size →
            Memory.Ensures (s.perform now answers other) fun _ => True) ↔
            Memory.Ensures (s.perform now answers command) fun _ => True := by
          simp [size]
        dsimp only
        rw [only, if_neg (not_not_intro size), Memory.ensures_bind]
        simp only [Memory.ensures_pure]
      · simp [size]

omit [FlowArithmetic] in
/-- Which cases take an index. -/
theorem takes_index {byte : UInt8} {command : Command}
    (taken : Command.ofByte byte = some command) :
    (command = .deviceToggle ↔ byte = 42) ∧ (command = .deviceTimeSwitchMinimum ↔ byte = 43) ∧
      (command = .sensorFlowPulsesPerLiter ↔ byte = 62) := by
  have listed := Command.label_of_ofByte taken
  have label : ∀ pair ∈ Command.labels,
      (pair.2 = .deviceToggle ↔ pair.1 = 42) ∧ (pair.2 = .deviceTimeSwitchMinimum ↔ pair.1 = 43) ∧
        (pair.2 = .sensorFlowPulsesPerLiter ↔ pair.1 = 62) := by
    decide
  exact label _ listed

end System

/-- The dispatcher uses only indices that exist, and spares the controller for the bodies that
name a missing entry, exactly when the body names none. -/
theorem dispatcher_indices [FlowArithmetic] (s : System) (now : Nat) (answers : InterfaceAnswers)
    (waiting : s.network.isReceiveWait ≠ 0) (_nonempty : 1 ≤ s.network.packet.size.toNat)
    (fits : s.network.packet.size.toNat ≤ bodyDataSize) :
    Memory.Ensures (s.interfaceProcessData now answers) (fun after =>
        s.network.packet.NamesMissingEntry → after.controller = s.controller) ↔
      ¬ s.network.packet.NamesMissingEntry := by
  unfold System.interfaceProcessData
  rw [if_pos waiting]
  generalize recording : ({ s with
    network := s.network.record (.dispatched s.network.packet.body) } : System) = recorded
  have packet : recorded.network.packet = s.network.packet := by
    rw [← recording]
    rfl
  have room : recorded.network.packet.size.toNat ≤ bodyDataSize := by rwa [packet]
  have performs := System.ensures_perform now answers room
  have inside : Memory.Ensures (recorded.processPacket now answers) _ ↔ _ :=
    System.ensures_processPacket now answers
  rw [packet] at performs inside
  constructor
  · intro ensured names
    have each := inside.mp (ensured.mono fun _ _ => trivial)
    rcases names with ⟨toggle | minimum, size, missing⟩ | ⟨calibration, size, missing⟩
    · have small := ((performs _).mp (each .deviceToggle (by rw [toggle]; rfl)
        (by rw [size]; rfl))).1 (.inl rfl)
      omega
    · have small := ((performs _).mp (each .deviceTimeSwitchMinimum (by rw [minimum]; rfl)
        (by rw [size]; rfl))).1 (.inr rfl)
      omega
    · have small := ((performs _).mp (each .sensorFlowPulsesPerLiter (by rw [calibration]; rfl)
        (by rw [size]; rfl))).2 rfl
      omega
  · intro sound
    refine (inside.mpr fun command taken size => ?_).mono fun after _ names => absurd names sound
    obtain ⟨toggle, minimum, calibration⟩ := System.takes_index taken
    refine (performs command).mpr ⟨fun indexed => ?_, fun indexed => ?_⟩
    · refine Nat.lt_of_not_le fun missing =>
        sound (.inl ⟨indexed.imp toggle.mp minimum.mp, ?_, missing⟩)
      rw [← size]
      rcases indexed with rfl | rfl <;> rfl
    · refine Nat.lt_of_not_le fun missing =>
        sound (.inr ⟨calibration.mp indexed, ?_, missing⟩)
      rw [← size, indexed]
      rfl

/-- A packet that has been received. -/
def received (body : Fin bodyDataSize → UInt8) (size : UInt8) : System where
  controller := boot
  network :=
    { Network.unset with
      isReceiveWait := 1
      packet.data := body
      packet.size := size }
  interface := ⟨0, 0⟩
  interfaceSerial := ⟨0, 0⟩
  pinReset := 1

theorem dispatcher_indices_lamp :
    let s := received (fun index => if index = 0 then 42 else if index = 1 then 14 else 1) 3
    Memory.Ensures (s.interfaceProcessData 4000 ⟨fun _ => true, 4000⟩) (fun after =>
        s.network.packet.NamesMissingEntry → after.controller = s.controller) ∧
      ¬ s.network.packet.NamesMissingEntry := by
  intro s
  have sound : ¬ s.network.packet.NamesMissingEntry := by decide
  exact ⟨(dispatcher_indices s 4000 ⟨fun _ => true, 4000⟩ (by decide) (by decide)
    (by decide)).mpr sound, sound⟩

/-- Device 15 is switched on as it is asked for, beyond the fifteen devices that there are. -/
theorem dispatcher_index_outside :
    (received (fun index => if index = 0 then 42 else if index = 1 then 15 else 1)
        3).interfaceProcessData 4000 ⟨fun _ => true, 4000⟩ = .error ⟨15, 15⟩ :=
  rfl

end BlueberryIrrigation
