import BlueberryIrrigation.Interface.Indices
import BlueberryIrrigation.Interface.Release
import BlueberryIrrigation.Server.Telemetry

/-!
# Malformed packets are inert

Both dispatchers compare the size of a body with what its command requires before they look at
anything behind the command byte. A body that fails the comparison changes nothing that either end
keeps about the irrigation, and nothing is sent for it.
-/

namespace BlueberryIrrigation

open Semantics

/-! ## The Arduino -/

/-- The frames handed to the chip so far, newest first. -/
def Network.sentFrames (n : Network) : List (List UInt8) :=
  n.events.filterMap fun
    | .sent _ _ frame => some frame
    | _ => none

/-- The `switch` of `interface_process_data` has no case for the command, or its case requires
another size. -/
def Packet.MalformedCommand (packet : Packet) : Prop :=
  ∀ command, Command.ofByte (packet.data 0) = some command → 1 + command.operands ≠ packet.size

/-- Everything but the variables of `internet.cpp` is the same, and nothing has been sent. -/
structure System.Inert (before after : System) : Prop where
  controller : after.controller = before.controller
  interface : after.interface = before.interface
  interfaceSerial : after.interfaceSerial = before.interfaceSerial
  pinReset : after.pinReset = before.pinReset
  sentFrames : after.network.sentFrames = before.network.sentFrames

namespace System

variable [FlowArithmetic] {s : System} (now : Nat) (answers : InterfaceAnswers)

/-- The `switch` does nothing with a malformed body. -/
theorem interfaceSwitch_malformed (malformed : s.network.packet.MalformedCommand) :
    ∃ exit, s.interfaceSwitch now answers = .ok (s, exit) := by
  unfold interfaceSwitch
  cases taken : Command.ofByte (s.network.packet.data 0) with
  | none => exact ⟨.broke, rfl⟩
  | some command => exact ⟨_, if_pos (malformed command taken)⟩

theorem processPacket_malformed (malformed : s.network.packet.MalformedCommand) :
    Memory.Ensures (s.processPacket now answers) s.Inert := by
  obtain ⟨exit, switched⟩ := interfaceSwitch_malformed now answers malformed
  unfold processPacket
  rw [switched, Memory.ensures_bind, Memory.ensures_ok]
  cases exit with
  | broke => exact (Memory.ensures_pure _).mpr ⟨rfl, rfl, rfl, rfl, rfl⟩
  | returned => exact (Memory.ensures_pure _).mpr ⟨rfl, rfl, rfl, rfl, rfl⟩

/-- A malformed body that waits is dispatched without any effect. -/
theorem interfaceProcessData_malformed (waiting : s.network.isReceiveWait ≠ 0)
    (malformed : s.network.packet.MalformedCommand) :
    Memory.Ensures (s.interfaceProcessData now answers) s.Inert := by
  unfold interfaceProcessData
  rw [if_pos waiting]
  have dispatched := @processPacket_malformed _
    { s with network := s.network.record (.dispatched s.network.packet.body) } now answers malformed
  refine dispatched.mono fun after inert => ?_
  exact ⟨inert.controller, inert.interface, inert.interfaceSerial, inert.pinReset,
    inert.sentFrames⟩

end System

/-! ## The server -/

/-- The size that the server requires of a packet about a part. -/
def Part.size : Part → Nat
  | .devices => 1 + 15
  | .sensorFlows => 1 + 5 * 4 + 5 * 2
  | .sensorPressures => 1 + 3
  | .irrigation => 1 + 42

/-- The `switch` of `server_process_received_data` has no case for the command, or its case
requires another size. -/
def Packet.MalformedInformation (packet : Packet) : Prop :=
  (∀ part : Part, packet.data 0 = part.command → packet.size.toNat ≠ part.size) ∧
    (packet.data 0 = internetCommandPing → packet.size.toNat ≠ 2)

/-- The two mirrors agree on every other part. -/
structure IrrigationData.OnlyPart (part : Part) (before after : IrrigationData) : Prop where
  devices : part ≠ .devices → after.deviceArray = before.deviceArray
  sensorFlows : part ≠ .sensorFlows → after.sensorFlowArray = before.sensorFlowArray
  sensorPressures : part ≠ .sensorPressures →
    after.sensorPressureArray = before.sensorPressureArray
  irrigation : part ≠ .irrigation →
    after = { before with
      deviceArray := after.deviceArray
      sensorFlowArray := after.sensorFlowArray
      sensorPressureArray := after.sensorPressureArray }

namespace ServerMemory

variable {s : ServerMemory}

/-- The server only prints something about a malformed body. -/
theorem serverProcessSending_malformed (malformed : s.udp.packet.MalformedInformation) :
    s.serverProcessSending = .ok (s, []) := by
  obtain ⟨information, request⟩ := malformed
  unfold serverProcessSending
  dsimp only
  split
  · rename_i command
    have wrong : 1 + 15 ≠ s.udp.packet.size.toNat := (information .devices command).symm
    rw [if_pos wrong]
  · rename_i command
    have wrong : 1 + 5 * 4 + 5 * 2 ≠ s.udp.packet.size.toNat :=
      (information .sensorFlows command).symm
    rw [if_pos wrong]
  · rename_i command
    have wrong : 1 + 3 ≠ s.udp.packet.size.toNat := (information .sensorPressures command).symm
    rw [if_pos wrong]
  · rename_i command
    have wrong : 1 + 42 ≠ s.udp.packet.size.toNat := (information .irrigation command).symm
    rw [if_pos wrong]
  · rename_i command
    rw [if_pos (request command).symm]
  · rfl

/-- A packet about a part brings this part up to date and nothing else, and is not answered. -/
theorem serverProcessSending_part {part : Part} (command : s.udp.packet.data 0 = part.command)
    (size : s.udp.packet.size.toNat = part.size) :
    ∃ data, s.serverProcessSending = .ok ({ s with data := data }, []) ∧
      IrrigationData.OnlyPart part s.data data := by
  unfold serverProcessSending
  cases part with
  | devices =>
      rw [Part.size] at size
      simp only [command, Part.command, size, ne_eq, not_true_eq_false, if_false]
      refine ⟨_, rfl, ?_⟩
      constructor <;> simp [IrrigationData.readDevices]
  | sensorFlows =>
      rw [Part.size] at size
      simp only [command, Part.command, size, ne_eq, not_true_eq_false, if_false]
      refine ⟨_, rfl, ?_⟩
      constructor <;> simp [IrrigationData.readSensorFlows]
  | sensorPressures =>
      rw [Part.size] at size
      simp only [command, Part.command, size, ne_eq, not_true_eq_false, if_false]
      refine ⟨_, rfl, ?_⟩
      constructor <;> simp [IrrigationData.readSensorPressures]
  | irrigation =>
      rw [Part.size] at size
      simp only [command, Part.command, size, ne_eq, not_true_eq_false, if_false]
      refine ⟨_, rfl, ?_⟩
      constructor <;> simp [IrrigationData.readIrrigation]

end ServerMemory

/-! ## Both ends -/

/-- A malformed body is inert at both ends, and a packet about a part of the irrigation data changes
only this part of the mirror. -/
theorem malformed_packets_inert [FlowArithmetic] :
    (∀ (s : System) (now : Nat) (answers : InterfaceAnswers), s.network.isReceiveWait ≠ 0 →
      s.network.packet.MalformedCommand →
        Memory.Ensures (s.interfaceProcessData now answers) s.Inert) ∧
    (∀ s : ServerMemory, s.udp.packet.MalformedInformation →
      s.serverProcessSending = .ok (s, [])) ∧
    ∀ (s : ServerMemory) (part : Part), s.udp.packet.data 0 = part.command →
      s.udp.packet.size.toNat = part.size →
        ∃ data, s.serverProcessSending = .ok ({ s with data := data }, []) ∧
          IrrigationData.OnlyPart part s.data data := by
  refine ⟨fun s now answers waiting malformed => ?_, fun s malformed => ?_,
    fun s part command size => ?_⟩
  · exact System.interfaceProcessData_malformed now answers waiting malformed
  · exact ServerMemory.serverProcessSending_malformed malformed
  · exact ServerMemory.serverProcessSending_part command size

/-- The server with a packet whose bytes are all the same. -/
def ServerMemory.holding (byte size : UInt8) : ServerMemory :=
  { ServerMemory.unset with
    udp.packet.data := fun _ => byte
    udp.packet.size := size }

/-- A RESUME with an operand, and pressures of which two or three arrive. -/
theorem malformed_packets_inert_resume :
    (let s := received (fun _ => 92) 2
     Memory.Ensures (s.interfaceProcessData 4000 ⟨fun _ => true, 4000⟩) s.Inert) ∧
    (let s := ServerMemory.holding 121 3
     s.serverProcessSending = .ok (s, [])) ∧
    (let s := ServerMemory.holding 121 4
     ∃ data, s.serverProcessSending = .ok ({ s with data := data }, []) ∧
       IrrigationData.OnlyPart .sensorPressures s.data data) := by
  obtain ⟨arduino, server, parts⟩ := malformed_packets_inert
  refine ⟨arduino _ _ _ (by decide) ?_, server _ ⟨?_, by decide⟩, parts _ .sensorPressures rfl rfl⟩
  · intro command taken
    have resume : Command.ofByte 92 = some .resume := rfl
    obtain rfl := Option.some.inj (taken.symm.trans resume)
    decide
  · intro part
    cases part <;> decide

end BlueberryIrrigation
