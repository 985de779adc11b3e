import BlueberryIrrigation.Network.RoundTrip
import BlueberryIrrigation.Server.Mirror

/-!
# Telemetry from the Arduino to the server

The INFO_ALL case sends four packets about four parts of the Arduino's memory. On the server
each of them brings its own part up to date and leaves the other three alone, so their order does
not matter.
-/

namespace BlueberryIrrigation

open Semantics

/-- What a packet of telemetry is about. -/
inductive Part where
  | devices
  | sensorFlows
  | sensorPressures
  | irrigation
deriving DecidableEq, Repr

namespace Part

/-- The parts in the order in which their packets are sent. -/
def all : List Part := [.devices, .sensorFlows, .sensorPressures, .irrigation]

/-- The body of the packet about a part. -/
def body (now : Nat) (s : Controller) : Part → List UInt8
  | .devices => deviceInfo s
  | .sensorFlows => sensorFlowInfo s
  | .sensorPressures => sensorPressureInfo s
  | .irrigation => controlIrrigationInfo now s.irrigation

end Part

/-- The server's flow sensors are the Arduino's. -/
def SensorFlowsMirrored (s : Controller) (d : IrrigationData) : Prop :=
  ∀ sensor, (d.sensorFlowArray sensor).pulsesTotal = (s.sensorFlowArray sensor).pulsesTotal ∧
    (d.sensorFlowArray sensor).pulsesPerLiter = (s.sensorFlowArray sensor).pulsesPerLiter

/-- The server's irrigation variables are the Arduino's, field by field. -/
structure IrrigationMirrored (now : Nat) (i : Irrigation) (d : IrrigationData) : Prop where
  program : d.program.toNat = i.program.number
  programCurrent : d.programCurrent.toNat = i.programCurrent.number
  status : d.status = i.status.number
  isCleaning : d.isCleaning = i.isCleaning
  isStopped : d.isStopped = i.isStopped
  isFaultyDetectionActive : d.isFaultyDetectionActive = i.isFaultyDetectionActive
  deliverVolume : d.deliverVolume = i.deliverVolume
  deliverTime : d.deliverTime = i.deliverTime
  timeGeneratorWait : d.timeGeneratorWait = i.timeGeneratorWait
  timeProgramDuration : d.timeProgramDuration = i.timeProgramDuration
  timeCleaningGroup3Duration : d.timeCleaningGroup3Duration = i.timeCleaningGroup3Duration
  timeCleaningGroup12Duration : d.timeCleaningGroup12Duration = i.timeCleaningGroup12Duration
  timeProgramStart : d.timeProgramStart = i.timeProgramStart
  timeProgramStop : d.timeProgramStop = i.timeProgramStop
  timeGeneratorStart : d.timeGeneratorStart = i.timeGeneratorStart
  timeCurrent : d.timeCurrent = millis now

/-- A part of the server's data is equal to the Arduino's. -/
def Mirrored (now : Nat) (s : Controller) (d : IrrigationData) : Part → Prop
  | .devices => ∀ device, d.deviceArray device = (s.deviceArray device).isActive
  | .sensorFlows => SensorFlowsMirrored s d
  | .sensorPressures => d.sensorPressureArray = s.sensorPressureArray
  | .irrigation => IrrigationMirrored now s.irrigation d

/-! ## Sending -/

namespace Network

/-- What the sending of a body leaves: the packet is filled with it, and its frame is sent. -/
structure SendsBody (bytes : List UInt8) (before after : Network) : Prop where
  status : after.status = before.status
  ip : after.packet.ip = before.packet.ip
  port : after.packet.port = before.packet.port
  id : after.packet.id = before.packet.id
  events : after.events =
    .sent before.packet.ip before.packet.port (frameOf before.packet.id bytes) :: before.events

/-- A ready Arduino sends every body that fits its packet. -/
theorem sendBody_sends {n : Network} {bytes : List UInt8} (ready : n.status = .ready)
    (fits : bytes.length ≤ bodyDataSize) :
    Memory.Ensures (n.sendBody true bytes) (SendsBody bytes n) := by
  unfold sendBody
  rw [Memory.ensures_bind]
  refine (n.fillBody_fits fits).mono fun filled filling => ?_
  obtain ⟨body, counted, data, size, same⟩ := filling
  have started : filled.status = .ready := by rw [same, ready]
  rw [internetSend_sends started (counted.trans_le fits), body, Memory.ensures_ok, same]
  exact ⟨rfl, rfl, rfl, rfl, rfl⟩

end Network

/-- The frame of the packet about a part. -/
def Part.frame (id : UInt8) (now : Nat) (s : Controller) (part : Part) : List UInt8 :=
  frameOf id (part.body now s)

/-- The command byte of the packet about a part. -/
def Part.command : Part → UInt8
  | .devices => 41
  | .sensorFlows => 61
  | .sensorPressures => 121
  | .irrigation => 81

/-- By its command byte, a frame says which part it is about. -/
theorem Part.frame_injective {id : UInt8} {now : Nat} {s : Controller} {part other : Part}
    (same : part.frame id now s = other.frame id now s) : part = other := by
  have first (part : Part) : (between (part.frame id now s)).head? = some part.command := by
    rw [Part.frame, between_frameOf]
    cases part <;> rfl
  have commands := (first part).symm.trans
    ((congrArg (fun bytes => (between bytes).head?) same).trans (first other))
  cases part <;> cases other <;> first | rfl | exact absurd commands (by decide)

/-- Every packet fits, at both ends. -/
theorem Part.length_body (now : Nat) (s : Controller) (part : Part) :
    1 ≤ (part.body now s).length ∧ (part.body now s).length ≤ largestBody := by
  cases part with
  | devices =>
      rw [Part.body, length_deviceInfo]
      decide
  | sensorFlows =>
      rw [Part.body, length_sensorFlowInfo]
      decide
  | sensorPressures =>
      rw [Part.body, length_sensorPressureInfo]
      decide
  | irrigation =>
      rw [Part.body, length_controlIrrigationInfo]
      decide

/-- The INFO_ALL case sends the frames of the four parts, in their order. -/
theorem sendInfoAll_sends {s : System} {answers : InterfaceAnswers}
    (ready : s.network.status = .ready) (sent : ∀ packet, answers.isSent packet = true) :
    Memory.Ensures (s.sendInfoAll answers) fun after =>
      after.network.events =
        (Part.all.map fun part => NetworkEvent.sent s.network.packet.ip s.network.packet.port
          (part.frame s.network.packet.id answers.later s.controller)).reverse ++
        s.network.events := by
  have fits (part : Part) : (part.body answers.later s.controller).length ≤ bodyDataSize :=
    (part.length_body answers.later s.controller).2.trans (by decide)
  unfold System.sendInfoAll
  simp only [Memory.ensures_bind, Memory.ensures_pure, sent]
  refine (Network.sendBody_sends ready (fits .devices)).mono fun n1 first => ?_
  have ready1 : n1.status = .ready := first.status.trans ready
  refine (Network.sendBody_sends ready1 (fits .sensorFlows)).mono fun n2 second => ?_
  have ready2 : n2.status = .ready := second.status.trans ready1
  refine (Network.sendBody_sends ready2 (fits .sensorPressures)).mono fun n3 third => ?_
  have ready3 : n3.status = .ready := third.status.trans ready2
  refine (Network.sendBody_sends ready3 (fits .irrigation)).mono fun n4 fourth => ?_
  rw [fourth.events, third.events, second.events, first.events, third.ip, third.port, third.id,
    second.ip, second.port, second.id, first.ip, first.port, first.id]
  rfl

/-! ## Decoding -/

section

variable {packet : Packet} {bytes : List UInt8} (carries : packet.Carries bytes)
include carries

/-- The data of a packet is the body that it carries. -/
theorem data_of_carries {index : Nat} {value : UInt8} (listed : bytes[index]? = some value)
    (inside : index < bodyDataSize) : packet.data ⟨index, inside⟩ = value := by
  have counted : index < packet.size.toNat := by
    rw [carries.2]
    exact (List.getElem?_eq_some_iff.mp listed).1
  have entry := Memory.getElem?_firstEntries packet.data counted inside
  rw [show Memory.firstEntries packet.data packet.size.toNat = bytes from carries.1,
    listed] at entry
  exact (Option.some.inj entry).symm

theorem readWord16_of_carries {counter : Nat} {word : UInt16}
    (listed : (bytes.drop counter).take 2 = bytes16 word) (inside : counter + 2 ≤ bodyDataSize) :
    readWord16 packet.data counter inside = word := by
  have byte (offset : Nat) (early : offset < 2) :
      bytes[counter + offset]? = (bytes16 word)[offset]? := by
    rw [← listed, List.getElem?_take_of_lt early, List.getElem?_drop]
  have first : bytes[counter]? = (bytes16 word)[0]? := byte 0 (by decide)
  rw [readWord16, data_of_carries carries first,
    data_of_carries carries (byte 1 (by decide)), word16_bytes]

theorem readWord32_of_carries {counter : Nat} {word : UInt32}
    (listed : (bytes.drop counter).take 4 = bytes32 word) (inside : counter + 4 ≤ bodyDataSize) :
    readWord32 packet.data counter inside = word := by
  have byte (offset : Nat) (early : offset < 4) :
      bytes[counter + offset]? = (bytes32 word)[offset]? := by
    rw [← listed, List.getElem?_take_of_lt early, List.getElem?_drop]
  have first : bytes[counter]? = (bytes32 word)[0]? := byte 0 (by decide)
  rw [readWord32, data_of_carries carries first, data_of_carries carries (byte 1 (by decide)),
    data_of_carries carries (byte 2 (by decide)), data_of_carries carries (byte 3 (by decide)),
    word32_bytes]

end

section

variable {packet : Packet} {s : Controller} (d : IrrigationData)

theorem readDevices_mirrors (carries : packet.Carries (deviceInfo s)) :
    ∀ device, (d.readDevices packet.data).deviceArray device = (s.deviceArray device).isActive := by
  intro device
  have listed : (deviceInfo s)[1 + device.val]? = some (s.deviceArray device).isActive := by
    rw [deviceInfo, Nat.add_comm, List.getElem?_cons_succ, List.getElem?_ofFn, dif_pos device.isLt]
  exact data_of_carries carries listed _

theorem readSensorFlows_mirrors (carries : packet.Carries (sensorFlowInfo s)) :
    SensorFlowsMirrored s (d.readSensorFlows packet.data) := by
  intro sensor
  have total : ((sensorFlowInfo s).drop (1 + 6 * sensor)).take 4 =
      bytes32 (s.sensorFlowArray sensor).pulsesTotal := by
    match sensor with
    | 0 | 1 | 2 | 3 | 4 => rfl
  have calibration : ((sensorFlowInfo s).drop (1 + 6 * sensor + 4)).take 2 =
      bytes16 (s.sensorFlowArray sensor).pulsesPerLiter := by
    match sensor with
    | 0 | 1 | 2 | 3 | 4 => rfl
  exact ⟨readWord32_of_carries carries total (Nat.le_trans (by omega) (sensorFlow_inside sensor)),
    readWord16_of_carries carries calibration (sensorFlow_inside sensor)⟩

theorem readSensorPressures_mirrors (carries : packet.Carries (sensorPressureInfo s)) :
    (d.readSensorPressures packet.data).sensorPressureArray = s.sensorPressureArray := by
  funext sensor
  have listed : (sensorPressureInfo s)[1 + sensor.val]? = some (s.sensorPressureArray sensor) := by
    rw [sensorPressureInfo, Nat.add_comm, List.getElem?_cons_succ, List.getElem?_ofFn,
      dif_pos sensor.isLt]
  exact data_of_carries carries listed _

/-- Program numbers that fit a byte arrive unchanged. -/
theorem readIrrigation_mirrors {now : Nat}
    (carries : packet.Carries (controlIrrigationInfo now s.irrigation))
    (program : s.irrigation.program.number < 256)
    (programCurrent : s.irrigation.programCurrent.number < 256) :
    IrrigationMirrored now s.irrigation (d.readIrrigation packet.data) := by
  have byte {index : Nat} {value : UInt8} (inside : index < bodyDataSize)
      (listed : (controlIrrigationInfo now s.irrigation)[index]? = some value) :
      packet.data ⟨index, inside⟩ = value := data_of_carries carries listed inside
  exact
    { program := by
        rw [show (d.readIrrigation packet.data).program = _ from byte (by decide) rfl,
          UInt8.toNat_ofNat', Nat.mod_eq_of_lt program]
      programCurrent := by
        rw [show (d.readIrrigation packet.data).programCurrent = _ from byte (by decide) rfl,
          UInt8.toNat_ofNat', Nat.mod_eq_of_lt programCurrent]
      status := byte (by decide) rfl
      isCleaning := byte (by decide) rfl
      isStopped := byte (by decide) rfl
      isFaultyDetectionActive := byte (by decide) rfl
      deliverVolume := readWord16_of_carries carries rfl (by decide)
      deliverTime := readWord16_of_carries carries rfl (by decide)
      timeGeneratorWait := readWord32_of_carries carries rfl (by decide)
      timeProgramDuration := readWord32_of_carries carries rfl (by decide)
      timeCleaningGroup3Duration := readWord32_of_carries carries rfl (by decide)
      timeCleaningGroup12Duration := readWord32_of_carries carries rfl (by decide)
      timeProgramStart := readWord32_of_carries carries rfl (by decide)
      timeProgramStop := readWord32_of_carries carries rfl (by decide)
      timeGeneratorStart := readWord32_of_carries carries rfl (by decide)
      timeCurrent := readWord32_of_carries carries rfl (by decide) }

end

/-! ## Any order -/

section

variable {now : Nat} {s : Controller} {memory : ServerMemory}
  (program : s.irrigation.program.number < 256)
  (programCurrent : s.irrigation.programCurrent.number < 256)
include program programCurrent

/-- A packet about a part mirrors this part and keeps what is mirrored of the others. -/
theorem serverProcessReceivedData_mirrors {part : Part}
    (carries : memory.udp.packet.Carries (part.body now s)) :
    Memory.Ensures memory.serverProcessReceivedData fun after =>
      Mirrored now s after.data part ∧
        ∀ other, Mirrored now s memory.data other → Mirrored now s after.data other := by
  have command {byte : UInt8} (listed : (part.body now s)[0]? = some byte) :
      memory.udp.packet.data 0 = byte := data_of_carries carries listed (by decide)
  have size := carries.2
  unfold ServerMemory.serverProcessReceivedData ServerMemory.serverProcessSending
  rw [Memory.ensures_bind]
  cases part with
  | devices =>
      rw [Part.body, length_deviceInfo] at size
      simp only [command rfl, size, ne_eq, not_true_eq_false, if_false, Memory.ensures_ok,
        Memory.ensures_pure]
      refine ⟨readDevices_mirrors memory.data carries, fun other mirrored => ?_⟩
      cases other with
      | devices => exact readDevices_mirrors memory.data carries
      | irrigation => exact { mirrored with }
      | _ => exact mirrored
  | sensorFlows =>
      rw [Part.body, length_sensorFlowInfo] at size
      simp only [command rfl, size, ne_eq, not_true_eq_false, if_false, Memory.ensures_ok,
        Memory.ensures_pure]
      refine ⟨readSensorFlows_mirrors memory.data carries, fun other mirrored => ?_⟩
      cases other with
      | sensorFlows => exact readSensorFlows_mirrors memory.data carries
      | irrigation => exact { mirrored with }
      | _ => exact mirrored
  | sensorPressures =>
      rw [Part.body, length_sensorPressureInfo] at size
      simp only [command rfl, size, ne_eq, not_true_eq_false, if_false, Memory.ensures_ok,
        Memory.ensures_pure]
      refine ⟨readSensorPressures_mirrors memory.data carries, fun other mirrored => ?_⟩
      cases other with
      | sensorPressures => exact readSensorPressures_mirrors memory.data carries
      | irrigation => exact { mirrored with }
      | _ => exact mirrored
  | irrigation =>
      rw [Part.body, length_controlIrrigationInfo] at size
      simp only [command rfl, size, ne_eq, not_true_eq_false, if_false, Memory.ensures_ok,
        Memory.ensures_pure]
      have read := readIrrigation_mirrors memory.data carries program programCurrent
      refine ⟨read, fun other mirrored => ?_⟩
      cases other with
      | irrigation => exact read
      | _ => exact mirrored

theorem serverUdpUpdate_mirrors {part : Part} {datagram : Datagram} (time : UInt32)
    (bytes : datagram.bytes = part.frame arduinoId now s) :
    Memory.Ensures (memory.serverUdpUpdate datagram time) fun after =>
      Mirrored now s after.data part ∧
        ∀ other, Mirrored now s memory.data other → Mirrored now s after.data other := by
  obtain ⟨nonempty, short⟩ := part.length_body now s
  have frame : IsFrame arduinoId (part.body now s) datagram.bytes :=
    ⟨bytes, nonempty, short.trans (by decide)⟩
  unfold ServerMemory.serverUdpUpdate
  rw [Memory.ensures_bind]
  refine (memory.udp.serverUdpReceive_takes frame short).mono fun received taken => ?_
  obtain ⟨udp, accepted⟩ := received
  obtain ⟨rfl, carries⟩ := taken
  exact serverProcessReceivedData_mirrors program programCurrent carries

/-- After packets about some parts these parts are mirrored, and what was mirrored still is. -/
theorem serverUdpUpdates_mirrors {datagrams : List (Datagram × UInt32)}
    (telemetry : ∀ arrival ∈ datagrams, ∃ part : Part,
      arrival.1.bytes = part.frame arduinoId now s) :
    Memory.Ensures (memory.serverUdpUpdates datagrams) fun after =>
      (∀ part : Part, part.frame arduinoId now s ∈ datagrams.map (fun arrival => arrival.1.bytes) →
        Mirrored now s after.data part) ∧
        ∀ other, Mirrored now s memory.data other → Mirrored now s after.data other := by
  induction datagrams generalizing memory with
  | nil => exact (Memory.ensures_ok memory).mpr ⟨by simp, fun _ mirrored => mirrored⟩
  | cons arrival rest ih =>
      obtain ⟨part, bytes⟩ := telemetry arrival List.mem_cons_self
      rw [ServerMemory.serverUdpUpdates, Memory.ensures_bind]
      refine (serverUdpUpdate_mirrors program programCurrent arrival.2 bytes).mono
        fun updated first => ?_
      refine (ih fun later listed => telemetry later (List.mem_cons_of_mem arrival listed)).mono
        fun after remaining => ⟨fun other listed => ?_, fun other mirrored =>
          remaining.2 other (first.2 other mirrored)⟩
      rcases List.mem_cons.mp listed with same | late
      · obtain rfl := Part.frame_injective (same.trans bytes)
        exact remaining.2 other first.1
      · exact remaining.1 other late

end

/-- The four packets of the INFO_ALL case make the server's data equal to the Arduino's, field by
field, whatever the server's data was, in whatever order the packets arrive, and also when some
of them arrive again. -/
theorem telemetry_round_trip (s : System) (answers : InterfaceAnswers) (memory : ServerMemory)
    (ready : s.network.status = .ready) (id : s.network.packet.id = arduinoId)
    (sent : ∀ packet, answers.isSent packet = true)
    (program : s.controller.irrigation.program.number < 256)
    (programCurrent : s.controller.irrigation.programCurrent.number < 256) :
    Memory.Ensures (s.sendInfoAll answers) fun after => ∃ frames : List (List UInt8),
      frames.length = 4 ∧
      after.network.events =
        (frames.map (NetworkEvent.sent s.network.packet.ip s.network.packet.port)).reverse ++
          s.network.events ∧
      ∀ datagrams : List (Datagram × UInt32),
        (∀ arrival ∈ datagrams, arrival.1.bytes ∈ frames) →
        (∀ frame ∈ frames, frame ∈ datagrams.map fun arrival => arrival.1.bytes) →
        Memory.Ensures (memory.serverUdpUpdates datagrams) fun received =>
          ∀ part, Mirrored answers.later s.controller received.data part := by
  refine (sendInfoAll_sends ready sent).mono fun after events => ?_
  refine ⟨Part.all.map (Part.frame arduinoId answers.later s.controller), rfl, ?_, ?_⟩
  · rw [events, id, List.map_map]
    rfl
  · intro datagrams telemetry complete
    have about : ∀ arrival ∈ datagrams, ∃ part : Part,
        arrival.1.bytes = part.frame arduinoId answers.later s.controller := by
      intro arrival listed
      obtain ⟨part, -, same⟩ := List.mem_map.mp (telemetry arrival listed)
      exact ⟨part, same.symm⟩
    refine (serverUdpUpdates_mirrors program programCurrent about).mono fun received mirrors => ?_
    intro part
    have listed : part ∈ Part.all := by cases part <;> decide
    exact mirrors.1 part (complete _ (List.mem_map_of_mem listed))

theorem telemetry_round_trip_boot :
    let s : System := ⟨boot, readyNetwork, ⟨0, 0⟩, ⟨0, 0⟩, 1⟩
    Memory.Ensures (s.sendInfoAll ⟨fun _ => true, 5000⟩) fun after =>
      ∃ frames : List (List UInt8), frames.length = 4 ∧
        after.network.events = (frames.map (NetworkEvent.sent 167772161 5432)).reverse ++
          readyNetwork.events ∧
        ∀ datagrams : List (Datagram × UInt32),
          (∀ arrival ∈ datagrams, arrival.1.bytes ∈ frames) →
          (∀ frame ∈ frames, frame ∈ datagrams.map fun arrival => arrival.1.bytes) →
          Memory.Ensures (ServerMemory.unset.serverUdpUpdates datagrams) fun received =>
            ∀ part, Mirrored 5000 boot received.data part :=
  telemetry_round_trip ⟨boot, readyNetwork, ⟨0, 0⟩, ⟨0, 0⟩, 1⟩ ⟨fun _ => true, 5000⟩
    ServerMemory.unset rfl rfl (fun _ => rfl) (by decide) (by decide)

end BlueberryIrrigation
