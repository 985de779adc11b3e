import BlueberryIrrigation.Interface.Words
import BlueberryIrrigation.Server.Udp

/-!
# The server's copy of the irrigation data (`irrigation_data.c`, `server_udp.c`)

`server_process_received_data` decodes the packets that the Arduino sends about itself. Each case
requires an exact size first, so all its reads have fixed indices, which lie inside the packet.
-/

namespace BlueberryIrrigation

open Semantics

/-- The server's `Sensor_flow`. -/
structure SensorFlowData where
  pulsesPerLiter : UInt16
  pulsesTotal : UInt32

/-- The variables of `irrigation_data.c`. Its enumerations keep the byte received. -/
structure IrrigationData where
  deviceArray : Fin 15 → Flag
  sensorFlowArray : Fin 5 → SensorFlowData
  sensorPressureArray : Fin 3 → UInt8
  program : UInt8
  programCurrent : UInt8
  status : UInt8
  isCleaning : Flag
  isStopped : Flag
  deliverVolume : UInt16
  deliverTime : UInt16
  timeGeneratorWait : UInt32
  timeProgramDuration : UInt32
  timeCleaningGroup3Duration : UInt32
  timeCleaningGroup12Duration : UInt32
  timeProgramStart : UInt32
  timeProgramStop : UInt32
  timeGeneratorStart : UInt32
  timeCurrent : UInt32
  isFaultyDetectionActive : Flag

/-- The memory of the server. -/
structure ServerMemory where
  udp : Server
  data : IrrigationData
  timeReceivedLast : UInt32

/-- Entries of one byte, behind the command byte. -/
theorem entry_inside {count : Nat} (entry : Fin count) (few : count ≤ 15) :
    1 + entry.val < bodyDataSize := by
  have bound := entry.isLt
  change 1 + entry.val < 64
  omega

/-- The entry of a flow sensor. -/
theorem sensorFlow_inside (sensor : Fin 5) : 1 + 6 * sensor.val + 6 ≤ bodyDataSize := by
  change 1 + 6 * sensor.val + 6 ≤ 64
  omega

/-- The variables before the first datagram, all of them zero. -/
def ServerMemory.unset : ServerMemory where
  udp :=
    { packet := ⟨0, 0, 0, fun _ => 0, 0, []⟩
      buffer := fun _ => 0 }
  data :=
    { deviceArray := fun _ => 0
      sensorFlowArray := fun _ => ⟨0, 0⟩
      sensorPressureArray := fun _ => 0
      program := 0
      programCurrent := 0
      status := 0
      isCleaning := 0
      isStopped := 0
      deliverVolume := 0
      deliverTime := 0
      timeGeneratorWait := 0
      timeProgramDuration := 0
      timeCleaningGroup3Duration := 0
      timeCleaningGroup12Duration := 0
      timeProgramStart := 0
      timeProgramStop := 0
      timeGeneratorStart := 0
      timeCurrent := 0
      isFaultyDetectionActive := 0 }
  timeReceivedLast := 0

/-- `*(uint16_t *)&data[counter]` -/
def readWord16 (data : Fin bodyDataSize → UInt8) (counter : Nat)
    (inside : counter + 2 ≤ bodyDataSize) : UInt16 :=
  word16 (data ⟨counter, by omega⟩) (data ⟨counter + 1, by omega⟩)

/-- `*(uint32_t *)&data[counter]` -/
def readWord32 (data : Fin bodyDataSize → UInt8) (counter : Nat)
    (inside : counter + 4 ≤ bodyDataSize) : UInt32 :=
  word32 (data ⟨counter, by omega⟩) (data ⟨counter + 1, by omega⟩) (data ⟨counter + 2, by omega⟩)
    (data ⟨counter + 3, by omega⟩)

namespace IrrigationData

/-- The case `INTERFACE_COMMAND_DEVICE_INFO`. -/
def readDevices (data : Fin bodyDataSize → UInt8) (d : IrrigationData) : IrrigationData :=
  { d with deviceArray := fun device => data ⟨1 + device, entry_inside device (by decide)⟩ }

/-- The case `INTERFACE_COMMAND_SENSOR_FLOW_INFO`: a total and a calibration, six bytes for each
sensor. -/
def readSensorFlows (data : Fin bodyDataSize → UInt8) (d : IrrigationData) : IrrigationData :=
  { d with
    sensorFlowArray := fun sensor =>
      { pulsesTotal := readWord32 data (1 + 6 * sensor)
          (Nat.le_trans (by omega) (sensorFlow_inside sensor))
        pulsesPerLiter := readWord16 data (1 + 6 * sensor + 4) (sensorFlow_inside sensor) } }

/-- The case `INTERFACE_COMMAND_SENSOR_PRESSURE_INFO`. -/
def readSensorPressures (data : Fin bodyDataSize → UInt8) (d : IrrigationData) : IrrigationData :=
  { d with
    sensorPressureArray := fun sensor => data ⟨1 + sensor, entry_inside sensor (by decide)⟩ }

/-- The case `INTERFACE_COMMAND_CONTROL_IRRIGATION_INFO`. -/
def readIrrigation (data : Fin bodyDataSize → UInt8) (d : IrrigationData) : IrrigationData :=
  { d with
    program := data 1
    programCurrent := data 2
    status := data 3
    isCleaning := data 4
    isStopped := data 5
    isFaultyDetectionActive := data 6
    deliverVolume := readWord16 data 7 (by decide)
    deliverTime := readWord16 data 9 (by decide)
    timeGeneratorWait := readWord32 data 11 (by decide)
    timeProgramDuration := readWord32 data 15 (by decide)
    timeCleaningGroup3Duration := readWord32 data 19 (by decide)
    timeCleaningGroup12Duration := readWord32 data 23 (by decide)
    timeProgramStart := readWord32 data 27 (by decide)
    timeProgramStop := readWord32 data 31 (by decide)
    timeGeneratorStart := readWord32 data 35 (by decide)
    timeCurrent := readWord32 data 39 (by decide) }

end IrrigationData

namespace ServerMemory

/-- The case `INTERNET_COMMAND_PING`: a request is answered in place. The frames are those that are
handed to `sendto`. -/
def answerPing (s : ServerMemory) : Except OutOfBounds (ServerMemory × List (List UInt8)) :=
  if s.udp.packet.data 1 = 10 then do
    let data := Function.update s.udp.packet.data 1 20
    let (udp, frame) ← { s.udp with packet.data := data }.serverUdpSend
    return ({ s with udp := udp }, [frame])
  else .ok (s, [])

/-- `server_process_received_data()`, with the frames that it hands to `sendto`. A wrong size, like
an unknown command, is only printed. -/
def serverProcessSending (s : ServerMemory) :
    Except OutOfBounds (ServerMemory × List (List UInt8)) :=
  let packet := s.udp.packet
  match packet.data 0 with
  | 41 =>
      if 1 + 15 ≠ packet.size.toNat then .ok (s, [])
      else .ok ({ s with data := s.data.readDevices packet.data }, [])
  | 61 =>
      if 1 + 5 * 4 + 5 * 2 ≠ packet.size.toNat then .ok (s, [])
      else .ok ({ s with data := s.data.readSensorFlows packet.data }, [])
  | 121 =>
      if 1 + 3 ≠ packet.size.toNat then .ok (s, [])
      else .ok ({ s with data := s.data.readSensorPressures packet.data }, [])
  | 81 =>
      if 1 + 42 ≠ packet.size.toNat then .ok (s, [])
      else .ok ({ s with data := s.data.readIrrigation packet.data }, [])
  | 211 => if 1 + 1 ≠ packet.size.toNat then .ok (s, []) else s.answerPing
  | _ => .ok (s, [])

/-- What `server_process_received_data()` leaves in the memory. -/
def serverProcessReceivedData (s : ServerMemory) : Except OutOfBounds ServerMemory := do
  let processed ← s.serverProcessSending
  return processed.1

/-- `server_udp_update()`, when a datagram has arrived: `time` is what `get_time` returns. -/
def serverUdpUpdate (datagram : Datagram) (time : UInt32) (s : ServerMemory) :
    Except OutOfBounds ServerMemory := do
  let (udp, accepted) ← s.udp.serverUdpReceive datagram
  if accepted = false then return { s with udp := udp }
  else ({ s with udp := udp, timeReceivedLast := time } : ServerMemory).serverProcessReceivedData

/-- The memory after these datagrams, the first of which arrives first. -/
def serverUdpUpdates : List (Datagram × UInt32) → ServerMemory → Except OutOfBounds ServerMemory
  | [], s => .ok s
  | (datagram, time) :: rest, s => do
      let updated ← s.serverUdpUpdate datagram time
      updated.serverUdpUpdates rest

end ServerMemory
end BlueberryIrrigation
