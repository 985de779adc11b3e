import BlueberryIrrigation.Controller.Operation
import BlueberryIrrigation.Network.Internet

/-!
# The network interface (`interface.cpp`)

`interface_process_data` runs the command of a received packet, or once in 100 ms the telemetry
command that it puts into the packet itself. Each case of its `switch` compares the size of the
body with what its command requires. The texts of `debug_log` are left out: `DEBUGGING` is 0.
-/

namespace BlueberryIrrigation

open Semantics

/-- The variables of `interface.cpp`. -/
structure Interface where
  timeStartInfo : UInt32
  isSendInfo : Flag

/-- The variables of `interface_serial.cpp` that a call leaves to the next one. -/
structure InterfaceSerial where
  timePrintLast : UInt32
  isPrint : Flag

/-- The memory of the Arduino. -/
structure System where
  controller : Controller
  network : Network
  interface : Interface
  interfaceSerial : InterfaceSerial
  /-- The level of `ARDUINO_PIN_RESET`, which restarts the board when it is low. -/
  pinReset : UInt8

/-! ## Words in the packet -/

/-- A 16-bit word, low byte first. -/
def bytes16 (word : UInt16) : List UInt8 := [word.toUInt8, (word >>> 8).toUInt8]

/-- A 32-bit word, low byte first. -/
def bytes32 (word : UInt32) : List UInt8 :=
  [word.toUInt8, (word >>> 8).toUInt8, (word >>> 16).toUInt8, (word >>> 24).toUInt8]

/-- `*(uint16_t *)` of these bytes. -/
def word16 (low high : UInt8) : UInt16 := low.toUInt16 ||| high.toUInt16 <<< 8

/-- `*(uint32_t *)` of these bytes. -/
def word32 (first second third fourth : UInt8) : UInt32 :=
  first.toUInt32 ||| second.toUInt32 <<< 8 ||| third.toUInt32 <<< 16 ||| fourth.toUInt32 <<< 24

/-- The enumerator's number. -/
def Program.number : Program → Nat
  | .group1 => 0
  | .group2 => 1
  | .both => 2
  | .cleaning => 3
  | .garden => 4
  | .unknown excess => excess + 5

/-- The enumerator's number. -/
def Status.number : Status → UInt8
  | .finished => 0
  | .preparing => 1
  | .ready => 2
  | .finishing => 3

/-! ## Commands -/

/-- The commands with a `case` in `interface_process_data`. -/
inductive Command where
  | controlSafetyReset
  | deviceToggle
  | deviceTimeSwitchMinimum
  | sensorFlowPulsesPerLiter
  | isSendInfo
  | isFaultyDetectionActive
  | start
  | stop
  | resume
  | deliverVolume
  | deliverTime
  | generatorWaitTime
  | programDuration
  | cleaningGroup3Duration
  | cleaningGroup12Duration
  | infoAll
  | ping
deriving DecidableEq, Repr

namespace Command

/-- The `case` labels, in the order of the source. -/
def labels : List (UInt8 × Command) :=
  [(101, .controlSafetyReset), (42, .deviceToggle), (43, .deviceTimeSwitchMinimum),
    (62, .sensorFlowPulsesPerLiter), (91, .isSendInfo), (93, .isFaultyDetectionActive),
    (83, .start), (84, .stop), (92, .resume), (85, .deliverVolume), (86, .deliverTime),
    (87, .generatorWaitTime), (88, .programDuration), (89, .cleaningGroup3Duration),
    (90, .cleaningGroup12Duration), (82, .infoAll), (211, .ping)]

/-- The case that the `switch` takes, or none for its `default`. -/
def ofByte (byte : UInt8) : Option Command := labels.lookup byte

/-- The bytes behind the command byte that its case requires. -/
def operands : Command → UInt8
  | .controlSafetyReset | .stop | .resume | .infoAll => 0
  | .isSendInfo | .isFaultyDetectionActive | .ping => 1
  | .deviceToggle | .deviceTimeSwitchMinimum | .start | .deliverVolume | .deliverTime => 2
  | .sensorFlowPulsesPerLiter => 3
  | .generatorWaitTime | .programDuration | .cleaningGroup3Duration | .cleaningGroup12Duration => 4

/-- The case taken has the byte as its label. -/
theorem label_of_ofByte {byte : UInt8} {command : Command} (taken : ofByte byte = some command) :
    (byte, command) ∈ labels := by
  obtain ⟨before, behind, split, -⟩ := List.lookup_eq_some_iff.mp taken
  rw [split]
  exact List.mem_append_right before List.mem_cons_self

theorem ofByte_eq_infoAll {byte : UInt8} : ofByte byte = some .infoAll ↔ byte = 82 := by
  constructor
  · intro taken
    simpa [labels] using label_of_ofByte taken
  · rintro rfl
    rfl

end Command

/-- How the `switch` is left: at its end, where the packet is released, or by a `return`. -/
inductive Exit where
  | broke
  | returned
deriving DecidableEq, Repr

/-- One call sends up to four packets, so that literals are indices of them. -/
instance sentPackets_neZero : NeZero (4 : Nat) := ⟨by decide⟩

/-- What the environment answers to one call of `interface_process_data`. -/
structure InterfaceAnswers where
  /-- Whether the chip sends each of the packets of one call. -/
  isSent : Fin 4 → Bool
  /-- The time at the end of the call. -/
  later : Nat

/-- The information about the devices. -/
def deviceInfo (s : Controller) : List UInt8 :=
  41 :: List.ofFn fun device => (s.deviceArray device).isActive

/-- The information about the flow sensors. -/
def sensorFlowInfo (s : Controller) : List UInt8 :=
  61 :: (List.ofFn s.sensorFlowArray).flatMap fun sensor =>
    bytes32 sensor.pulsesTotal ++ bytes16 sensor.pulsesPerLiter

/-- The information about the pressure sensors. -/
def sensorPressureInfo (s : Controller) : List UInt8 := 121 :: List.ofFn s.sensorPressureArray

/-- The information about the irrigation machine. -/
def controlIrrigationInfo (now : Nat) (irrigation : Irrigation) : List UInt8 :=
  [81, UInt8.ofNat irrigation.program.number, UInt8.ofNat irrigation.programCurrent.number,
    irrigation.status.number, irrigation.isCleaning, irrigation.isStopped,
    irrigation.isFaultyDetectionActive] ++
  bytes16 irrigation.deliverVolume ++ bytes16 irrigation.deliverTime ++
  bytes32 irrigation.timeGeneratorWait ++ bytes32 irrigation.timeProgramDuration ++
  bytes32 irrigation.timeCleaningGroup3Duration ++
  bytes32 irrigation.timeCleaningGroup12Duration ++
  bytes32 irrigation.timeProgramStart ++ bytes32 irrigation.timeProgramStop ++
  bytes32 irrigation.timeGeneratorStart ++ bytes32 (millis now)

/-- The body is filled and sent. -/
def Network.sendBody (isSent : Bool) (bytes : List UInt8) (n : Network) :
    Except OutOfBounds Network := do
  let filled ← n.fillBody bytes
  filled.internetSend isSent

namespace System

/-- The body of the INFO_ALL case: four packets. -/
def sendInfoAll (answers : InterfaceAnswers) (s : System) : Except OutOfBounds System := do
  let n ← s.network.sendBody (answers.isSent 0) (deviceInfo s.controller)
  let n ← n.sendBody (answers.isSent 1) (sensorFlowInfo s.controller)
  let n ← n.sendBody (answers.isSent 2) (sensorPressureInfo s.controller)
  let n ← n.sendBody (answers.isSent 3)
    (controlIrrigationInfo answers.later s.controller.irrigation)
  return { s with network := n }

/-- The body of the PING case: a request is answered in place. -/
def answerPing (answers : InterfaceAnswers) (s : System) : Except OutOfBounds System :=
  if s.network.packet.data 1 = internetCommandPingValueRequest then do
    let data := Function.update s.network.packet.data 1 internetCommandPingValueAnswer
    let n ← { s.network with packet.data := data }.internetSend (answers.isSent 0)
    return { s with network := n }
  else .ok s

variable [FlowArithmetic]

/-- An operation of the controller. -/
def operate (now : Nat) (operation : Operation) (s : System) : System :=
  { s with controller := operation.run now s.controller }

/-- The cases of the `switch`, for a body of the right size. -/
def perform (now : Nat) (answers : InterfaceAnswers) (s : System) :
    Command → Except OutOfBounds System :=
  let data := s.network.packet.data
  fun
  | .controlSafetyReset => .ok { s with pinReset := 0 }
  | .deviceToggle => do
      let device ← Memory.element 15 (data 1).toNat
      return s.operate now (.deviceToggle device (data 2))
  | .deviceTimeSwitchMinimum => do
      let device ← Memory.element 15 (data 1).toNat
      return s.operate now (.assign (.timeSwitchMinimum device (data 2)))
  | .sensorFlowPulsesPerLiter => do
      let sensor ← Memory.element 5 (data 1).toNat
      return s.operate now (.assign (.pulsesPerLiter sensor (word16 (data 2) (data 3))))
  | .isSendInfo => .ok { s with interface.isSendInfo := data 1 }
  | .isFaultyDetectionActive => .ok (s.operate now (.faultyDetectionToggle (data 1)))
  | .start => .ok (s.operate now (.start (Program.ofNumber (data 1).toNat) (data 2)))
  | .stop => .ok (s.operate now .forceStop)
  | .resume => .ok (s.operate now .resume)
  | .deliverVolume => .ok (s.operate now (.assign (.deliverVolume (word16 (data 1) (data 2)))))
  | .deliverTime => .ok (s.operate now (.assign (.deliverTime (word16 (data 1) (data 2)))))
  | .generatorWaitTime =>
      .ok (s.operate now (.assign (.generatorWait (word32 (data 1) (data 2) (data 3) (data 4)))))
  | .programDuration =>
      .ok (s.operate now (.assign (.programDuration (word32 (data 1) (data 2) (data 3) (data 4)))))
  | .cleaningGroup3Duration =>
      .ok (s.operate now
        (.assign (.cleaningGroup3Duration (word32 (data 1) (data 2) (data 3) (data 4)))))
  | .cleaningGroup12Duration =>
      .ok (s.operate now
        (.assign (.cleaningGroup12Duration (word32 (data 1) (data 2) (data 3) (data 4)))))
  | .infoAll => s.sendInfoAll answers
  | .ping => s.answerPing answers

/-- The `switch`. A wrong size ends the case with its `break`, but in INFO_ALL with a `return`. -/
def interfaceSwitch (now : Nat) (answers : InterfaceAnswers) (s : System) :
    Except OutOfBounds (System × Exit) :=
  match Command.ofByte (s.network.packet.data 0) with
  | none => .ok (s, .broke)
  | some command =>
      if 1 + command.operands ≠ s.network.packet.size then
        .ok (s, if command = .infoAll then .returned else .broke)
      else do
        let performed ← s.perform now answers command
        return (performed, .broke)

/-- From the `switch` on: `internet_is_receive_wait = FALSE` follows it. -/
def processPacket (now : Nat) (answers : InterfaceAnswers) (s : System) :
    Except OutOfBounds System := do
  let (processed, exit) ← s.interfaceSwitch now answers
  match exit with
  | .broke => return { processed with network.isReceiveWait := 0 }
  | .returned => return processed

/-- `INTERFACE_COMMAND_CONTROL_IRRIGATION_TIME_INTERVAL_SEND_INFO` -/
def timeIntervalSendInfo : UInt32 := 100

/-- `interface_process_data()` -/
def interfaceProcessData (now : Nat) (answers : InterfaceAnswers) (s : System) :
    Except OutOfBounds System :=
  if s.network.isReceiveWait ≠ 0 then
    { s with network := s.network.record (.dispatched s.network.packet.body) }.processPacket now
      answers
  else if s.interface.isSendInfo = 0 then .ok s
  else if millis now - s.interface.timeStartInfo < timeIntervalSendInfo then .ok s
  else do
    let filled ← s.network.fillBody [82]
    { s with network := filled, interface.timeStartInfo := millis now }.processPacket now answers

end System
end BlueberryIrrigation
