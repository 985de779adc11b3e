import BlueberryIrrigation.Interface.Release
import BlueberryIrrigation.Server.Telemetry
import BlueberryIrrigation.Server.UserInput

/-!
# Commands from the operator to the controller

A command line goes through the decimal reader, the encoder, the server's frame, the Arduino's
reception and its dispatcher. `TypedCommand.run` says what is to come of it, in the terms of the
typed operands alone.
-/

namespace BlueberryIrrigation

open Semantics

/-- A command line with its typed operands. -/
inductive TypedCommand where
  | reset
  | deviceToggle (device : Numeral) (isActive : Fin 10)
  | ping
  | start (program isCleaning : Fin 10)
  | stop
  | resume
  | deliverVolume (volume : Numeral)
  | deliverTime (time : Numeral)
  | programDuration (duration : Numeral)
  | infoAll
  | isSendInfo (isSend : Fin 10)
  | isFaultyDetectionActive (isActive : Fin 10)

/-- A typed letter as it is read. -/
def letter (character : Char) : Option UInt8 := some (UInt8.ofNat character.toNat)

/-- A typed digit as a flag. -/
def digitFlag (digit : Fin 10) : Flag := UInt8.ofNat digit.val

namespace TypedCommand

/-- What is typed, where the separator ends a numeral. -/
def line (separator : UInt8) : TypedCommand → SerialReads
  | .reset => [letter 'r']
  | .deviceToggle device isActive =>
      letter 'd' :: (device.reads ++ some separator :: [some (digitByte isActive)])
  | .ping => [letter 'i']
  | .start program isCleaning =>
      [letter 'c', letter 'a', some (digitByte program), some (digitByte isCleaning)]
  | .stop => [letter 'c', letter 's']
  | .resume => [letter 'c', letter 'r']
  | .deliverVolume volume => letter 'c' :: letter 'v' :: (volume.reads ++ [some separator])
  | .deliverTime time => letter 'c' :: letter 't' :: (time.reads ++ [some separator])
  | .programDuration duration => letter 'c' :: letter 'd' :: (duration.reads ++ [some separator])
  | .infoAll => [letter 'c', letter 'i']
  | .isSendInfo isSend => [letter 'c', letter 'p', some (digitByte isSend)]
  | .isFaultyDetectionActive isActive => [letter 'c', letter 'f', some (digitByte isActive)]

/-- The body of the packet of a command. -/
def body : TypedCommand → List UInt8
  | .reset => [101]
  | .deviceToggle device isActive => [42, UInt8.ofNat device.value, digitFlag isActive]
  | .ping => [211, 10]
  | .start program isCleaning => [83, UInt8.ofNat program.val, digitFlag isCleaning]
  | .stop => [84]
  | .resume => [92]
  | .deliverVolume volume => 85 :: bytes16 (UInt16.ofNat volume.value)
  | .deliverTime time => 86 :: bytes16 (UInt16.ofNat time.value)
  | .programDuration duration => 88 :: bytes32 (UInt32.ofNatLT duration.value duration.value_lt)
  | .infoAll => [82]
  | .isSendInfo isSend => [91, digitFlag isSend]
  | .isFaultyDetectionActive isActive => [93, digitFlag isActive]

variable [FlowArithmetic]

/-- What the Arduino is to do for a command, with the operands as they were typed. -/
def run (now : Nat) (answers : InterfaceAnswers) (s : System) :
    TypedCommand → Except OutOfBounds System
  | .reset => .ok { s with pinReset := 0 }
  | .deviceToggle device isActive => do
      let entry ← Memory.element 15 (device.value % 256)
      return s.operate now (.deviceToggle entry (digitFlag isActive))
  | .ping => do
      let data := Function.update s.network.packet.data 1 internetCommandPingValueAnswer
      let n ← { s.network with packet.data := data }.internetSend (answers.isSent 0)
      return { s with network := n }
  | .start program isCleaning =>
      .ok (s.operate now (.start (Program.ofNumber program.val) (digitFlag isCleaning)))
  | .stop => .ok (s.operate now .forceStop)
  | .resume => .ok (s.operate now .resume)
  | .deliverVolume volume =>
      .ok (s.operate now (.assign (.deliverVolume (UInt16.ofNat volume.value))))
  | .deliverTime time => .ok (s.operate now (.assign (.deliverTime (UInt16.ofNat time.value))))
  | .programDuration duration =>
      .ok (s.operate now
        (.assign (.programDuration (UInt32.ofNatLT duration.value duration.value_lt))))
  | .infoAll => s.sendInfoAll answers
  | .isSendInfo isSend => .ok { s with interface.isSendInfo := digitFlag isSend }
  | .isFaultyDetectionActive isActive =>
      .ok (s.operate now (.faultyDetectionToggle (digitFlag isActive)))

end TypedCommand

/-! ## Reading the line -/

/-- A typed digit, read as a flag. -/
theorem serialDigit_digitByte (digit : Fin 10) (rest : SerialReads) :
    (serialDigit (some (digitByte digit) :: rest)).1.toUInt8 = digitFlag digit := by
  change ((digitByte digit).toUInt16 - 48).toUInt8 = UInt8.ofNat digit.val
  rw [digitByte_sub]
  exact UInt16.toUInt8_ofNat' digit.val

/-- Every line asks for the packet of its command, whatever is typed behind it. -/
theorem consoleAction_line (command : TypedCommand) {separator : UInt8}
    (ends : Separator separator) (rest : SerialReads) :
    consoleAction (command.line separator ++ rest) = .ok (.send command.body) := by
  have flag := serialDigit_digitByte
  cases command with
  | reset | ping | stop | resume | infoAll => rfl
  | deviceToggle device isActive =>
      change (serialNumberRead (device.reads ++ some separator ::
          [some (digitByte isActive)] ++ rest) >>= fun read =>
        .ok (ConsoleAction.send [42, read.1.toUInt8, (serialDigit read.2).1.toUInt8])) = _
      rw [List.append_assoc, List.cons_append, serialNumberRead_numeral device ends]
      change Except.ok (ConsoleAction.send [42, (UInt16.ofNat device.value).toUInt8,
        (serialDigit (some (digitByte isActive) :: rest)).1.toUInt8]) = _
      rw [flag, UInt16.toUInt8_ofNat']
      rfl
  | start program isCleaning =>
      change Except.ok (ConsoleAction.send [83,
        (serialDigit (some (digitByte program) :: some (digitByte isCleaning) :: rest)).1.toUInt8,
        (serialDigit (some (digitByte isCleaning) :: rest)).1.toUInt8]) = _
      rw [flag, flag]
      rfl
  | deliverVolume volume =>
      change (serialNumberRead (volume.reads ++ [some separator] ++ rest) >>= fun read =>
        .ok (ConsoleAction.send (85 :: bytes16 read.1))) = _
      rw [List.append_assoc, List.singleton_append, serialNumberRead_numeral volume ends]
      rfl
  | deliverTime time =>
      change (serialNumberRead (time.reads ++ [some separator] ++ rest) >>= fun read =>
        .ok (ConsoleAction.send (86 :: bytes16 read.1))) = _
      rw [List.append_assoc, List.singleton_append, serialNumberRead_numeral time ends]
      rfl
  | programDuration duration =>
      change (serialNumberRead32 (duration.reads ++ [some separator] ++ rest) >>= fun read =>
        .ok (ConsoleAction.send (88 :: bytes32 read.1))) = _
      rw [List.append_assoc, List.singleton_append, serialNumberRead32_numeral duration ends,
        ← UInt32.ofNatLT_eq_ofNat]
      rfl
  | isSendInfo isSend =>
      change Except.ok (ConsoleAction.send [91,
        (serialDigit (some (digitByte isSend) :: rest)).1.toUInt8]) = _
      rw [flag]
      rfl
  | isFaultyDetectionActive isActive =>
      change Except.ok (ConsoleAction.send [93,
        (serialDigit (some (digitByte isActive) :: rest)).1.toUInt8]) = _
      rw [flag]
      rfl

/-! ## Sending and receiving -/

theorem TypedCommand.length_body (command : TypedCommand) :
    1 ≤ command.body.length ∧ command.body.length ≤ largestBody := by
  cases command <;> exact ⟨by simp [body], by simp [body, bytes16, bytes32, largestBody]⟩

/-- The assignments to the packet are what `server_udp_send` frames. -/
theorem Server.sendCommand_sends (s : Server) {body : List UInt8}
    (short : body.length ≤ largestBody) :
    Memory.Ensures (s.sendCommand body) fun sent => sent.2 = frameOf serverId body := by
  have largest : largestBody = 61 := rfl
  have room : bodyDataSize = 64 := rfl
  have size : (UInt8.ofNat body.length).toNat = body.length := by
    rw [UInt8.toNat_ofNat']
    exact Nat.mod_eq_of_lt (by omega)
  unfold Server.sendCommand
  rw [Memory.ensures_bind, Memory.ensures_storeAll (Nat.zero_le _)]
  refine ⟨by omega, ?_⟩
  generalize assigning : ({ s with
    packet.data := Memory.overlay s.packet.data 0 body
    packet.size := UInt8.ofNat body.length } : Server) = assigned
  have counted : assigned.packet.size.toNat ≤ largestBody := by
    rw [← assigning]
    exact size.trans_le short
  have held : assigned.packet.body = body := by
    rw [← assigning, Packet.body, size, Memory.firstEntries_overlay s.packet.data (by omega)]
  exact (serverUdpSend_sends counted).mono fun sent framed => framed.2.trans (by rw [held])

/-- A line leads to the frame of its command. -/
theorem Server.userInputProcessData_sends (s : Server) (command : TypedCommand) {separator : UInt8}
    (ends : Separator separator) (rest : SerialReads) :
    Memory.Ensures (s.userInputProcessData (command.line separator ++ rest)) fun sent =>
      sent.2.1 = some (frameOf serverId command.body) := by
  unfold Server.userInputProcessData
  rw [consoleAction_line command ends rest, Memory.ensures_bind, Memory.ensures_ok,
    Memory.ensures_bind]
  refine (s.sendCommand_sends command.length_body.2).mono fun sent framed => ?_
  rw [Memory.ensures_pure, framed]

namespace Network

/-- The five-second ping neither loses the address nor fails. -/
theorem internetPing_keeps (n : Network) (now : Nat) (answers : ChipAnswers) :
    Memory.Ensures (n.internetPing now answers) fun pinged => pinged.ipRemote = n.ipRemote := by
  unfold internetPing
  rw [Memory.ensures_ite, Memory.ensures_bind, Memory.ensures_ok]
  refine ⟨fun _ => ?_, fun _ => rfl⟩
  unfold fillBody
  rw [Memory.ensures_bind, Memory.ensures_storeAll (Nat.zero_le _)]
  refine ⟨by decide, (Memory.ensures_pure _).mpr ?_⟩
  rw [Memory.ensures_bind]
  unfold internetSend
  rw [Memory.ensures_ite, Memory.ensures_ite]
  have left {sent : Network} (same : sent.ipRemote = n.ipRemote) :
      Memory.Ensures (.ok sent) fun sent =>
        Memory.Ensures (pure { sent with timePingSendLast := millis answers.later })
          fun pinged : Network => pinged.ipRemote = n.ipRemote :=
    (Memory.ensures_ok sent).mpr ((Memory.ensures_pure _).mpr same)
  exact ⟨fun _ => left rfl, fun _ => ⟨fun large => absurd large (show ¬ bodyDataSize < 2 by decide),
    fun _ => left rfl⟩⟩

/-- A ready Arduino with no packet pending takes a frame of the server that it knows. -/
theorem internetUpdate_takes {n : Network} {now : Nat} {answers : ChipAnswers}
    {datagram : Datagram} (ready : n.status = .ready) (idle : n.isReceiveWait = 0)
    (recent : millis now - n.timeReceiveLast < internetTimeReceiveLastMax)
    (arrived : answers.arrived = some datagram) (ip : datagram.ip = n.ipRemote)
    (port : datagram.port = internetRemotePort) {body : List UInt8}
    (frame : IsFrame serverId body datagram.bytes) :
    Memory.Ensures (n.internetUpdate now answers) fun after =>
      after.isReceiveWait = 1 ∧ after.packet.Carries body := by
  unfold internetUpdate
  rw [ready]
  dsimp only
  rw [if_neg (UInt32.not_le.mpr recent), if_neg (not_not_intro idle), Memory.ensures_bind]
  refine (n.internetPing_keeps now answers).mono fun pinged kept => ?_
  rw [arrived]
  exact internetPoll_takes answers.later (ip.trans kept.symm) port frame

end Network

/-! ## Dispatching -/

section

variable [FlowArithmetic] {s : System} (now : Nat) (answers : InterfaceAnswers)

/-- A body of the right size runs its case. -/
theorem interfaceSwitch_performs {command : Command}
    (taken : Command.ofByte (s.network.packet.data 0) = some command)
    (size : 1 + command.operands = s.network.packet.size) :
    s.interfaceSwitch now answers = do
      let performed ← s.perform now answers command
      return (performed, .broke) := by
  unfold System.interfaceSwitch
  rw [taken]
  dsimp only
  rw [if_neg (not_not_intro size)]

/-- The packet of a command runs its operation, with the operands as they were typed. -/
theorem interfaceSwitch_typed {command : TypedCommand}
    (carries : s.network.packet.Carries command.body) :
    s.interfaceSwitch now answers = do
      let performed ← command.run now answers s
      return (performed, .broke) := by
  have entry {index : Nat} {value : UInt8} (listed : command.body[index]? = some value)
      (inside : index < bodyDataSize) : s.network.packet.data ⟨index, inside⟩ = value :=
    data_of_carries carries listed inside
  have size : s.network.packet.size = UInt8.ofNat command.body.length := by
    rw [← carries.2, UInt8.ofNat_toNat]
  have performs {dispatched : Command} {byte : UInt8} (first : command.body[0]? = some byte)
      (taken : Command.ofByte byte = some dispatched)
      (counted : 1 + dispatched.operands = UInt8.ofNat command.body.length) :=
    interfaceSwitch_performs now answers
      ((congrArg Command.ofByte (entry first (by decide))).trans taken) (counted.trans size.symm)
  cases command with
  | reset | stop | resume | infoAll => exact performs rfl rfl rfl
  | deviceToggle device isActive =>
      have index : s.network.packet.data 1 = UInt8.ofNat device.value := entry rfl (by decide)
      have flag : s.network.packet.data 2 = digitFlag isActive := entry rfl (by decide)
      rw [performs rfl rfl rfl, System.perform, TypedCommand.run, index, flag, UInt8.toNat_ofNat']
  | ping =>
      have request : s.network.packet.data 1 = internetCommandPingValueRequest :=
        entry rfl (by decide)
      rw [performs rfl rfl rfl, System.perform, System.answerPing, if_pos request]
      rfl
  | start program isCleaning =>
      have number : s.network.packet.data 1 = UInt8.ofNat program.val := entry rfl (by decide)
      have flag : s.network.packet.data 2 = digitFlag isCleaning := entry rfl (by decide)
      have small : (UInt8.ofNat program.val).toNat = program.val := by
        rw [UInt8.toNat_ofNat']
        exact Nat.mod_eq_of_lt (by omega)
      rw [performs rfl rfl rfl, System.perform, TypedCommand.run, number, flag, small]
  | deliverVolume volume =>
      have word : word16 (s.network.packet.data 1) (s.network.packet.data 2) =
          UInt16.ofNat volume.value := readWord16_of_carries carries rfl (by decide)
      rw [performs rfl rfl rfl, System.perform, TypedCommand.run, word]
  | deliverTime time =>
      have word : word16 (s.network.packet.data 1) (s.network.packet.data 2) =
          UInt16.ofNat time.value := readWord16_of_carries carries rfl (by decide)
      rw [performs rfl rfl rfl, System.perform, TypedCommand.run, word]
  | programDuration duration =>
      have word : word32 (s.network.packet.data 1) (s.network.packet.data 2)
          (s.network.packet.data 3) (s.network.packet.data 4) =
          UInt32.ofNatLT duration.value duration.value_lt :=
        readWord32_of_carries carries rfl (by decide)
      rw [performs rfl rfl rfl, System.perform, TypedCommand.run, word]
  | isSendInfo isSend =>
      have flag : s.network.packet.data 1 = digitFlag isSend := entry rfl (by decide)
      rw [performs rfl rfl rfl, System.perform, TypedCommand.run, flag]
  | isFaultyDetectionActive isActive =>
      have flag : s.network.packet.data 1 = digitFlag isActive := entry rfl (by decide)
      rw [performs rfl rfl rfl, System.perform, TypedCommand.run, flag]

/-- `interface_process_data` runs the operation, on a packet that is then released. -/
theorem interfaceProcessData_typed {command : TypedCommand}
    (waiting : s.network.isReceiveWait ≠ 0) (carries : s.network.packet.Carries command.body) :
    s.interfaceProcessData now answers = do
      let performed ← command.run now answers
        (s.withNetwork (s.network.record (.dispatched command.body)))
      return performed.withNetwork { performed.network with isReceiveWait := 0 } := by
  have same : ({ s with
      network := s.network.record (.dispatched s.network.packet.body) } : System) =
      s.withNetwork (s.network.record (.dispatched command.body)) := by
    rw [carries.1]
    rfl
  have recorded : (s.withNetwork
      (s.network.record (.dispatched command.body))).network.packet.Carries command.body := carries
  unfold System.interfaceProcessData
  rw [if_pos waiting, same, System.processPacket, interfaceSwitch_typed now answers recorded]
  cases command.run now answers (s.withNetwork (s.network.record (.dispatched command.body))) with
  | error outside => rfl
  | ok performed => rfl

end

/-- Operator commands arrive as typed. The line of a command makes the server send one frame;
when a ready Arduino with no pending packet receives it from the server that it knows, the
dispatcher runs the operation of the command with the typed operands. -/
theorem commands_arrive_as_typed [FlowArithmetic] (command : TypedCommand) {separator : UInt8}
    (ends : Separator separator) (rest : SerialReads) (server : Server) :
    Memory.Ensures (server.userInputProcessData (command.line separator ++ rest)) fun sent =>
      ∃ frame, sent.2.1 = some frame ∧
        ∀ (s : System) (now : Nat) (chip : ChipAnswers) (datagram : Datagram),
          s.network.status = .ready → s.network.isReceiveWait = 0 →
          millis now - s.network.timeReceiveLast < internetTimeReceiveLastMax →
          chip.arrived = some datagram → datagram.bytes = frame →
          datagram.ip = s.network.ipRemote → datagram.port = internetRemotePort →
          Memory.Ensures (s.network.internetUpdate now chip) fun n =>
            ∀ later answers, (s.withNetwork n).interfaceProcessData later answers = do
              let performed ← command.run later answers
                (s.withNetwork (n.record (.dispatched command.body)))
              return performed.withNetwork { performed.network with isReceiveWait := 0 } := by
  refine (server.userInputProcessData_sends command ends rest).mono fun sent framed => ?_
  refine ⟨frameOf serverId command.body, framed, ?_⟩
  intro s now chip datagram ready idle recent arrived bytes ip port
  obtain ⟨nonempty, short⟩ := command.length_body
  have frame : IsFrame serverId command.body datagram.bytes :=
    ⟨bytes, nonempty, short.trans (by decide)⟩
  refine (Network.internetUpdate_takes ready idle recent arrived ip port frame).mono
    fun n received later answers => ?_
  have waiting : (s.withNetwork n).network.isReceiveWait ≠ 0 := by
    rw [System.withNetwork_network, received.1]
    decide
  exact interfaceProcessData_typed later answers waiting received.2

/-- The line `ca10`, and its frame a second after the Arduino has come up. -/
theorem commands_arrive_as_typed_start :
    let start : Datagram :=
      ⟨167772161, internetRemotePort, frameOf serverId [83, 1, 0], by decide⟩
    let input := onlyReceives 4000 start
    let arduino := System.setup 3000 input.chip
    ∃ sent, ServerMemory.unset.udp.userInputProcessData ((TypedCommand.start 1 0).line 10) =
        .ok sent ∧
      sent.2.1 = some start.bytes ∧
      Memory.Ensures (arduino.network.internetUpdate 4000 input.chip) fun n =>
        (arduino.withNetwork n).interfaceProcessData 4000 input.answers = do
          let performed ← (TypedCommand.start 1 0).run 4000 input.answers
            (arduino.withNetwork (n.record (.dispatched [83, 1, 0])))
          return performed.withNetwork { performed.network with isReceiveWait := 0 } := by
  intro start input arduino
  obtain ⟨sent, processed, frame, sends, takes⟩ :=
    commands_arrive_as_typed (.start 1 0) (by decide : Separator 10) [] ServerMemory.unset.udp
  obtain ⟨_, again, framed⟩ := ServerMemory.unset.udp.userInputProcessData_sends (.start 1 0)
    (by decide : Separator 10) []
  obtain rfl := Except.ok.inj (processed.symm.trans again)
  have bytes : start.bytes = frame := Option.some.inj (framed.symm.trans sends)
  refine ⟨sent, processed, framed, ?_⟩
  exact (takes arduino 4000 input.chip start (by decide) (by decide) (by decide) rfl bytes
    (by decide) rfl).mono fun n dispatched => dispatched 4000 input.answers

end BlueberryIrrigation
