import BlueberryIrrigation.Controller.State
import BlueberryIrrigation.Network.Packet

/-!
# The Arduino's network (`internet.cpp`)

The Ethernet chip's answers are arguments: whether DHCP, DNS and the socket calls succeed, and
the datagram that `parsePacket` finds. `events` is what the source does not keep: the writes to
the chip's reset pin, the frames sent and accepted, and the bodies dispatched.
-/

namespace BlueberryIrrigation

open Semantics

/-- `Internet_status` -/
inductive InternetStatus where
  | uninitialized
  | restarting
  | initializing
  | ready
deriving DecidableEq, Repr

inductive NetworkEvent where
  /-- `digitalWrite(INTERNET_PIN_RESET, …)` -/
  | resetPin (isHigh : Bool)
  /-- A frame handed to the chip. -/
  | sent (ip : UInt32) (port : UInt16) (frame : List UInt8)
  /-- `internet_receive` has accepted the datagram with these bytes. -/
  | accepted (frame : List UInt8)
  /-- `interface_process_data` goes to its `switch` with this body of a received packet. -/
  | dispatched (body : List UInt8)
deriving DecidableEq

/-- The variables of `internet.cpp`. -/
structure Network where
  status : InternetStatus
  timeRestartLast : UInt32
  timeReceiveLast : UInt32
  timePingSendLast : UInt32
  ipRemote : UInt32
  packet : Packet
  isReceiveWait : Flag
  udp : EthernetUdp
  events : List NetworkEvent

/-- `INTERNET_REMOTE_PORT` -/
def internetRemotePort : UInt16 := 5432

/-- `INTERNET_TIME_RESTART_WAIT` -/
def internetTimeRestartWait : UInt32 := 3000

/-- `INTERNET_TIME_RECEIVE_LAST_MAX` -/
def internetTimeReceiveLastMax : UInt32 := 17000

/-- `INTERNET_TIME_PING_SEND_INTERVAL` -/
def internetTimePingSendInterval : UInt32 := 5000

/-- `INTERNET_COMMAND_PING` -/
def internetCommandPing : UInt8 := 211

/-- `INTERNET_COMMAND_PING_VALUE_REQUEST` -/
def internetCommandPingValueRequest : UInt8 := 10

/-- `INTERNET_COMMAND_PING_VALUE_ANSWER` -/
def internetCommandPingValueAnswer : UInt8 := 20

/-- What the Ethernet library answers to the calls of one `internet_update` or
`internet_restart_soft`. -/
structure ChipAnswers where
  /-- `Ethernet.begin`, the DHCP request. -/
  ethernetBegins : Bool
  /-- `udp.begin` -/
  udpBegins : Bool
  /-- `dns.getHostByName` of the server's name. -/
  resolved : Option UInt32
  /-- `udp.beginPacket` and `udp.endPacket` of the ping. -/
  isSent : Bool
  /-- The datagram that `udp.parsePacket` finds. -/
  arrived : Option Datagram
  /-- The time after the calls that may block. -/
  later : Nat

namespace Network

def record (event : NetworkEvent) (n : Network) : Network := { n with events := event :: n.events }

/-- The assignments of `internet_packet_body.data[0]` onwards and of the size. -/
def fillBody (bytes : List UInt8) (n : Network) : Except OutOfBounds Network := do
  let data ← Memory.storeAll n.packet.data 0 bytes
  return { n with packet.data := data, packet.size := UInt8.ofNat bytes.length }

/-- The frame that `internet_send` writes. -/
def frame (packet : Packet) : List UInt8 :=
  [wrapperByteStart, packet.size + headerSize, packet.id] ++ packet.body ++ [wrapperByteEnd]

/-- `internet_send()`, where `isSent` says whether the chip begins and ends the packet. -/
def internetSend (isSent : Bool) (n : Network) : Except OutOfBounds Network :=
  if n.status ≠ .ready ∨ isSent = false then .ok n
  else if bodyDataSize < n.packet.size.toNat then .error ⟨bodyDataSize, bodyDataSize⟩
  else .ok (n.record (.sent n.packet.ip n.packet.port (frame n.packet)))

/-- `internet_ip_remote_update()`, and what it returns. -/
def internetIpRemoteUpdate (resolved : Option UInt32) (n : Network) : Network × Bool :=
  if n.status ≠ .ready then (n, false)
  else
    match resolved with
    | none => (n, false)
    | some ip => ({ n with ipRemote := ip, packet.ip := ip }, true)

/-- `internet_restart_hard()` -/
def internetRestartHard (now : Nat) (n : Network) : Network :=
  { n.record (.resetPin false) with timeRestartLast := millis now, status := .restarting }

/-- `internet_restart_soft()` -/
def internetRestartSoft (now : Nat) (answers : ChipAnswers) (n : Network) : Network :=
  let started := { n with timeReceiveLast := millis now, status := .uninitialized }
  if answers.ethernetBegins = false then started
  else if answers.udpBegins = false then started
  else
    let ready := { started with status := .ready, udp.remaining := [] }
    match ready.internetIpRemoteUpdate answers.resolved with
    | (failed, false) => failed
    | (resolved, true) => { resolved with timeReceiveLast := millis answers.later }

/-- `internet_troubleshoot()` -/
def internetTroubleshoot (now : Nat) (n : Network) : Network := n.internetRestartHard now

/-- One `udp.read()` has taken its byte. -/
def readNext (n : Network) : Network := { n with udp := n.udp.next }

/-- `data[counter] = udp.read()`, `remaining` times. -/
def receiveBody : Nat → Nat → Network → Except OutOfBounds Network
  | _, 0, n => .ok n
  | counter, remaining + 1, n => do
      let data ← Memory.store n.packet.data counter n.udp.readByte
      receiveBody (counter + 1) remaining { n with packet.data := data, udp := n.udp.next }

/-- `internet_receive()`. The flushes do nothing to a packet that is being read. -/
def internetReceive (now : Nat) (n : Network) : Except OutOfBounds Network := do
  let frame := n.udp.remaining
  if n.udp.remoteIp ≠ n.ipRemote then return n
  if n.udp.remotePort ≠ internetRemotePort then return n
  let n := { n with timeReceiveLast := millis now }
  if packetSizeMax < n.packet.size then return n
  if n.packet.size < wrapperSize then return n
  let start := n.udp.read
  let n := n.readNext
  if start ≠ some wrapperByteStart then return n
  let n := { n with packet := n.packet.shrink wrapperSize }
  let size := n.udp.read
  let n := n.readNext
  if size ≠ some n.packet.size then return n
  let n := { n with packet := n.packet.shrink headerSize }
  if n.packet.size = 0 then return n
  let id := n.udp.read
  let n := n.readNext
  if id ≠ some serverId then return n
  let n ← n.receiveBody 0 n.packet.size.toNat
  let end_ := n.udp.read
  let n := n.readNext
  if end_ ≠ some wrapperByteEnd then return n
  return { n.record (.accepted frame) with isReceiveWait := 1 }

/-- `size = udp.parsePacket()` -/
def parsePacket (arrived : Option Datagram) (n : Network) : Network :=
  { n with
    udp := n.udp.parsePacket arrived
    packet.size := UInt8.ofNat (arrived.elim 0 fun datagram => datagram.bytes.length)
    packet.subtractions := [] }

/-- `if((size = udp.parsePacket())) internet_receive();` -/
def internetPoll (now : Nat) (arrived : Option Datagram) (n : Network) :
    Except OutOfBounds Network :=
  let parsed := n.parsePacket arrived
  if parsed.packet.size ≠ 0 then parsed.internetReceive now else .ok parsed

/-- The ping that `internet_update` sends every five seconds. -/
def internetPing (now : Nat) (answers : ChipAnswers) (n : Network) : Except OutOfBounds Network :=
  if internetTimePingSendInterval ≤ millis now - n.timePingSendLast then do
    let filled ← n.fillBody [internetCommandPing, internetCommandPingValueRequest]
    let sent ← filled.internetSend answers.isSent
    return { sent with timePingSendLast := millis answers.later }
  else .ok n

/-- `internet_update()` -/
def internetUpdate (now : Nat) (answers : ChipAnswers) (n : Network) :
    Except OutOfBounds Network :=
  match n.status with
  | .restarting =>
      if millis now - n.timeRestartLast < internetTimeRestartWait then .ok n
      else
        .ok { n.record (.resetPin true) with
          status := .initializing
          timeRestartLast := millis now }
  | .initializing =>
      if millis now - n.timeRestartLast < internetTimeRestartWait then .ok n
      else .ok (n.internetRestartSoft now answers)
  | .uninitialized =>
      if internetTimeReceiveLastMax ≤ millis now - n.timeReceiveLast then
        .ok (n.internetTroubleshoot now)
      else .ok n
  | .ready =>
      if internetTimeReceiveLastMax ≤ millis now - n.timeReceiveLast then
        .ok (n.internetTroubleshoot now)
      else if n.isReceiveWait ≠ 0 then .ok n
      else do
        let pinged ← n.internetPing now answers
        pinged.internetPoll answers.later answers.arrived

/-- The variables before `setup()` runs. -/
def unset : Network where
  status := .uninitialized
  timeRestartLast := 0
  timeReceiveLast := 0
  timePingSendLast := 0
  ipRemote := 0
  packet :=
    { ip := 0
      port := 0
      id := 0
      data := fun _ => 0
      size := 0
      subtractions := [] }
  isReceiveWait := 0
  udp := ⟨0, 0, []⟩
  events := []

/-- `internet_init()` -/
def internetInit (now : Nat) (answers : ChipAnswers) (n : Network) : Network :=
  let initialised :=
    { n.record (.resetPin true) with packet.port := internetRemotePort, packet.id := arduinoId }
  initialised.internetRestartSoft now answers

/-! ## The body -/

/-- The packet holds these bytes as its body, and nothing else has changed. -/
structure Filled (bytes : List UInt8) (before after : Network) : Prop where
  body : after.packet.body = bytes
  size : after.packet.size.toNat = bytes.length
  kept : ∃ data size, after = { before with packet.data := data, packet.size := size }

/-- A body that fits is filled in as it is. -/
theorem fillBody_fits (n : Network) {bytes : List UInt8} (fits : bytes.length ≤ bodyDataSize) :
    Memory.Ensures (n.fillBody bytes) (Filled bytes n) := by
  have size : (UInt8.ofNat bytes.length).toNat = bytes.length := by
    rw [UInt8.toNat_ofNat']
    exact Nat.mod_eq_of_lt (Nat.lt_of_le_of_lt fits (by decide))
  unfold fillBody
  rw [Memory.storeAll_fits n.packet.data (by omega), Memory.ensures_bind, Memory.ensures_ok,
    Memory.ensures_pure]
  refine ⟨?_, size, _, _, rfl⟩
  rw [Packet.body, size, Memory.firstEntries_overlay n.packet.data fits]

/-- The copy succeeds when the body fits, and lays the bytes read over the packet's data. -/
theorem ensures_receiveBody {counter remaining : Nat} {n : Network} {property : Network → Prop}
    (room : counter ≤ bodyDataSize) :
    Memory.Ensures (n.receiveBody counter remaining) property ↔
      counter + remaining ≤ bodyDataSize ∧
        property { n with
          packet.data := Memory.overlay n.packet.data counter (n.udp.bytes remaining)
          udp := n.udp.skip remaining } := by
  induction remaining generalizing counter n with
  | zero => simp [receiveBody, EthernetUdp.bytes, EthernetUdp.skip, room]
  | succ remaining ih =>
      simp only [receiveBody, Memory.ensures_bind, Memory.ensures_store]
      constructor
      · rintro ⟨inside, copied⟩
        obtain ⟨fits, holds⟩ := (ih inside).mp copied
        refine ⟨by omega, ?_⟩
        rw [EthernetUdp.bytes, Memory.overlay_cons _ inside, ← EthernetUdp.skip_next]
        exact holds
      · rintro ⟨fits, holds⟩
        have inside : counter < bodyDataSize := by omega
        refine ⟨inside, (ih inside).mpr ⟨by omega, ?_⟩⟩
        rw [EthernetUdp.bytes, Memory.overlay_cons _ inside, ← EthernetUdp.skip_next] at holds
        exact holds

end Network
end BlueberryIrrigation
