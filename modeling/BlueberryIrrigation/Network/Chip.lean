import BlueberryIrrigation.Network.Internet
import BlueberryIrrigation.Semantics.Monitor

/-!
# The Ethernet chip as `internet.cpp` drives it

Each function of `internet.cpp` has here, beside the state that it leaves, what it does to the
chip: its writes to the reset pin and its calls to the Ethernet, DNS and UDP libraries, in the
order of the source. `chipMonitor` is the discipline that the chip asks for.
-/

namespace BlueberryIrrigation

open Semantics

/-- The library calls of `internet.cpp`. Of their results only those that the discipline asks
about are kept. -/
inductive LibraryCall where
  | ethernetInit
  | ethernetBegin (succeeds : Bool)
  | ethernetHardwareStatus
  | ethernetLinkStatus
  | ethernetSetRetransmissionCount
  | ethernetSetRetransmissionTimeout
  | ethernetDnsServerIp
  | dnsBegin
  | dnsGetHostByName
  | udpStop
  | udpBegin (succeeds : Bool)
  | udpBeginPacket
  | udpWrite
  | udpEndPacket
  | udpParsePacket
  | udpRemoteIp
  | udpRemotePort
  | udpRead
  | udpFlush
deriving DecidableEq, Repr

/-- The UDP calls that send or receive. -/
def LibraryCall.transfers : LibraryCall → Bool
  | .udpBeginPacket | .udpWrite | .udpEndPacket | .udpParsePacket | .udpRemoteIp | .udpRemotePort
  | .udpRead | .udpFlush => true
  | _ => false

inductive ChipEvent where
  /-- `digitalWrite(INTERNET_PIN_RESET, …)` -/
  | resetPin (isHigh : Bool)
  | call (call : LibraryCall)
deriving DecidableEq, Repr

/-- What the libraries answer to the calls of one function. `Ethernet.linkStatus` only chooses a
line of the debug log. -/
structure LibraryAnswers where
  ethernetBegins : Bool
  /-- `Ethernet.hardwareStatus() != EthernetNoHardware` -/
  hasHardware : Bool
  udpBegins : Bool
  resolved : Option UInt32
  packetBegins : Bool
  packetEnds : Bool
  arrived : Option Datagram
  later : Nat

/-- The packet has been sent when the chip has begun and ended it. -/
def LibraryAnswers.chip (answers : LibraryAnswers) : ChipAnswers where
  ethernetBegins := answers.ethernetBegins
  udpBegins := answers.udpBegins
  resolved := answers.resolved
  isSent := answers.packetBegins && answers.packetEnds
  arrived := answers.arrived
  later := answers.later

/-! ## What the functions do to the chip -/

namespace Network

/-- The calls of `internet_send()`. -/
def internetSendEvents (answers : LibraryAnswers) (n : Network) : List ChipEvent :=
  if n.status ≠ .ready then []
  else if answers.packetBegins = false then [.call .udpBeginPacket]
  else
    [.call .udpBeginPacket, .call .udpWrite, .call .udpWrite, .call .udpWrite, .call .udpWrite,
      .call .udpWrite, .call .udpEndPacket]

/-- The calls of `internet_ip_remote_update()`. -/
def internetIpRemoteUpdateEvents (n : Network) : List ChipEvent :=
  if n.status ≠ .ready then [] else [.call .dnsGetHostByName]

/-- `internet_restart_hard()` and `internet_troubleshoot()` -/
def internetRestartHardEvents : List ChipEvent := [.resetPin false]

/-- The calls of `internet_restart_soft()`. -/
def internetRestartSoftEvents (answers : LibraryAnswers) (n : Network) : List ChipEvent :=
  if answers.ethernetBegins = false then
    .call (.ethernetBegin false) :: .call .ethernetHardwareStatus ::
      if answers.hasHardware = false then [] else [.call .ethernetLinkStatus]
  else
    [.call (.ethernetBegin true), .call .ethernetSetRetransmissionCount,
      .call .ethernetSetRetransmissionTimeout, .call .ethernetDnsServerIp, .call .dnsBegin,
      .call .udpStop, .call (.udpBegin answers.udpBegins)] ++
      if answers.udpBegins = false then []
      else { n with status := .ready }.internetIpRemoteUpdateEvents

/-- The calls of `internet_receive()` that has read this often before it flushes the packet. -/
def readEvents (reads : Nat) : List ChipEvent :=
  .call .udpRemoteIp :: .call .udpRemotePort ::
    (List.replicate reads (.call .udpRead) ++ [.call .udpFlush])

/-- The calls of `internet_receive()`. -/
def internetReceiveEvents (n : Network) : List ChipEvent :=
  let body := n.packet.size - wrapperSize
  if n.udp.remoteIp ≠ n.ipRemote then [.call .udpRemoteIp, .call .udpFlush]
  else if n.udp.remotePort ≠ internetRemotePort then readEvents 0
  else if packetSizeMax < n.packet.size then readEvents 0
  else if n.packet.size < wrapperSize then readEvents 0
  else if n.udp.read ≠ some wrapperByteStart then readEvents 1
  else if n.udp.next.read ≠ some body then readEvents 2
  else if body - headerSize = 0 then readEvents 2
  else if n.udp.next.next.read ≠ some serverId then readEvents 3
  -- The loop reads the body, and one more read the end byte.
  else readEvents (3 + (body - headerSize).toNat + 1)

/-- `if((size = udp.parsePacket())) internet_receive();` -/
def internetPollEvents (arrived : Option Datagram) (n : Network) : List ChipEvent :=
  let parsed := n.parsePacket arrived
  .call .udpParsePacket :: if parsed.packet.size ≠ 0 then parsed.internetReceiveEvents else []

/-- The calls for the ping of `internet_update()`. -/
def internetPingEvents (now : Nat) (answers : LibraryAnswers) (n : Network) : List ChipEvent :=
  if internetTimePingSendInterval ≤ millis now - n.timePingSendLast then
    n.internetSendEvents answers
  else []

/-- What `internet_update()` does to the chip. -/
def internetUpdateEvents (now : Nat) (answers : LibraryAnswers) (n : Network) : List ChipEvent :=
  match n.status with
  | .restarting =>
      if millis now - n.timeRestartLast < internetTimeRestartWait then [] else [.resetPin true]
  | .initializing =>
      if millis now - n.timeRestartLast < internetTimeRestartWait then []
      else n.internetRestartSoftEvents answers
  | .uninitialized =>
      if internetTimeReceiveLastMax ≤ millis now - n.timeReceiveLast then
        internetRestartHardEvents
      else []
  | .ready =>
      if internetTimeReceiveLastMax ≤ millis now - n.timeReceiveLast then
        internetRestartHardEvents
      else if n.isReceiveWait ≠ 0 then []
      else
        n.internetPingEvents now answers ++
          match n.internetPing now answers.chip with
          | .ok pinged => pinged.internetPollEvents answers.arrived
          | .error _ => []

/-- What `internet_init()` does to the chip. -/
def internetInitEvents (answers : LibraryAnswers) (n : Network) : List ChipEvent :=
  [.resetPin true, .call .ethernetInit] ++ n.internetRestartSoftEvents answers

/-- The calls of the serial commands that fill the body and send it. -/
def sendBodyEvents (answers : LibraryAnswers) (bytes : List UInt8) (n : Network) :
    List ChipEvent :=
  match n.fillBody bytes with
  | .ok filled => filled.internetSendEvents answers
  | .error _ => []

/-- The values written to the reset pin, newest first. -/
def resetPins (n : Network) : List Bool :=
  n.events.filterMap fun
    | .resetPin isHigh => some isHigh
    | _ => none

end Network

/-! ## The discipline -/

/-- What the chip has seen. -/
structure ChipState where
  /-- The reset pin is LOW. -/
  isLow : Bool
  /-- `Ethernet.begin` has succeeded since the last hardware reset. -/
  ethernetBegun : Bool
  /-- `udp.begin` has succeeded since the last hardware reset. -/
  udpBegun : Bool
deriving DecidableEq, Repr

namespace ChipState

/-- Before `setup()`: the pin is an input. -/
def initial : ChipState := ⟨false, false, false⟩

def next (c : ChipState) : ChipEvent → ChipState
  | .resetPin isHigh => if isHigh then { c with isLow := false } else ⟨true, false, false⟩
  | .call (.ethernetBegin succeeds) => { c with ethernetBegun := c.ethernetBegun || succeeds }
  | .call (.udpBegin succeeds) => { c with udpBegun := c.udpBegun || succeeds }
  | .call _ => c

/-- No library call while the pin is LOW, and no sending or receiving before both `begin`. -/
def Permits (c : ChipState) : ChipEvent → Prop
  | .resetPin _ => True
  | .call call =>
      c.isLow = false ∧ (call.transfers = true → c.ethernetBegun = true ∧ c.udpBegun = true)

end ChipState

def chipMonitor : Monitor ChipState ChipEvent := ⟨ChipState.next, ChipState.Permits⟩

end BlueberryIrrigation
