import BlueberryIrrigation.Ethernet.Dns

/-!
# Leasing an address (`Dhcp.cpp`)

`DhcpClass` asks for an address whenever the network is started: it discovers a server, requests
the address that one has offered and takes it over when it is acknowledged. Every reply for the
client, whatever it is, writes its parameters straight into those of the lease.
-/

namespace BlueberryIrrigation

open Semantics

/-- `DHCP_SERVER_PORT` -/
def dhcpServerPort : UInt16 := 67

def dhcpBootRequest : UInt8 := 1

def dhcpBootReply : UInt8 := 2

/-- The message types. What `parseDHCPResponse` returns at a timeout is none of them. -/
def dhcpDiscover : UInt8 := 1

def dhcpOffer : UInt8 := 2

def dhcpRequest : UInt8 := 3

def dhcpAck : UInt8 := 5

def dhcpNak : UInt8 := 6

/-- `DHCP_FLAGSBROADCAST` -/
def dhcpFlagsBroadcast : UInt16 := 0x8000

/-- `MAGIC_COOKIE` -/
def magicCookie : UInt32 := 0x63825363

/-- `DEFAULT_LEASE` -/
def defaultLease : UInt32 := 900

/-- `sizeof(RIP_MSG_FIXED)` -/
def ripMsgFixedSize : Nat := 34

/-- `htonl` and `ntohl` -/
def htonl (word : UInt32) : UInt32 :=
  (word <<< 24 &&& (0xFF000000 : UInt32)) ||| (word <<< 8 &&& (0x00FF0000 : UInt32)) |||
    (word >>> 8 &&& (0x0000FF00 : UInt32)) ||| (word >>> 24 &&& (0x000000FF : UInt32))

/-- `iUdp.read` into four bytes. -/
def EthernetUdp.readWord (held : UInt32) (udp : EthernetUdp) : UInt32 × EthernetUdp :=
  let (bytes, udp) := udp.readInto (bytes32 held)
  (word32 (bytes.getD 0 0) (bytes.getD 1 0) (bytes.getD 2 0) (bytes.getD 3 0), udp)

/-- `_dhcp_state`, as far as it is used. -/
inductive DhcpState where
  | start
  | discover
  | request
  | leased
  | rerequest
deriving DecidableEq, Repr

/-- `DhcpClass`, beside its socket. -/
structure Dhcp where
  initialTransactionId : UInt32
  transactionId : UInt32
  macAddr : List UInt8
  localIp : UInt32
  subnetMask : UInt32
  gatewayIp : UInt32
  dhcpServerIp : UInt32
  dnsServerIp : UInt32
  leaseTime : UInt32
  t1 : UInt32
  t2 : UInt32
  renewInSec : UInt32
  rebindInSec : UInt32
  timeout : UInt32
  responseTimeout : UInt32
  lastCheckLeaseMillis : UInt32
  state : DhcpState

/-- What `send_DHCP_MESSAGE` puts into a message. -/
structure DhcpMessage where
  messageType : UInt8
  secondsElapsed : UInt16
  transactionId : UInt32
  macAddr : List UInt8
  localIp : UInt32
  dhcpServerIp : UInt32
deriving DecidableEq

namespace DhcpMessage

/-- A digit of `printByte`. -/
def hexDigit (c : UInt8) : UInt8 := if c < 10 then c + 48 else c + 65 - 10

/-- `printByte` -/
def printByte (n : UInt8) : List UInt8 := [hexDigit (n / 16), hexDigit (n % 16)]

/-- What `send_DHCP_MESSAGE` writes. -/
def bytes (message : DhcpMessage) : List UInt8 :=
  [dhcpBootRequest, 1, 6, 0] ++ bytes32 (htonl message.transactionId) ++
    bytes16 (htons message.secondsElapsed) ++ bytes16 (htons dhcpFlagsBroadcast) ++
    List.replicate 16 0 ++ message.macAddr ++ List.replicate 10 0 ++ List.replicate 192 0 ++
    bytes32 (htonl magicCookie) ++ [53, 1, message.messageType] ++
    [61, 7, 1] ++ message.macAddr ++ [12, 12, 87, 73, 90, 110, 101, 116] ++
    (message.macAddr.drop 3).flatMap printByte ++
    (if message.messageType = dhcpRequest then
      [50, 4] ++ bytes32 message.localIp ++ [54, 4] ++ bytes32 message.dhcpServerIp
    else []) ++
    [55, 6, 1, 3, 6, 15, 58, 59, 255]

end DhcpMessage

/-- What the environment does in one call of `parseDHCPResponse`, and what is in the variable that
the fixed part of the packet is read into. -/
structure DhcpInput where
  startTime : Nat
  polls : List (Option Datagram × Nat)
  fixedMsg : List UInt8
  fixed : fixedMsg.length = ripMsgFixedSize

namespace Dhcp

/-! ## Reading a reply -/

/-- The cases of the `switch` that read a length. The lengths of the parameters are not looked
at. -/
def readParameter (option optLen : UInt8) (d : Dhcp) (type : UInt8) (udp : EthernetUdp) :
    Dhcp × UInt8 × EthernetUdp :=
  match option.toNat with
  | 53 => (d, udp.readByte, udp.next)
  | 1 =>
      let (subnetMask, udp) := udp.readWord d.subnetMask
      ({ d with subnetMask }, type, udp)
  -- A length below 4 wraps around, and the rest of the packet is skipped.
  | 3 =>
      let (gatewayIp, udp) := udp.readWord d.gatewayIp
      ({ d with gatewayIp }, type, udp.skip (optLen.toUInt16 - 4).toNat)
  | 6 =>
      let (dnsServerIp, udp) := udp.readWord d.dnsServerIp
      ({ d with dnsServerIp }, type, udp.skip (optLen.toUInt16 - 4).toNat)
  | 54 =>
      if d.dhcpServerIp = 0 ∨ d.dhcpServerIp = udp.remoteIp then
        let (dhcpServerIp, udp) := udp.readWord d.dhcpServerIp
        ({ d with dhcpServerIp }, type, udp)
      else (d, type, udp.skip optLen.toNat)
  | 58 =>
      let (t1, udp) := udp.readWord d.t1
      ({ d with t1 := htonl t1 }, type, udp)
  | 59 =>
      let (t2, udp) := udp.readWord d.t2
      ({ d with t2 := htonl t2 }, type, udp)
  | 51 =>
      let (leaseTime, udp) := udp.readWord d.leaseTime
      ({ d with leaseTime := htonl leaseTime, renewInSec := htonl leaseTime }, type, udp)
  | _ => (d, type, udp.skip optLen.toNat)

/-- One round of the loop over the options. `endOption` does not end it. -/
def readOption (d : Dhcp) (type : UInt8) (udp : EthernetUdp) : Dhcp × UInt8 × EthernetUdp :=
  if udp.readByte = 255 ∨ udp.readByte = 0 then (d, type, udp.next)
  else readParameter udp.readByte udp.next.readByte d type udp.next.next

/-- The loop over the options. A round takes a byte, so it ends in as many rounds as there are
bytes. -/
def readOptions : Nat → Dhcp → UInt8 → EthernetUdp → Dhcp × UInt8 × EthernetUdp
  | 0, d, type, udp => (d, type, udp)
  | rounds + 1, d, type, udp =>
      if udp.remaining = [] then (d, type, udp)
      else
        let (d, type, udp) := d.readOption type udp
        readOptions rounds d type udp

/-- The fields of `RIP_MSG_FIXED` that are used. -/
def fixedXid (fixedMsg : List UInt8) : UInt32 :=
  htonl (word32 (fixedMsg.getD 4 0) (fixedMsg.getD 5 0) (fixedMsg.getD 6 0) (fixedMsg.getD 7 0))

def fixedYiaddr (fixedMsg : List UInt8) : UInt32 :=
  word32 (fixedMsg.getD 16 0) (fixedMsg.getD 17 0) (fixedMsg.getD 18 0) (fixedMsg.getD 19 0)

def fixedChaddr (fixedMsg : List UInt8) : List UInt8 := (fixedMsg.drop 28).take 6

/-- The packet is no reply for this client, or none to a message of this call. -/
def Rejects (d : Dhcp) (fixedMsg : List UInt8) : Prop :=
  fixedChaddr fixedMsg ≠ d.macAddr ∨ fixedXid fixedMsg < d.initialTransactionId ∨
    d.transactionId < fixedXid fixedMsg

instance decidableRejects (d : Dhcp) (fixedMsg : List UInt8) : Decidable (d.Rejects fixedMsg) :=
  inferInstanceAs (Decidable (_ ∨ _ ∨ _))

/-- `parseDHCPResponse`, from the packet on that it has waited for: the message type, the
transaction that it sets, and the parameters. -/
def parseReply (fixedMsg : List UInt8) (d : Dhcp) (udp : EthernetUdp) :
    UInt8 × Option UInt32 × Dhcp × EthernetUdp :=
  let (fixedMsg, udp) := udp.readInto fixedMsg
  if fixedMsg.getD 0 0 = dhcpBootReply ∧ udp.remotePort = dhcpServerPort then
    if d.Rejects fixedMsg then (0, some (fixedXid fixedMsg), d, udp)
    else
      let udp := udp.skip (240 - ripMsgFixedSize)
      let (d, type, udp) := readOptions udp.remaining.length
        { d with localIp := fixedYiaddr fixedMsg } 0 udp
      (type, some (fixedXid fixedMsg), d, udp)
  else (0, none, d, udp)

/-- `parseDHCPResponse(responseTimeout, transactionId)` -/
def parseDHCPResponse (input : DhcpInput) (d : Dhcp) (udp : EthernetUdp) :
    Option (UInt8 × Option UInt32 × Dhcp × EthernetUdp) := do
  let (arrived, udp) ← EthernetUdp.awaitPacket input.startTime d.responseTimeout input.polls udp
  if arrived then return parseReply input.fixedMsg d udp
  else return (255, none, d, udp)

/-! ## The lease -/

/-- What the environment does in one round of the loop of `request_DHCP_lease`: the clock when a
message is sent, a wait for a reply, and the clock behind the round. -/
structure LeaseInput where
  sendTime : Nat
  wait : DhcpInput
  endTime : Nat

/-- The variables of `request_DHCP_lease`, with the messages that it has sent. -/
structure LeaseRun where
  messageType : UInt8
  result : Bool
  dhcp : Dhcp
  udp : EthernetUdp
  sent : List DhcpMessage

/-- `send_DHCP_MESSAGE(messageType, (millis() - startTime) / 1000)` -/
def sendDhcpMessage (messageType : UInt8) (startTime sendTime : Nat) (d : Dhcp) : DhcpMessage where
  messageType
  secondsElapsed := ((millis sendTime - millis startTime) / 1000).toUInt16
  transactionId := d.transactionId
  macAddr := d.macAddr
  localIp := d.localIp
  dhcpServerIp := d.dhcpServerIp

/-- What `request_DHCP_lease` does with an acknowledgement. -/
def acknowledge (d : Dhcp) : Dhcp :=
  let d := { d with state := .leased }
  let d := if d.leaseTime = 0 then { d with leaseTime := defaultLease } else d
  let d := if d.t1 = 0 then { d with t1 := d.leaseTime >>> 1 } else d
  let d := if d.t2 = 0 then { d with t2 := d.leaseTime - d.leaseTime >>> 3 } else d
  { d with renewInSec := d.t1, rebindInSec := d.t2 }

/-- The states' part of a round. -/
def leaseState (startTime : Nat) (input : LeaseInput) (run : LeaseRun) : Option LeaseRun :=
  match run.dhcp.state with
  | .start =>
      let d := { run.dhcp with transactionId := run.dhcp.transactionId + 1 }
      some
        { run with
          dhcp := { d with state := .discover }
          sent := run.sent ++ [d.sendDhcpMessage dhcpDiscover startTime input.sendTime] }
  | .rerequest =>
      let d := { run.dhcp with transactionId := run.dhcp.transactionId + 1 }
      some
        { run with
          dhcp := { d with state := .request }
          sent := run.sent ++ [d.sendDhcpMessage dhcpRequest startTime input.sendTime] }
  | .discover => do
      let (messageType, respId, d, udp) ← run.dhcp.parseDHCPResponse input.wait run.udp
      let run := { run with messageType, dhcp := d, udp }
      if messageType = dhcpOffer then
        -- The offer may answer an earlier message of the call.
        let d := { d with transactionId := respId.getD d.transactionId }
        return { run with
          dhcp := { d with state := .request }
          sent := run.sent ++ [d.sendDhcpMessage dhcpRequest startTime input.sendTime] }
      return run
  | .request => do
      let (messageType, _, d, udp) ← run.dhcp.parseDHCPResponse input.wait run.udp
      let run := { run with messageType, dhcp := d, udp }
      if messageType = dhcpAck then return { run with dhcp := d.acknowledge, result := true }
      if messageType = dhcpNak then return { run with dhcp := { d with state := .start } }
      return run
  | .leased => some run

/-- A round of the loop, without its end. -/
def leaseRound (startTime : Nat) (input : LeaseInput) (run : LeaseRun) : Option LeaseRun := do
  let run ← leaseState startTime input run
  if run.messageType = 255 then
    return { run with messageType := 0, dhcp := { run.dhcp with state := .start } }
  return run

/-- The loop of `request_DHCP_lease`. When the rounds end, it has not come to an end. -/
def leaseLoop (startTime : Nat) : List LeaseInput → LeaseRun → Option LeaseRun
  | [], run => if run.dhcp.state = .leased then some run else none
  | input :: inputs, run =>
      if run.dhcp.state = .leased then some run
      else do
        let run ← leaseRound startTime input run
        if run.result = false ∧ run.dhcp.timeout < millis input.endTime - millis startTime then
          return run
        leaseLoop startTime inputs run

/-- `request_DHCP_lease()`: its result, what it leaves and what it has sent. -/
def requestDhcpLease (random : UInt32) (isBegun : Bool) (startTime endTime : Nat)
    (inputs : List LeaseInput) (d : Dhcp) (udp : EthernetUdp) :
    Option (Bool × Dhcp × List DhcpMessage) := do
  let d := { d with transactionId := random, initialTransactionId := random }
  if isBegun = false then return (false, d, [])
  let run ← leaseLoop startTime inputs ⟨0, false, d, { udp with remaining := [] }, []⟩
  return (run.result,
    { run.dhcp with
      transactionId := run.dhcp.transactionId + 1
      lastCheckLeaseMillis := millis endTime }, run.sent)

/-- `beginWithDHCP(mac, timeout, responseTimeout)`, up to its last call. -/
def beginWithDHCP (mac : List UInt8) (timeout responseTimeout : UInt32) (d : Dhcp) : Dhcp :=
  { d with
    leaseTime := 0
    t1 := 0
    t2 := 0
    timeout
    responseTimeout
    localIp := 0
    subnetMask := 0
    gatewayIp := 0
    dhcpServerIp := 0
    dnsServerIp := 0
    macAddr := mac
    state := .start }

end Dhcp
end BlueberryIrrigation
