import BlueberryIrrigation.Ethernet.Waiting

/-!
# Resolving a host name (`Dns.cpp`)

`DNSClient` asks a server for the address of a host and picks the first address out of its answer.
It reads the answer with `EthernetUDP::read`, which leaves a variable as it was where nothing is
left to be read, so the variables that the source does not initialise are parameters here. The
loops over a name have no bound of their own: they run for so many rounds, and `none` says that
they have not come to an end.
-/

namespace BlueberryIrrigation

open Semantics

/-- `INADDR_NONE` -/
def inaddrNone : UInt32 := 0

/-- `DNS_PORT` -/
def dnsPort : UInt16 := 53

/-- `DNS_HEADER_SIZE` -/
def dnsHeaderSize : UInt16 := 12

/-- `TTL_SIZE` -/
def ttlSize : UInt16 := 4

/-- `TYPE_A` -/
def typeA : UInt16 := 1

/-- `CLASS_IN` -/
def classIn : UInt16 := 1

/-- `RESPONSE_FLAG` and `QUERY_RESPONSE_MASK` -/
def responseFlag : UInt16 := 0x8000

/-- `TRUNCATION_FLAG` -/
def truncationFlag : UInt16 := 0x0200

/-- `RECURSION_DESIRED_FLAG`, with `QUERY_FLAG` and `OPCODE_STANDARD_QUERY`, which are 0. -/
def recursionDesiredFlag : UInt16 := 0x0100

/-- `RESP_MASK` -/
def respMask : UInt16 := 15

/-- `LABEL_COMPRESSION_MASK` -/
def labelCompressionMask : UInt8 := 0xC0

/-- `htons` -/
def htons (word : UInt16) : UInt16 := word >>> 8 ||| word <<< 8

/-- The codes that `ProcessResponse` returns, as its `uint16_t`. The last three have no name in
the source. -/
inductive DnsCode where
  | success
  | timedOut
  | invalidServer
  | truncated
  | invalidResponse
  | responseError
  | noAnswers
  | weirdSize
  | noAddress
deriving DecidableEq, Repr

/-- The code as `getHostByName` returns it. -/
def DnsCode.value : DnsCode → Int16
  | success => 1
  | timedOut => -1
  | invalidServer => -2
  | truncated => -3
  | invalidResponse => -4
  | responseError => -5
  | noAnswers => -6
  | weirdSize => -9
  | noAddress => -10

/-- `htons` of a `uint16_t` that these bytes have been read into. -/
def netWord (bytes : List UInt8) : UInt16 := htons (word16 (bytes.getD 0 0) (bytes.getD 1 0))

/-- What the variables hold that the source declares in the body of the loop over the answers. -/
structure AnswerLocals where
  len : UInt8
  answerType : UInt16
  answerClass : UInt16

/-- What the environment does in one call of `ProcessResponse`: the clock at its begin, what each
`parsePacket` finds and the clock behind it, and what is in the variables of the loops. -/
structure ResponseInput where
  startTime : Nat
  polls : List (Option Datagram × Nat)
  questionLen : Nat → UInt8
  answerLocals : Nat → AnswerLocals

namespace Dns

/-! ## Reading a response -/

/-- The loop over a name, which in the answers a pointer may end. -/
def skipName (pointers : Bool) : Nat → UInt8 → EthernetUdp → Option EthernetUdp
  | 0, _, _ => none
  | rounds + 1, len, udp =>
      let len := udp.read.getD len
      if pointers = true ∧ len &&& labelCompressionMask ≠ 0 then some (udp.next.skip 1)
      else
        let udp := if 0 < len then udp.next.skip len.toNat else udp.next
        if len ≠ 0 then skipName pointers rounds len udp else some udp

/-- The loop over the questions. -/
def skipQuestions (rounds : Nat) (questionLen : Nat → UInt8) :
    Nat → EthernetUdp → Option EthernetUdp
  | 0, udp => some udp
  | count + 1, udp => do
      let udp ← skipName false rounds (questionLen count) udp
      skipQuestions rounds questionLen count (udp.skip 4)

/-- The loop over the answers. `headerFlags` is the variable that their lengths go into. -/
def readAnswers (rounds : Nat) (answerLocals : Nat → AnswerLocals) :
    Nat → List UInt8 → UInt32 → EthernetUdp → Option (DnsCode × UInt32 × EthernetUdp)
  | 0, _, aAddress, udp => some (.noAddress, aAddress, udp)
  | count + 1, headerFlags, aAddress, udp => do
      let udp ← skipName true rounds (answerLocals count).len udp
      let (answerType, udp) := udp.readInto (bytes16 (answerLocals count).answerType)
      let (answerClass, udp) := udp.readInto (bytes16 (answerLocals count).answerClass)
      let udp := udp.skip ttlSize.toNat
      let (headerFlags, udp) := udp.readInto headerFlags
      if netWord answerType = typeA ∧ netWord answerClass = classIn then
        if netWord headerFlags ≠ 4 then return (.weirdSize, aAddress, udp)
        else
          let (address, udp) := udp.readInto (bytes32 aAddress)
          return (.success, word32 (address.getD 0 0) (address.getD 1 0) (address.getD 2 0)
            (address.getD 3 0), udp)
      else
        readAnswers rounds answerLocals count headerFlags aAddress
          (udp.skip (netWord headerFlags).toNat)

/-- `ProcessResponse`, from the packet on that it has waited for. -/
def processPacket (rounds : Nat) (iDnsServer : UInt32) (iRequestId : UInt16)
    (input : ResponseInput) (aAddress : UInt32) (udp : EthernetUdp) :
    Option (DnsCode × UInt32 × EthernetUdp) := do
  if iDnsServer ≠ udp.remoteIp ∨ udp.remotePort ≠ dnsPort then
    return (.invalidServer, aAddress, udp)
  if udp.remaining.length < dnsHeaderSize.toNat then return (.truncated, aAddress, udp)
  let header := udp.remaining.take dnsHeaderSize.toNat
  let udp := udp.skip dnsHeaderSize.toNat
  let headerFlags := htons (word16 (header.getD 2 0) (header.getD 3 0))
  if iRequestId ≠ word16 (header.getD 0 0) (header.getD 1 0) ∨
      headerFlags &&& responseFlag ≠ responseFlag then
    return (.invalidResponse, aAddress, udp)
  if headerFlags &&& truncationFlag ≠ 0 ∨ headerFlags &&& respMask ≠ 0 then
    return (.responseError, aAddress, udp)
  let answerCount := htons (word16 (header.getD 6 0) (header.getD 7 0))
  if answerCount = 0 then return (.noAnswers, aAddress, udp)
  let questionCount := htons (word16 (header.getD 4 0) (header.getD 5 0))
  let udp ← skipQuestions rounds input.questionLen questionCount.toNat udp
  readAnswers rounds input.answerLocals answerCount.toNat (bytes16 headerFlags) aAddress udp

/-- `ProcessResponse(aTimeout, aAddress)` -/
def processResponse (rounds : Nat) (iDnsServer : UInt32) (iRequestId aTimeout : UInt16)
    (input : ResponseInput) (aAddress : UInt32) (udp : EthernetUdp) :
    Option (DnsCode × UInt32 × EthernetUdp) := do
  let (arrived, udp) ← udp.awaitPacket input.startTime aTimeout.toUInt32 input.polls
  if arrived then processPacket rounds iDnsServer iRequestId input aAddress udp
  else return (.timedOut, aAddress, udp)

/-! ## Asking -/

/-- A section of the name, from `start` to `end`. -/
def writeSection (bytes : List UInt8) : List UInt8 :=
  if 0 < bytes.length then UInt8.ofNat bytes.length :: bytes else []

/-- What the loop of `BuildRequest` writes of a name behind the section that it has begun. -/
def writeName (begun : List UInt8) : List UInt8 → List UInt8
  | [] => writeSection begun
  | byte :: rest =>
      if byte = 46 then writeSection begun ++ writeName [] rest
      else writeName (begun ++ [byte]) rest

/-- What `BuildRequest(aName)` writes, one `iUdp.write` behind the other. -/
def buildRequest (iRequestId : UInt16) (aName : List UInt8) : List UInt8 :=
  bytes16 iRequestId ++ bytes16 (htons recursionDesiredFlag) ++ bytes16 (htons 1) ++ bytes16 0 ++
    bytes16 0 ++ bytes16 0 ++ writeName [] aName ++ [0] ++ bytes16 (htons typeA) ++
    bytes16 (htons classIn)

/-! ## Resolving -/

/-- The loop of `inet_aton`, and what it leaves in the four bytes of `result`. -/
def inetAton : List UInt8 → UInt16 → Nat → List UInt8 → Bool × List UInt8
  | [], acc, dots, result => if dots ≠ 3 then (false, result) else (true, result.set 3 acc.toUInt8)
  | c :: address, acc, dots, result =>
      if 48 ≤ c ∧ c ≤ 57 then
        let acc := acc * 10 + (c.toUInt16 - 48)
        if 255 < acc then (false, result) else inetAton address acc dots result
      else if c = 46 then
        if dots = 3 then (false, result)
        else inetAton address 0 (dots + 1) (result.set dots acc.toUInt8)
      else (false, result)

/-- What the environment answers to one call of `getHostByName`. -/
structure HostInput where
  isBegun : Bool
  isPacketBegun : Bool
  isSent : Bool
  /-- The clock in `BuildRequest`. -/
  requestTime : Nat
  responses : Fin 3 → ResponseInput

/-- The loop that waits for a response. -/
def awaitResponse (rounds : Nat) (iDnsServer : UInt32) (iRequestId timeout : UInt16) :
    List ResponseInput → UInt32 → EthernetUdp → Option (DnsCode × UInt32 × EthernetUdp)
  | [], aResult, udp => some (.timedOut, aResult, udp)
  | input :: inputs, aResult, udp => do
      let (code, aResult, udp) ←
        processResponse rounds iDnsServer iRequestId timeout input aResult udp
      if code = .timedOut then awaitResponse rounds iDnsServer iRequestId timeout inputs aResult udp
      else return (code, aResult, udp)

/-- `getHostByName(aHostname, aResult, timeout)`: what it returns, `aResult` behind it, and the
request that it has sent. -/
def getHostByName (rounds : Nat) (iDnsServer : UInt32) (aHostname : List UInt8) (timeout : UInt16)
    (input : HostInput) (aResult : UInt32) (udp : EthernetUdp) :
    Option (Int16 × UInt32 × Option (List UInt8)) := do
  let (numeric, result) := inetAton aHostname 0 0 (bytes32 aResult)
  let aResult := word32 (result.getD 0 0) (result.getD 1 0) (result.getD 2 0) (result.getD 3 0)
  if numeric then return (1, aResult, none)
  if iDnsServer = inaddrNone then return (DnsCode.invalidServer.value, aResult, none)
  if input.isBegun = false ∨ input.isPacketBegun = false ∨ input.isSent = false then
    return (0, aResult, none)
  let iRequestId := (millis input.requestTime).toUInt16
  let (code, aResult, _) ← awaitResponse rounds iDnsServer iRequestId timeout
    [input.responses 0, input.responses 1, input.responses 2] aResult { udp with remaining := [] }
  return (code.value, aResult, some (buildRequest iRequestId aHostname))

end Dns
end BlueberryIrrigation
