import BlueberryIrrigation.Ethernet.Reply

/-!
# How a lease comes about

Whatever comes from the network, an address is taken over only at the end of a handshake: an offer
for this client has been heard, the offered address has been requested, and the request has been
acknowledged. The packets need not be well-formed for that: whatever is heard as an offer or as an
acknowledgement has a whole fixed part and an option with its type.
-/

namespace BlueberryIrrigation

open Semantics EthernetUdp

namespace Dhcp

/-! ## What a packet changes -/

/-- A packet writes the parameters of the lease and nothing else. -/
structure Kept (d t : Dhcp) : Prop where
  initialTransactionId : t.initialTransactionId = d.initialTransactionId
  transactionId : t.transactionId = d.transactionId
  macAddr : t.macAddr = d.macAddr
  state : t.state = d.state
  timeout : t.timeout = d.timeout
  responseTimeout : t.responseTimeout = d.responseTimeout

namespace Kept

variable {d t u : Dhcp}

theorem refl (d : Dhcp) : Kept d d := ⟨rfl, rfl, rfl, rfl, rfl, rfl⟩

theorem trans (first : Kept d t) (second : Kept t u) : Kept d u :=
  ⟨second.initialTransactionId.trans first.initialTransactionId,
    second.transactionId.trans first.transactionId, second.macAddr.trans first.macAddr,
    second.state.trans first.state, second.timeout.trans first.timeout,
    second.responseTimeout.trans first.responseTimeout⟩

end Kept

theorem readOption_kept (d : Dhcp) (type : UInt8) (udp : EthernetUdp) :
    Kept d (d.readOption type udp).1 ∧ (d.readOption type udp).1.localIp = d.localIp := by
  unfold readOption
  split
  · exact ⟨.refl d, rfl⟩
  · unfold readParameter
    split
    all_goals try exact ⟨⟨rfl, rfl, rfl, rfl, rfl, rfl⟩, rfl⟩
    split
    all_goals exact ⟨⟨rfl, rfl, rfl, rfl, rfl, rfl⟩, rfl⟩

theorem readOptions_kept (rounds : Nat) (d : Dhcp) (type : UInt8) (udp : EthernetUdp) :
    Kept d (readOptions rounds d type udp).1 ∧
      (readOptions rounds d type udp).1.localIp = d.localIp := by
  induction rounds generalizing d type udp with
  | zero => exact ⟨.refl d, rfl⟩
  | succ rounds ih =>
      unfold readOptions
      split
      · exact ⟨.refl d, rfl⟩
      · obtain ⟨kept, address⟩ := readOption_kept d type udp
        obtain ⟨later, same⟩ := ih (d.readOption type udp).1 (d.readOption type udp).2.1
          (d.readOption type udp).2.2
        exact ⟨kept.trans later, same.trans address⟩

/-- The loop over the options of a packet, from what is left behind its fixed part. -/
def packetOptions (fixedMsg : List UInt8) (d : Dhcp) (left : EthernetUdp) :
    Dhcp × UInt8 × EthernetUdp :=
  readOptions (left.skip (240 - ripMsgFixedSize)).remaining.length
    { d with localIp := fixedYiaddr fixedMsg } 0 (left.skip (240 - ripMsgFixedSize))

/-- A packet is nothing to the client, or a reply with its options. -/
theorem parseReply_cases (held : List UInt8) (d : Dhcp) (udp : EthernetUdp) :
    ((parseReply held d udp).1 = 0 ∧ (parseReply held d udp).2.2.1 = d) ∨
      ((udp.readInto held).1.getD 0 0 = dhcpBootReply ∧ udp.remotePort = dhcpServerPort) ∧
        ¬ d.Rejects (udp.readInto held).1 ∧
        (parseReply held d udp).1 =
          (packetOptions (udp.readInto held).1 d (udp.readInto held).2).2.1 ∧
        (parseReply held d udp).2.1 = some (fixedXid (udp.readInto held).1) ∧
        (parseReply held d udp).2.2.1 =
          (packetOptions (udp.readInto held).1 d (udp.readInto held).2).1 := by
  unfold parseReply
  dsimp only
  by_cases reply : (udp.readInto held).1.getD 0 0 = dhcpBootReply ∧
      (udp.readInto held).2.remotePort = dhcpServerPort
  · by_cases rejects : d.Rejects (udp.readInto held).1
    · rw [if_pos reply, if_pos rejects]
      exact .inl ⟨rfl, rfl⟩
    · rw [if_pos reply, if_neg rejects]
      exact .inr ⟨reply, rejects, rfl, rfl, rfl⟩
  · rw [if_neg reply]
    exact .inl ⟨rfl, rfl⟩

theorem packetOptions_kept (fixedMsg : List UInt8) (d : Dhcp) (left : EthernetUdp) :
    Kept d (packetOptions fixedMsg d left).1 ∧
      (packetOptions fixedMsg d left).1.localIp = fixedYiaddr fixedMsg := by
  obtain ⟨⟨first, last, mac, state, timeout, wait⟩, address⟩ := readOptions_kept
    (left.skip (240 - ripMsgFixedSize)).remaining.length
    { d with localIp := fixedYiaddr fixedMsg } 0 (left.skip (240 - ripMsgFixedSize))
  exact ⟨⟨first, last, mac, state, timeout, wait⟩, address⟩

theorem parseReply_kept (held : List UInt8) (d : Dhcp) (udp : EthernetUdp) :
    Kept d (parseReply held d udp).2.2.1 := by
  rcases parseReply_cases held d udp with ⟨-, same⟩ | ⟨-, -, -, -, same⟩
  · rw [same]
    exact .refl d
  · rw [same]
    exact (packetOptions_kept _ _ _).1

/-! ## What a packet is heard as -/

/-- A message type that is read from these bytes. -/
def HasType (type : UInt8) (bytes : List UInt8) : Prop :=
  ∃ length behind, 53 :: length :: type :: behind <:+ bytes

theorem HasType.suffix {type : UInt8} {bytes all : List UInt8} (has : HasType type bytes)
    (suffix : bytes <:+ all) : HasType type all := by
  obtain ⟨length, behind, listed⟩ := has
  exact ⟨length, behind, listed.trans suffix⟩

theorem readOption_suffix (d : Dhcp) (type : UInt8) (udp : EthernetUdp) :
    (d.readOption type udp).2.2.remaining <:+ udp.remaining := by
  have next : udp.next.remaining <:+ udp.remaining := List.tail_suffix _
  have body : udp.next.next.remaining <:+ udp.remaining := (List.tail_suffix _).trans next
  unfold readOption
  split
  · exact next
  · unfold readParameter
    split
    all_goals try exact (List.drop_suffix _ _).trans body
    all_goals try exact ((List.drop_suffix _ _).trans (List.drop_suffix _ _)).trans body
    · exact (List.tail_suffix _).trans body
    · split <;> exact (List.drop_suffix _ _).trans body

/-- An option leaves the message type, or holds it, unless its packet ends within it. -/
theorem readOption_type (d : Dhcp) (type : UInt8) (udp : EthernetUdp) :
    (d.readOption type udp).2.1 = type ∨ (d.readOption type udp).2.1 = 255 ∨
      HasType (d.readOption type udp).2.1 udp.remaining := by
  unfold readOption
  split
  · exact .inl rfl
  · rename_i parameter
    unfold readParameter
    split
    · rename_i code
      refine .inr ?_
      obtain ⟨ip, port, remaining⟩ := udp
      match remaining with
      | [] => exact absurd (.inl rfl) parameter
      | [_] => exact .inl rfl
      | [_, _] => exact .inl rfl
      | first :: length :: type :: behind =>
          obtain rfl : first = 53 := UInt8.toNat_inj.mp code
          exact .inr ⟨length, behind, List.suffix_refl _⟩
    all_goals try exact .inl rfl
    split <;> exact .inl rfl

theorem readOptions_type (rounds : Nat) (d : Dhcp) (type : UInt8) (udp : EthernetUdp) :
    (readOptions rounds d type udp).2.1 = type ∨ (readOptions rounds d type udp).2.1 = 255 ∨
      HasType (readOptions rounds d type udp).2.1 udp.remaining := by
  induction rounds generalizing d type udp with
  | zero => exact .inl rfl
  | succ rounds ih =>
      unfold readOptions
      split
      · exact .inl rfl
      · have suffix := readOption_suffix d type udp
        rcases ih (d.readOption type udp).1 (d.readOption type udp).2.1
          (d.readOption type udp).2.2 with same | ended | later
        · have first := readOption_type d type udp
          rw [← same] at first
          exact first
        · exact .inr (.inl ended)
        · exact .inr (.inr (later.suffix suffix))

/-- A variable that a long packet is read into holds the packet's bytes. -/
theorem readInto_long {fixedMsg : List UInt8} {udp : EthernetUdp}
    (long : fixedMsg.length ≤ udp.remaining.length) :
    udp.readInto fixedMsg =
      (udp.remaining.take fixedMsg.length, udp.skip fixedMsg.length) := by
  unfold readInto
  dsimp only
  rw [List.length_take, Nat.min_eq_left long, List.drop_length, List.append_nil]

section

variable {bytes : List UInt8}

theorem fixedXid_take : fixedXid (bytes.take ripMsgFixedSize) = fixedXid bytes := by
  simp [fixedXid, ripMsgFixedSize]

theorem fixedYiaddr_take : fixedYiaddr (bytes.take ripMsgFixedSize) = fixedYiaddr bytes := by
  simp [fixedYiaddr, ripMsgFixedSize]

theorem fixedChaddr_take : fixedChaddr (bytes.take ripMsgFixedSize) = fixedChaddr bytes := by
  simp [fixedChaddr, ripMsgFixedSize, List.drop_take, List.take_take]

theorem op_take : (bytes.take ripMsgFixedSize).getD 0 0 = bytes.getD 0 0 := by
  simp [ripMsgFixedSize]

end

/-- A reply of this type for the client with this hardware address. -/
structure HeardAs (mac : List UInt8) (type : UInt8) (datagram : Datagram) : Prop where
  fromServer : datagram.port = dhcpServerPort
  op : datagram.bytes.getD 0 0 = dhcpBootReply
  chaddr : fixedChaddr datagram.bytes = mac
  typed : HasType type (datagram.bytes.drop 240)

/-- What has a message type for the client is a reply to it, of this call, with the address that
it takes over. -/
theorem parseReply_heard {held : List UInt8} (fixed : held.length = ripMsgFixedSize)
    {d after : Dhcp} {datagram : Datagram} {left : EthernetUdp} {type : UInt8}
    {respId : Option UInt32} (holds : type ≠ 0) (whole : type ≠ 255)
    (parsed : parseReply held d ⟨datagram.ip, datagram.port, datagram.bytes⟩ =
      (type, respId, after, left)) :
    HeardAs d.macAddr type datagram ∧ d.initialTransactionId ≤ fixedXid datagram.bytes ∧
      fixedXid datagram.bytes ≤ d.transactionId ∧ respId = some (fixedXid datagram.bytes) ∧
      after.localIp = fixedYiaddr datagram.bytes := by
  have cases := parseReply_cases held d ⟨datagram.ip, datagram.port, datagram.bytes⟩
  rw [parsed] at cases
  dsimp only at cases
  rcases cases with ⟨nothing, -⟩ | ⟨⟨op, port⟩, accepted, same, answers, address⟩
  · exact absurd nothing holds
  · have typed : HasType type (datagram.bytes.drop 240) := by
      rw [same] at holds whole ⊢
      rcases readOptions_type _ _ _ _ with none | cut | listed
      · exact absurd none holds
      · exact absurd cut whole
      · refine listed.suffix ?_
        change ((datagram.bytes.drop held.length).drop (240 - ripMsgFixedSize)) <:+ _
        rw [List.drop_drop, fixed]
        exact List.suffix_refl _
    -- A packet with a message type has the whole fixed part.
    have long : held.length ≤ datagram.bytes.length := by
      obtain ⟨_, _, listed⟩ := typed
      have inside := listed.length_le
      rw [List.length_drop, List.length_cons] at inside
      rw [fixed, ripMsgFixedSize]
      omega
    have read := @readInto_long held ⟨datagram.ip, datagram.port, datagram.bytes⟩ long
    rw [read, fixed] at op accepted answers address
    obtain ⟨mac, window⟩ := not_or.mp accepted
    obtain ⟨first, last⟩ := not_or.mp window
    rw [fixedXid_take, UInt32.not_lt] at first last
    refine ⟨⟨port, op_take.symm.trans op, ?_, typed⟩, first, last, ?_, ?_⟩
    · rw [← fixedChaddr_take]
      exact not_not.mp mac
    · exact answers.trans (congrArg some fixedXid_take)
    · rw [address, (packetOptions_kept _ _ _).2, fixedYiaddr_take]

/-- A wait for a reply writes nothing but the parameters of the lease. What has a message type for
the client has come in the wait. -/
theorem parseDHCPResponse_cases {input : DhcpInput} {d after : Dhcp} {udp left : EthernetUdp}
    {type : UInt8} {respId : Option UInt32}
    (ended : d.parseDHCPResponse input udp = some (type, respId, after, left)) :
    Kept d after ∧ (type = 255 ∨ type = 0 ∨ ∃ datagram now, (some datagram, now) ∈ input.polls ∧
      HeardAs d.macAddr type datagram ∧ d.initialTransactionId ≤ fixedXid datagram.bytes ∧
      fixedXid datagram.bytes ≤ d.transactionId ∧ respId = some (fixedXid datagram.bytes) ∧
      after.localIp = fixedYiaddr datagram.bytes) := by
  obtain ⟨⟨arrived, packet⟩, waits, ended⟩ := Option.bind_eq_some_iff.mp ended
  rcases awaitPacket_cases waits with ⟨rfl, datagram, now, listed, -, rfl⟩ | ⟨rfl, -⟩
  · have parsed := Option.some.inj ended
    have kept := parseReply_kept input.fixedMsg d ⟨datagram.ip, datagram.port, datagram.bytes⟩
    rw [parsed] at kept
    refine ⟨kept, ?_⟩
    by_cases cut : type = 255
    · exact .inl cut
    · by_cases none : type = 0
      · exact .inr (.inl none)
      · exact .inr (.inr ⟨datagram, now, listed, parseReply_heard input.fixed none cut parsed⟩)
  · obtain ⟨rfl, same⟩ := Prod.mk.inj (Option.some.inj ended)
    obtain ⟨-, rfl, -⟩ := (Prod.mk.inj same).imp_right Prod.mk.inj
    exact ⟨.refl d, .inl rfl⟩

/-! ## The handshake -/

/-- The datagram comes in this round. -/
def LeaseInput.Arrives (input : LeaseInput) (datagram : Datagram) : Prop :=
  ∃ now, (some datagram, now) ∈ input.wait.polls

/-- In one of these rounds an offer was heard, and the last message requests what it offers. -/
structure Requested (mac : List UInt8) (rounds : List LeaseInput) (sent : List DhcpMessage)
    (offer : Datagram) : Prop where
  arrived : ∃ round ∈ rounds, round.Arrives offer
  heard : HeardAs mac dhcpOffer offer
  asked : ∃ request, sent.getLast? = some request ∧ request.messageType = dhcpRequest ∧
    request.macAddr = mac ∧ request.transactionId = fixedXid offer.bytes ∧
    request.localIp = fixedYiaddr offer.bytes

/-- The address is what an acknowledgement says, which came behind the request and is in its
transaction or an earlier one of the call. -/
structure Granted (mac : List UInt8) (random : UInt32) (rounds : List LeaseInput)
    (sent : List DhcpMessage) (d : Dhcp) (offer ack : Datagram) : Prop where
  arrived : ∃ before round, rounds = before ++ [round] ∧ round.Arrives ack ∧
    Requested mac before sent offer
  heard : HeardAs mac dhcpAck ack
  first : random ≤ fixedXid ack.bytes
  last : fixedXid ack.bytes ≤ fixedXid offer.bytes
  address : d.localIp = fixedYiaddr ack.bytes
  lasts : d.leaseTime ≠ 0

/-- How far the handshake has come in these rounds. -/
structure Handshake (mac : List UInt8) (random : UInt32) (rounds : List LeaseInput)
    (run : LeaseRun) : Prop where
  macAddr : run.dhcp.macAddr = mac
  initial : run.dhcp.initialTransactionId = random
  result : run.result = true → run.dhcp.state = .leased
  pending : run.dhcp.state = .leased → run.messageType ≠ 255
  fresh : run.dhcp.state ≠ .rerequest
  requested : run.dhcp.state = .request → ∃ offer, Requested mac rounds run.sent offer ∧
    run.dhcp.transactionId = fixedXid offer.bytes
  leased : run.dhcp.state = .leased →
    ∃ offer ack, Granted mac random rounds run.sent run.dhcp offer ack

section

variable {mac : List UInt8} {random : UInt32} {rounds : List LeaseInput} {run next : LeaseRun}
  {startTime : Nat} {input : LeaseInput}

theorem Requested.later {sent : List DhcpMessage} {offer : Datagram}
    (requested : Requested mac rounds sent offer) (input : LeaseInput) :
    Requested mac (rounds ++ [input]) sent offer := by
  obtain ⟨round, listed, arrives⟩ := requested.arrived
  exact ⟨⟨round, List.mem_append_left _ listed, arrives⟩, requested.heard, requested.asked⟩

/-- Where nothing has been requested there is nothing to say. -/
theorem Handshake.idle (macAddr : run.dhcp.macAddr = mac)
    (initial : run.dhcp.initialTransactionId = random) (result : run.result = false)
    (state : run.dhcp.state = .start ∨ run.dhcp.state = .discover) :
    Handshake mac random rounds run where
  macAddr := macAddr
  initial := initial
  result granted := absurd granted (by simp [result])
  pending leased := by rcases state with state | state <;> simp [state] at leased
  fresh := by rcases state with state | state <;> simp [state]
  requested requests := by rcases state with state | state <;> simp [state] at requests
  leased leased := by rcases state with state | state <;> simp [state] at leased

theorem Handshake.unfinished (handshake : Handshake mac random rounds run)
    (unleased : run.dhcp.state ≠ .leased) : run.result = false := by
  cases result : run.result with
  | false => rfl
  | true => exact absurd (handshake.result result) unleased

/-- An acknowledgement leaves the address, and a lease that lasts. -/
theorem acknowledge_spec (d : Dhcp) : d.acknowledge.localIp = d.localIp ∧
    d.acknowledge.leaseTime ≠ 0 ∧ d.acknowledge.state = .leased ∧
    d.acknowledge.macAddr = d.macAddr ∧
    d.acknowledge.initialTransactionId = d.initialTransactionId := by
  unfold acknowledge
  by_cases none : d.leaseTime = 0 <;> by_cases first : d.t1 = 0 <;> by_cases second : d.t2 = 0
  all_goals simp [none, first, second, defaultLease]

/-- In the state DISCOVER an offer is followed by a request for what it offers. -/
theorem Handshake.discover (handshake : Handshake mac random rounds run)
    (state : run.dhcp.state = .discover) (ended : leaseState startTime input run = some next) :
    Handshake mac random (rounds ++ [input]) next := by
  have idle := handshake.unfinished (by simp [state])
  unfold leaseState at ended
  rw [state] at ended
  obtain ⟨⟨type, respId, d, udp⟩, parsed, ended⟩ := Option.bind_eq_some_iff.mp ended
  obtain ⟨kept, heard⟩ := parseDHCPResponse_cases parsed
  have macAddr := kept.macAddr.trans handshake.macAddr
  have initial := kept.initialTransactionId.trans handshake.initial
  dsimp only at ended
  by_cases offered : type = dhcpOffer
  · rw [if_pos offered] at ended
    obtain rfl := Option.some.inj ended
    rcases heard with timeout | nothing | ⟨offer, now, listed, heard, -, -, rfl, address⟩
    · exact absurd (offered.symm.trans timeout) (by decide)
    · exact absurd (offered.symm.trans nothing) (by decide)
    · rw [offered, handshake.macAddr] at heard
      exact {
        macAddr := macAddr
        initial := initial
        result := fun granted => absurd granted (by simp [idle])
        pending := nofun
        fresh := nofun
        requested := fun _ => ⟨offer,
          ⟨⟨input, List.mem_append_right _ (List.mem_singleton_self _), now, listed⟩, heard,
            ⟨_, List.getLast?_concat, rfl, macAddr, rfl, address⟩⟩, rfl⟩
        leased := nofun }
  · rw [if_neg offered] at ended
    obtain rfl := Option.some.inj ended
    exact .idle macAddr initial idle (.inr (kept.state.trans state))

/-- In the state REQUEST an acknowledgement ends the handshake, and a refusal starts it again. -/
theorem Handshake.request (handshake : Handshake mac random rounds run)
    (state : run.dhcp.state = .request) (ended : leaseState startTime input run = some next) :
    Handshake mac random (rounds ++ [input]) next := by
  have idle := handshake.unfinished (by simp [state])
  obtain ⟨offer, requested, transaction⟩ := handshake.requested state
  unfold leaseState at ended
  rw [state] at ended
  obtain ⟨⟨type, respId, d, udp⟩, parsed, ended⟩ := Option.bind_eq_some_iff.mp ended
  obtain ⟨kept, heard⟩ := parseDHCPResponse_cases parsed
  have macAddr := kept.macAddr.trans handshake.macAddr
  have initial := kept.initialTransactionId.trans handshake.initial
  dsimp only at ended
  by_cases acknowledged : type = dhcpAck
  · rw [if_pos acknowledged] at ended
    obtain rfl := Option.some.inj ended
    obtain ⟨same, lasts, leased, ofMac, ofCall⟩ := acknowledge_spec d
    rcases heard with timeout | nothing | ⟨ack, now, listed, heard, first, last, -, address⟩
    · exact absurd (acknowledged.symm.trans timeout) (by decide)
    · exact absurd (acknowledged.symm.trans nothing) (by decide)
    · rw [acknowledged, handshake.macAddr] at heard
      rw [handshake.initial] at first
      rw [transaction] at last
      exact {
        macAddr := ofMac.trans macAddr
        initial := ofCall.trans initial
        result := fun _ => leased
        pending := fun _ timeout => absurd (acknowledged.symm.trans timeout) (by decide)
        fresh := fun again => nomatch leased.symm.trans again
        requested := fun requests => nomatch leased.symm.trans requests
        leased := fun _ => ⟨offer, ack, ⟨rounds, input, rfl, ⟨now, listed⟩, requested⟩, heard,
          first, last, same.trans address, lasts⟩ }
  · rw [if_neg acknowledged] at ended
    by_cases refused : type = dhcpNak
    · rw [if_pos refused] at ended
      obtain rfl := Option.some.inj ended
      exact .idle macAddr initial idle (.inl rfl)
    · rw [if_neg refused] at ended
      obtain rfl := Option.some.inj ended
      have same : d.state = .request := kept.state.trans state
      exact {
        macAddr := macAddr
        initial := initial
        result := fun granted => absurd granted (by simp [idle])
        pending := fun leased => nomatch same.symm.trans leased
        fresh := fun again => nomatch same.symm.trans again
        requested := fun _ => ⟨offer, requested.later input, kept.transactionId.trans transaction⟩
        leased := fun leased => nomatch same.symm.trans leased }

/-- A round of the loop keeps the handshake, also where a timeout starts it again. -/
theorem Handshake.round (handshake : Handshake mac random rounds run)
    (unleased : run.dhcp.state ≠ .leased) (ended : leaseRound startTime input run = some next) :
    Handshake mac random (rounds ++ [input]) next := by
  obtain ⟨between, stepped, ended⟩ := Option.bind_eq_some_iff.mp ended
  have reached : Handshake mac random (rounds ++ [input]) between := by
    cases state : run.dhcp.state with
    | start =>
        unfold leaseState at stepped
        rw [state] at stepped
        obtain rfl := Option.some.inj stepped
        exact .idle handshake.macAddr handshake.initial (handshake.unfinished unleased) (.inr rfl)
    | discover => exact handshake.discover state stepped
    | request => exact handshake.request state stepped
    | leased => exact absurd state unleased
    | rerequest => exact absurd state handshake.fresh
  -- 255 is what a timeout returns. A packet can hold it as its type and does the same.
  by_cases timeout : between.messageType = 255
  · rw [if_pos timeout] at ended
    obtain rfl := Option.some.inj ended
    refine .idle reached.macAddr reached.initial ?_ (.inl rfl)
    cases result : between.result with
    | false => rfl
    | true => exact absurd timeout (reached.pending (reached.result result))
  · rw [if_neg timeout] at ended
    obtain rfl := Option.some.inj ended
    exact reached

theorem Handshake.loop {inputs : List LeaseInput} (handshake : Handshake mac random rounds run)
    (ended : leaseLoop startTime inputs run = some next) :
    ∃ past, past <+: inputs ∧ Handshake mac random (rounds ++ past) next := by
  induction inputs generalizing rounds run with
  | nil =>
      unfold leaseLoop at ended
      split at ended
      · obtain rfl := Option.some.inj ended
        exact ⟨[], List.prefix_refl [], by simpa using handshake⟩
      · exact absurd ended (by simp)
  | cons input inputs ih =>
      unfold leaseLoop at ended
      split at ended
      · obtain rfl := Option.some.inj ended
        exact ⟨[], List.nil_prefix, by simpa using handshake⟩
      · rename_i unleased
        obtain ⟨between, stepped, ended⟩ := Option.bind_eq_some_iff.mp ended
        have reached := handshake.round unleased stepped
        split at ended
        · obtain rfl := Option.some.inj ended
          exact ⟨[input], ⟨inputs, rfl⟩, reached⟩
        · obtain ⟨past, listed, final⟩ := ih reached ended
          rw [List.append_assoc] at final
          exact ⟨input :: past, List.cons_prefix_cons.mpr ⟨rfl, listed⟩, final⟩

/-- Whatever the network sends, a lease that `beginWithDHCP` reports has been offered, requested
and acknowledged, in this order. -/
theorem lease_acknowledged {timeout responseTimeout : UInt32} {isBegun : Bool} {endTime : Nat}
    {inputs : List LeaseInput} {d after : Dhcp} {udp : EthernetUdp} {sent : List DhcpMessage}
    (leased : (d.beginWithDHCP mac timeout responseTimeout).requestDhcpLease random isBegun
      startTime endTime inputs udp = some (true, after, sent)) :
    ∃ past offer ack, past <+: inputs ∧ Granted mac random past sent after offer ack := by
  unfold requestDhcpLease at leased
  cases isBegun with
  | false => simp at leased
  | true =>
      obtain ⟨run, ended, leased⟩ := Option.bind_eq_some_iff.mp leased
      obtain ⟨result, same⟩ := Prod.mk.inj (Option.some.inj leased)
      obtain ⟨rfl, rfl⟩ := Prod.mk.inj same
      have begun : Handshake mac random [] ⟨0, false, { d.beginWithDHCP mac timeout responseTimeout
          with transactionId := random, initialTransactionId := random },
          { udp with remaining := [] }, []⟩ := .idle rfl rfl rfl (.inl rfl)
      obtain ⟨past, listed, final⟩ := begun.loop ended
      obtain ⟨offer, ack, granted⟩ := final.leased (final.result result)
      exact ⟨past, offer, ack, listed, granted.arrived, granted.heard, granted.first, granted.last,
        granted.address, granted.lasts⟩

end

/-- The server at 10.0.0.1 offers and acknowledges 10.0.0.9. -/
def replyX (type : UInt8) : DhcpReply where
  htype := 1
  hlen := 6
  hops := 0
  xid := 1001
  secs := 0
  flags := 0
  ciaddr := 0
  yiaddr := word32 10 0 0 9
  siaddr := 0
  giaddr := 0
  chaddr := [222, 173, 190, 239, 250, 237]
  names := List.replicate 206 0
  options := [.messageType type, .serverIdentifier (word32 10 0 0 1), .leaseTime 86400,
    .other 15 [108, 97, 110] (by decide) (by decide), .mark true]
  chaddrSize := rfl
  namesSize := List.length_replicate

theorem length_replyX (type : UInt8) : (replyX type).encode.length = 261 := by
  rw [DhcpReply.encode, List.length_append, DhcpReply.length_fixedMsg, List.length_append,
    (replyX type).namesSize]
  rfl

/-- A round with this reply, 50 ms long. -/
def roundX (time : Nat) (type : UInt8) : LeaseInput where
  sendTime := time
  wait :=
    { startTime := time
      polls := [(some ⟨word32 10 0 0 1, dhcpServerPort, (replyX type).encode,
        by rw [length_replyX]; decide⟩, time + 50)]
      fixedMsg := List.replicate 34 0
      fixed := List.length_replicate }
  endTime := time + 50

/-- Nothing is taken over before. -/
def beforeX : Dhcp where
  initialTransactionId := 0
  transactionId := 0
  macAddr := []
  localIp := 0
  subnetMask := 0
  gatewayIp := 0
  dhcpServerIp := 0
  dnsServerIp := 0
  leaseTime := 0
  t1 := 0
  t2 := 0
  renewInSec := 0
  rebindInSec := 0
  timeout := 0
  responseTimeout := 0
  lastCheckLeaseMillis := 0
  state := .start

theorem lease_acknowledged_replyX : ∃ past sent after offer ack,
    past <+: [roundX 0 0, roundX 50 dhcpOffer, roundX 100 dhcpAck] ∧
      Granted [222, 173, 190, 239, 250, 237] 1000 past sent after offer ack := by
  have runs : ((beforeX.beginWithDHCP [222, 173, 190, 239, 250, 237] 10000 4000).requestDhcpLease
      1000 true 0 150 [roundX 0 0, roundX 50 dhcpOffer, roundX 100 dhcpAck] ⟨0, 0, []⟩).map
        Prod.fst = some true := by decide +kernel
  obtain ⟨⟨result, after, sent⟩, leased, rfl⟩ := Option.map_eq_some_iff.mp runs
  obtain ⟨past, offer, ack, granted⟩ := lease_acknowledged leased
  exact ⟨past, sent, after, offer, ack, granted⟩

end Dhcp
end BlueberryIrrigation
