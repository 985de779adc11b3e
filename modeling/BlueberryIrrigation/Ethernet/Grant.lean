import BlueberryIrrigation.Ethernet.Lease

/-!
# A server that answers

Where a server answers in time, its lease is taken over, whatever the replies for the other
clients of the network are that come before its own.
-/

namespace BlueberryIrrigation

open Semantics EthernetUdp

namespace Dhcp

/-- The first packet of this round comes in time and is the reply. -/
structure LeaseInput.Hears (input : LeaseInput) (responseTimeout remoteIp : UInt32)
    (reply : DhcpReply) : Prop where
  size : 0 < Int16.ofNat reply.encode.length
  delivers : ∃ fits, Delivers input.wait.startTime responseTimeout
    ⟨remoteIp, dhcpServerPort, reply.encode, fits⟩ input.wait.polls

/-- Behind the round the time for the lease has not passed. -/
def LeaseInput.InTime (startTime : Nat) (timeout : UInt32) (input : LeaseInput) : Prop :=
  ¬ timeout < millis input.endTime - millis startTime

variable {startTime : Nat} {input : LeaseInput} {inputs : List LeaseInput} {run next : LeaseRun}
  {d : Dhcp} {remoteIp : UInt32} {reply : DhcpReply}

/-- In the round comes a reply for another client, or one from before this call. -/
structure Foreign (startTime : Nat) (d : Dhcp) (input : LeaseInput) : Prop where
  inTime : input.InTime startTime d.timeout
  hears : ∃ remoteIp reply, input.Hears d.responseTimeout remoteIp reply ∧
    (reply.chaddr ≠ d.macAddr ∨ reply.xid < d.initialTransactionId)

/-- The reply is of this type, for this client and in a transaction of this call. -/
structure Replies (d : Dhcp) (type : UInt8) (reply : DhcpReply) : Prop where
  accepts : d.Accepts reply
  typed : reply.options.foldl DhcpOption.typeOr 0 = type

/-- The lease behind the first message. -/
def discovering (random : UInt32) (d : Dhcp) : Dhcp :=
  { d with initialTransactionId := random, transactionId := random + 1, state := .discover }

/-- What an offer makes of the lease. -/
def takeOffer (remoteIp : UInt32) (offer : DhcpReply) (d : Dhcp) : Dhcp :=
  { (d.hear remoteIp offer).2 with transactionId := offer.xid, state := .request }

theorem Foreign.of_kept {after : Dhcp} (foreign : Foreign startTime d input)
    (mac : after.macAddr = d.macAddr)
    (initial : after.initialTransactionId = d.initialTransactionId)
    (timeout : after.timeout = d.timeout)
    (responseTimeout : after.responseTimeout = d.responseTimeout) :
    Foreign startTime after input where
  inTime := by rw [timeout]; exact foreign.inTime
  hears := by rw [mac, initial, responseTimeout]; exact foreign.hears

theorem hear_kept (d : Dhcp) (remoteIp : UInt32) (reply : DhcpReply) :
    Kept d (d.hear remoteIp reply).2 := by
  obtain ⟨left, read⟩ := @parseReply_encode (List.replicate 34 0) List.length_replicate d reply
    remoteIp
  have kept := parseReply_kept (List.replicate 34 0) d ⟨remoteIp, dhcpServerPort, reply.encode⟩
  rw [read] at kept
  exact kept

theorem hear_type {type : UInt8} (replies : d.Replies type reply) (remoteIp : UInt32) :
    (d.hear remoteIp reply).1 = type := by
  unfold hear
  rw [if_pos replies.accepts]
  exact replies.typed

/-- The address of a lease is that of the last reply. -/
theorem hear_address (accepts : d.Accepts reply) (remoteIp : UInt32) :
    (d.hear remoteIp reply).2.localIp = reply.yiaddr := by
  have same (options : List DhcpOption) (lease : Dhcp) :
      (options.foldl (DhcpOption.apply remoteIp) lease).localIp = lease.localIp := by
    induction options generalizing lease with
    | nil => rfl
    | cons option options ih =>
        rw [List.foldl_cons, ih]
        cases option
        all_goals try rfl
        unfold DhcpOption.apply
        dsimp only
        split <;> rfl
  unfold hear
  rw [if_pos accepts]
  exact same reply.options _

theorem parseDHCPResponse_hears (hears : input.Hears d.responseTimeout remoteIp reply)
    (udp : EthernetUdp) : ∃ left, d.parseDHCPResponse input.wait udp =
      some ((d.hear remoteIp reply).1, some reply.xid, (d.hear remoteIp reply).2, left) := by
  obtain ⟨fits, delivers⟩ := hears.delivers
  obtain ⟨left, read⟩ := parseReply_encode input.wait.fixed d reply remoteIp
  refine ⟨left, ?_⟩
  unfold parseDHCPResponse
  rw [@awaitPacket_delivers _ _ _ ⟨remoteIp, dhcpServerPort, reply.encode, fits⟩ hears.size
    delivers]
  change some (parseReply input.wait.fixedMsg d ⟨remoteIp, dhcpServerPort, reply.encode⟩) = _
  rw [read]

/-! ## The rounds -/

theorem leaseLoop_round (unleased : run.dhcp.state ≠ .leased)
    (round : leaseRound startTime input run = some next)
    (goesOn : next.result = true ∨ input.InTime startTime next.dhcp.timeout)
    (inputs : List LeaseInput) :
    leaseLoop startTime (input :: inputs) run = leaseLoop startTime inputs next := by
  rw [leaseLoop, if_neg unleased, round]
  refine if_neg fun ⟨failed, late⟩ => ?_
  rcases goesOn with succeeded | inTime
  · rw [succeeded] at failed
    exact absurd failed (by decide)
  · exact inTime late

theorem leaseLoop_leased (state : run.dhcp.state = .leased) (inputs : List LeaseInput) :
    leaseLoop startTime inputs run = some run := by
  cases inputs with
  | nil => exact if_pos state
  | cons input inputs => exact if_pos state

theorem leaseLoop_start {lease : Dhcp} (state : run.dhcp.state = .start)
    (type : run.messageType ≠ 255)
    (begun : lease =
      { run.dhcp with transactionId := run.dhcp.transactionId + 1, state := .discover })
    (inTime : input.InTime startTime lease.timeout) (inputs : List LeaseInput) :
    leaseLoop startTime (input :: inputs) run =
      leaseLoop startTime inputs
        { run with
          dhcp := lease
          sent := run.sent ++
            [lease.sendDhcpMessage dhcpDiscover startTime input.sendTime] } := by
  subst begun
  refine leaseLoop_round ?_ ?_ ?_ inputs
  · exact fun leased => nomatch state.symm.trans leased
  · unfold leaseRound leaseState
    rw [state]
    exact if_neg type
  · exact .inr inTime

/-- A reply for another client leaves the lease as it is. -/
theorem leaseLoop_foreign (state : run.dhcp.state = .discover ∨ run.dhcp.state = .request)
    (foreign : Foreign startTime run.dhcp input) (inputs : List LeaseInput) :
    ∃ left, leaseLoop startTime (input :: inputs) run =
      leaseLoop startTime inputs { run with messageType := 0, udp := left } := by
  obtain ⟨remoteIp, reply, hears, other⟩ := foreign.hears
  obtain ⟨left, read⟩ := parseDHCPResponse_hears hears run.udp
  have nothing : run.dhcp.hear remoteIp reply = (0, run.dhcp) := by
    refine if_neg fun accepts => ?_
    rcases other with other | old
    · exact other accepts.1
    · exact UInt32.not_lt.mpr accepts.2.1 old
  rw [nothing] at read
  refine ⟨left, leaseLoop_round ?_ ?_ ?_ inputs⟩
  · rcases state with state | state <;> simp [state]
  · unfold leaseRound leaseState
    rcases state with state | state
    all_goals
      rw [state]
      dsimp only
      rw [read]
      rfl
  · exact .inr foreign.inTime

theorem leaseLoop_foreigns {others : List LeaseInput}
    (state : run.dhcp.state = .discover ∨ run.dhcp.state = .request)
    (foreign : ∀ input ∈ others, Foreign startTime run.dhcp input) (inputs : List LeaseInput) :
    ∃ type left, leaseLoop startTime (others ++ inputs) run =
      leaseLoop startTime inputs { run with messageType := type, udp := left } := by
  induction others generalizing run with
  | nil => exact ⟨run.messageType, run.udp, rfl⟩
  | cons input others ih =>
      obtain ⟨left, first⟩ := leaseLoop_foreign state (foreign input List.mem_cons_self)
        (others ++ inputs)
      rw [List.cons_append, first]
      exact @ih { run with messageType := 0, udp := left } state
        fun input listed => foreign input (List.mem_cons_of_mem _ listed)

theorem leaseLoop_offer (state : run.dhcp.state = .discover)
    (hears : input.Hears run.dhcp.responseTimeout remoteIp reply)
    (offers : run.dhcp.Replies dhcpOffer reply)
    (inTime : input.InTime startTime run.dhcp.timeout) (inputs : List LeaseInput) :
    ∃ left, leaseLoop startTime (input :: inputs) run =
      leaseLoop startTime inputs
        { run with
          messageType := dhcpOffer
          dhcp := run.dhcp.takeOffer remoteIp reply
          udp := left
          sent := run.sent ++ [(run.dhcp.takeOffer remoteIp reply).sendDhcpMessage dhcpRequest
            startTime input.sendTime] } := by
  obtain ⟨left, read⟩ := parseDHCPResponse_hears hears run.udp
  have kept := hear_kept run.dhcp remoteIp reply
  rw [hear_type offers] at read
  refine ⟨left, leaseLoop_round (by simp [state]) ?_ ?_ inputs⟩
  · unfold leaseRound leaseState
    rw [state]
    dsimp only
    rw [read]
    rfl
  · refine .inr ?_
    rw [takeOffer, kept.timeout]
    exact inTime

theorem leaseLoop_ack (state : run.dhcp.state = .request)
    (hears : input.Hears run.dhcp.responseTimeout remoteIp reply)
    (acks : run.dhcp.Replies dhcpAck reply) (inputs : List LeaseInput) :
    ∃ left, leaseLoop startTime (input :: inputs) run =
      some
        { run with
          messageType := dhcpAck
          result := true
          dhcp := (run.dhcp.hear remoteIp reply).2.acknowledge
          udp := left } := by
  obtain ⟨left, read⟩ := parseDHCPResponse_hears hears run.udp
  rw [hear_type acks] at read
  refine ⟨left, (leaseLoop_round (by simp [state]) ?_ (.inl rfl) inputs).trans
    (leaseLoop_leased ?_ inputs)⟩
  · unfold leaseRound leaseState
    rw [state]
    dsimp only
    rw [read]
    rfl
  · exact (acknowledge_spec _).2.2.1

/-! ## The lease -/

section

variable {mac : List UInt8} {random timeout responseTimeout serverIp ackIp : UInt32}
  {first offered acked : LeaseInput} {others between : List LeaseInput} {offer ack : DhcpReply}
  {lease : Dhcp}

/-- The loop from its start on, with the four parts that it has then. -/
theorem leaseLoop_granted (state : run.dhcp.state = .start) (type : run.messageType ≠ 255)
    (begun : lease =
      { run.dhcp with transactionId := run.dhcp.transactionId + 1, state := .discover })
    (begins : first.InTime startTime lease.timeout)
    (foreign : ∀ input ∈ others ++ between, Foreign startTime lease input)
    (offerCame : offered.Hears lease.responseTimeout serverIp offer)
    (offers : lease.Replies dhcpOffer offer) (inTime : offered.InTime startTime lease.timeout)
    (ackCame : acked.Hears lease.responseTimeout ackIp ack)
    (acks : (lease.takeOffer serverIp offer).Replies dhcpAck ack) (rest : List LeaseInput) :
    ∃ left, leaseLoop startTime (first :: (others ++ offered :: (between ++ acked :: rest))) run =
      some
        { messageType := dhcpAck
          result := true
          dhcp := ((lease.takeOffer serverIp offer).hear ackIp ack).2.acknowledge
          udp := left
          sent := run.sent ++ [lease.sendDhcpMessage dhcpDiscover startTime first.sendTime] ++
            [(lease.takeOffer serverIp offer).sendDhcpMessage dhcpRequest startTime
              offered.sendTime] } := by
  have kept := hear_kept lease serverIp offer
  have foreignThen : ∀ input ∈ between, Foreign startTime (lease.takeOffer serverIp offer) input :=
    fun input listed => (foreign input (List.mem_append_right _ listed)).of_kept kept.macAddr
      kept.initialTransactionId kept.timeout kept.responseTimeout
  obtain ⟨typeBefore, leftBefore, before⟩ := @leaseLoop_foreigns startTime
    { run with
      dhcp := lease
      sent := run.sent ++ [lease.sendDhcpMessage dhcpDiscover startTime first.sendTime] }
    others (.inl (by rw [begun]))
    (fun input listed => foreign input (List.mem_append_left _ listed))
    (offered :: (between ++ acked :: rest))
  obtain ⟨leftOffer, asks⟩ := @leaseLoop_offer startTime offered
    { run with
      messageType := typeBefore
      dhcp := lease
      udp := leftBefore
      sent := run.sent ++ [lease.sendDhcpMessage dhcpDiscover startTime first.sendTime] }
    serverIp offer (by rw [begun]) offerCame offers inTime (between ++ acked :: rest)
  obtain ⟨typeBetween, leftBetween, waits⟩ := @leaseLoop_foreigns startTime
    { run with
      messageType := dhcpOffer
      dhcp := lease.takeOffer serverIp offer
      udp := leftOffer
      sent := run.sent ++ [lease.sendDhcpMessage dhcpDiscover startTime first.sendTime] ++
        [(lease.takeOffer serverIp offer).sendDhcpMessage dhcpRequest startTime
          offered.sendTime] }
    between (.inr rfl) foreignThen (acked :: rest)
  obtain ⟨leftAck, ends⟩ := @leaseLoop_ack startTime acked
    { run with
      messageType := typeBetween
      dhcp := lease.takeOffer serverIp offer
      udp := leftBetween
      sent := run.sent ++ [lease.sendDhcpMessage dhcpDiscover startTime first.sendTime] ++
        [(lease.takeOffer serverIp offer).sendDhcpMessage dhcpRequest startTime
          offered.sendTime] }
    ackIp ack rfl (kept.responseTimeout.symm ▸ ackCame) acks rest
  exact ⟨leftAck, (leaseLoop_start state type begun begins _).trans
    (before.trans (asks.trans (waits.trans ends)))⟩

/-- Where an offer and an acknowledgement come in time, they are what the lease is, and two
messages have been sent for it. -/
theorem lease_granted
    (begun : lease = (d.beginWithDHCP mac timeout responseTimeout).discovering random)
    (begins : first.InTime startTime timeout)
    (foreign : ∀ input ∈ others ++ between, Foreign startTime lease input)
    (offerCame : offered.Hears responseTimeout serverIp offer)
    (offers : lease.Replies dhcpOffer offer) (inTime : offered.InTime startTime timeout)
    (ackCame : acked.Hears responseTimeout ackIp ack)
    (acks : (lease.takeOffer serverIp offer).Replies dhcpAck ack) (endTime : Nat)
    (rest : List LeaseInput) (udp : EthernetUdp) :
    (d.beginWithDHCP mac timeout responseTimeout).requestDhcpLease random true startTime endTime
        (first :: (others ++ offered :: (between ++ acked :: rest))) udp =
      some (true,
        { ((lease.takeOffer serverIp offer).hear ackIp ack).2.acknowledge with
          transactionId := ((lease.takeOffer serverIp offer).hear ackIp
            ack).2.acknowledge.transactionId + 1
          lastCheckLeaseMillis := millis endTime },
        [lease.sendDhcpMessage dhcpDiscover startTime first.sendTime,
          (lease.takeOffer serverIp offer).sendDhcpMessage dhcpRequest startTime
            offered.sendTime]) ∧
      (lease.takeOffer serverIp offer).localIp = offer.yiaddr ∧
      ((lease.takeOffer serverIp offer).hear ackIp ack).2.acknowledge.localIp = ack.yiaddr := by
  refine ⟨?_, hear_address offers.accepts serverIp,
    (acknowledge_spec _).1.trans (hear_address acks.accepts ackIp)⟩
  have time : lease.timeout = timeout := by rw [begun]; rfl
  have wait : lease.responseTimeout = responseTimeout := by rw [begun]; rfl
  obtain ⟨left, runs⟩ := @leaseLoop_granted startTime
    ⟨0, false, { d.beginWithDHCP mac timeout responseTimeout with
      transactionId := random, initialTransactionId := random }, { udp with remaining := [] }, []⟩
    serverIp ackIp first offered acked others between offer ack lease rfl nofun begun
    (time.symm ▸ begins) foreign (wait.symm ▸ offerCame) offers (time.symm ▸ inTime)
    (wait.symm ▸ ackCame) acks rest
  unfold requestDhcpLease
  rw [if_neg (by decide)]
  exact Option.bind_eq_some_iff.mpr ⟨_, runs, rfl⟩

end

/-- An offer for another client. -/
def strangerX : DhcpReply :=
  { replyX dhcpOffer with chaddr := [0, 0, 0, 0, 0, 1], chaddrSize := rfl }

theorem length_strangerX : strangerX.encode.length = 261 := by
  rw [DhcpReply.encode, List.length_append, DhcpReply.length_fixedMsg, List.length_append,
    strangerX.namesSize]
  rfl

theorem length_heldX : (List.replicate 34 (0 : UInt8)).length = ripMsgFixedSize :=
  List.length_replicate

/-- A round with it. -/
def strangerRoundX : LeaseInput where
  sendTime := 50
  wait :=
    { startTime := 50
      polls := [(some ⟨word32 10 0 0 1, dhcpServerPort, strangerX.encode,
        by rw [length_strangerX]; decide⟩, 100)]
      fixedMsg := List.replicate 34 0
      fixed := length_heldX }
  endTime := 100

theorem roundX_hears (time : Nat) (type : UInt8) :
    (roundX time type).Hears 4000 (word32 10 0 0 1) (replyX type) where
  size := by
    rw [length_replyX]
    decide
  delivers := ⟨_, .arrive⟩

theorem lease_granted_replyX : ∃ after sent,
    (beforeX.beginWithDHCP [222, 173, 190, 239, 250, 237] 10000 4000).requestDhcpLease 1000 true 0
        200 [roundX 0 0, strangerRoundX, roundX 100 dhcpOffer, roundX 150 dhcpAck] ⟨0, 0, []⟩ =
      some (true, after, sent) ∧ after.localIp = word32 10 0 0 9 := by
  have foreign : Foreign 0 ((beforeX.beginWithDHCP [222, 173, 190, 239, 250, 237] 10000
      4000).discovering 1000) strangerRoundX :=
    ⟨show ¬ (10000 : UInt32) < millis 100 - millis 0 by decide, word32 10 0 0 1, strangerX,
      ⟨by rw [length_strangerX]; decide, _, .arrive⟩, .inl (by decide)⟩
  obtain ⟨runs, -, address⟩ := @lease_granted 0 beforeX [222, 173, 190, 239, 250, 237] 1000 10000
    4000 (word32 10 0 0 1) (word32 10 0 0 1) (roundX 0 0) (roundX 100 dhcpOffer)
    (roundX 150 dhcpAck) [strangerRoundX] [] (replyX dhcpOffer) (replyX dhcpAck) _ rfl
    (show ¬ (10000 : UInt32) < millis 50 - millis 0 by decide)
    (List.forall_mem_singleton.mpr foreign) (roundX_hears _ _)
    ⟨⟨rfl, by decide, by decide⟩, rfl⟩
    (show ¬ (10000 : UInt32) < millis 150 - millis 0 by decide) (roundX_hears _ _)
    ⟨⟨rfl, by decide, by decide⟩, rfl⟩ 200 [] ⟨0, 0, []⟩
  exact ⟨_, _, runs, address⟩

end Dhcp
end BlueberryIrrigation
