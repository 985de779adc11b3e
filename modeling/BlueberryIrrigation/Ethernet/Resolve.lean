import BlueberryIrrigation.Ethernet.Response

/-!
# Resolving a host

The request is the encoding of a query for the host. In the response that comes in one of the
three waits the first address among the answers is what the sketch gets, and from a response that
ends within a name the sketch does not come back. Without a response it comes back when all three
waits are over.
-/

namespace BlueberryIrrigation

open Semantics

namespace Dns

open EthernetUdp

/-! ## Requests -/

/-- A host name: labels with dots between them. -/
def dotted (labels : List Label) : List UInt8 := [46].intercalate (labels.map Label.bytes)

/-- The query for an address of the host. -/
def query (iRequestId : UInt16) (labels : List Label) : Message where
  id := iRequestId
  flags := recursionDesiredFlag
  questions := [⟨labels, typeA, classIn⟩]
  answers := []
  otherCounts := 0
  others := []
  questionsFit := (by decide : 1 < 65536)
  answersFit := (by decide : 0 < 65536)

/-- The host name can be written, and is no numeric address. -/
structure IsHost (labels : List Label) : Prop where
  plain : ∀ label ∈ labels, (46 : UInt8) ∉ label.bytes
  named : ∃ label ∈ labels, ∃ byte ∈ label.bytes, ¬ (48 ≤ byte ∧ byte ≤ 57)

theorem dotted_singleton (label : Label) : dotted [label] = label.bytes := by
  simp [dotted]

theorem dotted_cons_cons (label next : Label) (labels : List Label) :
    dotted (label :: next :: labels) = label.bytes ++ 46 :: dotted (next :: labels) := by
  simp [dotted, List.intercalate]

/-- A section of the name ends at its dot, or with the name. -/
theorem writeName_append {bytes : List UInt8} (plain : (46 : UInt8) ∉ bytes)
    (begun rest : List UInt8) :
    writeName begun (bytes ++ rest) = writeName (begun ++ bytes) rest := by
  induction bytes generalizing begun with
  | nil => rw [List.nil_append, List.append_nil]
  | cons byte bytes ih =>
      obtain ⟨other, others⟩ := not_or.mp (mt List.mem_cons.mpr plain)
      rw [List.cons_append, writeName, if_neg (Ne.symm other), ih others, List.append_assoc,
        List.singleton_append]

theorem writeName_dotted {labels : List Label}
    (plain : ∀ label ∈ labels, (46 : UInt8) ∉ label.bytes) :
    writeName [] (dotted labels) = encodeLabels labels := by
  have written (label : Label) : writeSection label.bytes = label.encode := if_pos label.positive
  induction labels with
  | nil => rfl
  | cons label labels ih =>
      obtain ⟨first, others⟩ := List.forall_mem_cons.mp plain
      cases labels with
      | nil =>
          rw [dotted_singleton, ← List.append_nil label.bytes, writeName_append first]
          exact (written label).trans (List.append_nil _).symm
      | cons next labels =>
          rw [dotted_cons_cons, writeName_append first, List.nil_append, writeName, if_pos rfl,
            written, ih others]
          rfl

/-- What is sent for a host is the query for it. -/
theorem buildRequest_eq {labels : List Label} (host : IsHost labels) (iRequestId : UInt16) :
    buildRequest iRequestId (dotted labels) = (query iRequestId labels).encode := by
  unfold buildRequest
  rw [writeName_dotted host.plain]
  simp [Message.encode, Message.header, query, Question.encode, Name.encode, netBytes, bytes16,
    bytes32]
  decide

/-- A byte that is no digit and no dot ends `inet_aton`. -/
theorem inetAton_of_named {address : List UInt8} {byte : UInt8} (listed : byte ∈ address)
    (digit : ¬ (48 ≤ byte ∧ byte ≤ 57)) (dot : byte ≠ 46) (acc : UInt16) (dots : Nat)
    (result : List UInt8) : (inetAton address acc dots result).1 = false := by
  induction address generalizing acc dots result with
  | nil => exact absurd listed (List.not_mem_nil)
  | cons c address ih =>
      unfold inetAton
      rcases List.mem_cons.mp listed with rfl | later
      · rw [if_neg digit, if_neg dot]
      · split
        · dsimp only
          split
          · rfl
          · exact ih later _ _ _
        · split
          · split
            · rfl
            · exact ih later _ _ _
          · rfl

theorem mem_dotted {labels : List Label} {label : Label} {byte : UInt8} (listed : label ∈ labels)
    (written : byte ∈ label.bytes) : byte ∈ dotted labels := by
  induction labels with
  | nil => exact absurd listed List.not_mem_nil
  | cons first labels ih =>
      cases labels with
      | nil =>
          obtain rfl := List.mem_singleton.mp listed
          rwa [dotted_singleton]
      | cons next labels =>
          rw [dotted_cons_cons]
          rcases List.mem_cons.mp listed with rfl | later
          · exact List.mem_append_left _ written
          · exact List.mem_append_right _ (List.mem_cons_of_mem _ (ih later))

theorem IsHost.not_numeric {labels : List Label} (host : IsHost labels) (acc : UInt16)
    (dots : Nat) (result : List UInt8) :
    (inetAton (dotted labels) acc dots result).1 = false := by
  obtain ⟨label, listed, byte, written, digit⟩ := host.named
  refine inetAton_of_named (mem_dotted listed written) digit ?_ acc dots result
  rintro rfl
  exact host.plain label listed written

/-! ## The address of a host -/

/-- What `inet_aton` leaves of the result when the host is no numeric address. -/
def leftResult (aHostname : List UInt8) (aResult : UInt32) : UInt32 :=
  let (_, result) := inetAton aHostname 0 0 (bytes32 aResult)
  word32 (result.getD 0 0) (result.getD 1 0) (result.getD 2 0) (result.getD 3 0)

variable {udp : EthernetUdp} {message : Message} {rounds : Nat} {iDnsServer aAddress : UInt32}
  {iRequestId timeout : UInt16} {input : ResponseInput}

/-- A silent wait leaves the time for the next one. -/
theorem awaitResponse_silent (silent : Silent input.startTime timeout.toUInt32 input.polls)
    (inputs : List ResponseInput) (udp : EthernetUdp) :
    ∃ after, awaitResponse rounds iDnsServer iRequestId timeout (input :: inputs) aAddress udp =
      awaitResponse rounds iDnsServer iRequestId timeout inputs aAddress after := by
  obtain ⟨after, waits⟩ := awaitPacket_silent silent udp
  refine ⟨after, ?_⟩
  rw [awaitResponse, processResponse, waits]
  rfl

/-- The wait in which a datagram has come is the last one, unless it times out. -/
theorem awaitResponse_delivers {datagram : Datagram}
    (size : 0 < Int16.ofNat datagram.bytes.length)
    (delivers : Delivers input.startTime timeout.toUInt32 datagram input.polls)
    (inputs : List ResponseInput) :
    awaitResponse rounds iDnsServer iRequestId timeout (input :: inputs) aAddress udp =
      (processPacket rounds iDnsServer iRequestId input aAddress
        ⟨datagram.ip, datagram.port, datagram.bytes⟩).bind fun result =>
          if result.1 = .timedOut then
            awaitResponse rounds iDnsServer iRequestId timeout inputs result.2.1 result.2.2
          else some result := by
  rw [awaitResponse, processResponse, awaitPacket_delivers size delivers]
  rfl

/-- The datagram is what the client waits for: it comes from the server in one of the three waits,
and the waits before that are silent. -/
structure Answers (iDnsServer : UInt32) (timeout : UInt16) (input : HostInput)
    (datagram : Datagram) (wait : Fin 3) : Prop where
  begun : input.isBegun = true
  packetBegun : input.isPacketBegun = true
  sent : input.isSent = true
  silent : ∀ earlier < wait,
    Silent (input.responses earlier).startTime timeout.toUInt32 (input.responses earlier).polls
  delivers : Delivers (input.responses wait).startTime timeout.toUInt32 datagram
    (input.responses wait).polls
  size : 0 < Int16.ofNat datagram.bytes.length
  fromServer : datagram.ip = iDnsServer
  port : datagram.port = dnsPort

variable {hostInput : HostInput} {datagram : Datagram} {wait : Fin 3}

/-- What the client makes of the datagram is what it makes of the wait. -/
theorem awaitResponse_answers (answers : Answers iDnsServer timeout hostInput datagram wait)
    (rounds : Nat) (iRequestId : UInt16) (aAddress : UInt32) (udp : EthernetUdp) :
    ∃ inputs, awaitResponse rounds iDnsServer iRequestId timeout
        [hostInput.responses 0, hostInput.responses 1, hostInput.responses 2] aAddress udp =
      (processPacket rounds iDnsServer iRequestId (hostInput.responses wait) aAddress
        ⟨datagram.ip, datagram.port, datagram.bytes⟩).bind fun result =>
          if result.1 = .timedOut then
            awaitResponse rounds iDnsServer iRequestId timeout inputs result.2.1 result.2.2
          else some result := by
  obtain ⟨-, -, -, silent, delivers, size, -, -⟩ := answers
  match wait with
  | 0 => exact ⟨_, awaitResponse_delivers size delivers _⟩
  | 1 =>
      obtain ⟨after, first⟩ := awaitResponse_silent (silent 0 (by decide))
        [hostInput.responses 1, hostInput.responses 2] udp
      exact ⟨_, first.trans (awaitResponse_delivers size delivers _)⟩
  | 2 =>
      obtain ⟨after, first⟩ := awaitResponse_silent (silent 0 (by decide))
        [hostInput.responses 1, hostInput.responses 2] udp
      obtain ⟨later, second⟩ := awaitResponse_silent (silent 1 (by decide))
        [hostInput.responses 2] after
      exact ⟨_, (first.trans second).trans (awaitResponse_delivers size delivers _)⟩

/-- A host that is no numeric address is asked for. -/
theorem getHostByName_answers {labels : List Label} (host : IsHost labels)
    (asks : iDnsServer ≠ inaddrNone)
    (answers : Answers iDnsServer timeout hostInput datagram wait) (rounds : Nat)
    (aResult : UInt32) (udp : EthernetUdp) :
    ∃ inputs, getHostByName rounds iDnsServer (dotted labels) timeout hostInput aResult udp =
      ((processPacket rounds iDnsServer (millis hostInput.requestTime).toUInt16
          (hostInput.responses wait) (leftResult (dotted labels) aResult)
          ⟨datagram.ip, datagram.port, datagram.bytes⟩).bind fun result =>
        if result.1 = .timedOut then
          awaitResponse rounds iDnsServer (millis hostInput.requestTime).toUInt16 timeout inputs
            result.2.1 result.2.2
        else some result).map fun result => (result.1.value, result.2.1,
          some (query (millis hostInput.requestTime).toUInt16 labels).encode) := by
  obtain ⟨inputs, waits⟩ := awaitResponse_answers answers rounds
    (millis hostInput.requestTime).toUInt16 (leftResult (dotted labels) aResult)
    { udp with remaining := [] }
  refine ⟨inputs, ?_⟩
  rw [← waits, ← buildRequest_eq host, getHostByName]
  have numeric := host.not_numeric 0 0 (bytes32 aResult)
  have ready : ¬ (hostInput.isBegun = false ∨ hostInput.isPacketBegun = false ∨
      hostInput.isSent = false) := by
    simp [answers.begun, answers.packetBegun, answers.sent]
  simp only [numeric, if_neg asks, if_neg ready, Bool.false_eq_true, if_false]
  exact Option.map_eq_bind.symm

theorem outcome_ne_timedOut (answers : List Answer) (aAddress : UInt32) :
    (outcome answers aAddress).1 ≠ .timedOut := by
  induction answers with
  | nil => exact nofun
  | cons answer answers ih =>
      rw [outcome_cons]
      split
      · unfold Answer.outcome
        split <;> exact nofun
      · exact ih

/-- A host is resolved by the message that answers. Whatever the host's labels, in whichever of
the three waits the response comes, whatever names, records of other types and other sections it
has, and whatever was in the variables that it is read into: what is sent is the query for the
host, and what is returned is the first address among the answers. -/
theorem host_resolved {labels : List Label} (host : IsHost labels)
    (asks : iDnsServer ≠ inaddrNone)
    (answers : Answers iDnsServer timeout hostInput datagram wait)
    (carries : datagram.bytes = message.encode)
    (responds : message.Responds (millis hostInput.requestTime).toUInt16)
    (enough : message.RoundsSuffice rounds) (aResult : UInt32) (udp : EthernetUdp) :
    getHostByName rounds iDnsServer (dotted labels) timeout hostInput aResult udp =
      some ((outcome message.answers (leftResult (dotted labels) aResult)).1.value,
        (outcome message.answers (leftResult (dotted labels) aResult)).2,
        some (query (millis hostInput.requestTime).toUInt16 labels).encode) := by
  obtain ⟨inputs, waits⟩ := getHostByName_answers host asks answers rounds aResult udp
  obtain ⟨after, processed⟩ :
      ∃ after, processPacket rounds iDnsServer (millis hostInput.requestTime).toUInt16
          (hostInput.responses wait) (leftResult (dotted labels) aResult)
          ⟨datagram.ip, datagram.port, datagram.bytes⟩ =
        some ((outcome message.answers (leftResult (dotted labels) aResult)).1,
          (outcome message.answers (leftResult (dotted labels) aResult)).2, after) :=
    processPacket_spec _ _ responds enough answers.fromServer answers.port carries
  rw [waits, processed, Option.bind_some, if_neg (outcome_ne_timedOut _ _)]
  rfl

/-- A response that ends within a name is never done with: the client asks for the next byte for
ever, and the sketch with it. -/
theorem cut_off_never_returns {labels : List Label} (host : IsHost labels)
    (asks : iDnsServer ≠ inaddrNone)
    (answers : Answers iDnsServer timeout hostInput datagram wait)
    (responds : message.Responds (millis hostInput.requestTime).toUInt16)
    (ends : EndsInName message datagram.bytes) (aResult : UInt32) (udp : EthernetUdp)
    (rounds : Nat) :
    getHostByName rounds iDnsServer (dotted labels) timeout hostInput aResult udp = none := by
  obtain ⟨inputs, waits⟩ := getHostByName_answers host asks answers rounds aResult udp
  rw [waits, processPacket_endsInName responds answers.fromServer answers.port ends]
  rfl

/-! ## Giving up -/

theorem readAnswers_ne_timedOut {answerLocals : Nat → AnswerLocals} {count : Nat}
    {headerFlags : List UInt8} {code : DnsCode} {address : UInt32} {after : EthernetUdp}
    (ended : readAnswers rounds answerLocals count headerFlags aAddress udp =
      some (code, address, after)) : code ≠ .timedOut := by
  induction count generalizing headerFlags udp with
  | zero =>
      obtain ⟨rfl, -⟩ := Prod.mk.inj (Option.some.inj ended)
      exact nofun
  | succ count ih =>
      obtain ⟨behind, -, ended⟩ := Option.bind_eq_some_iff.mp ended
      dsimp only at ended
      split at ended
      · split at ended
        all_goals
          obtain ⟨rfl, -⟩ := Prod.mk.inj (Option.some.inj ended)
          exact nofun
      · exact ih ended

/-- A packet that has come is no reason to wait again. -/
theorem processPacket_ne_timedOut {code : DnsCode} {address : UInt32} {after : EthernetUdp}
    (ended : processPacket rounds iDnsServer iRequestId input aAddress udp =
      some (code, address, after)) : code ≠ .timedOut := by
  unfold processPacket at ended
  dsimp only at ended
  iterate 5
    split at ended
    · obtain ⟨rfl, -⟩ := Prod.mk.inj (Option.some.inj ended)
      exact nofun
  obtain ⟨behind, -, ended⟩ := Option.bind_eq_some_iff.mp ended
  exact readAnswers_ne_timedOut ended

/-- A call that gives up has waited in vain, and then goes on to the next wait. -/
theorem awaitResponse_timedOut {inputs : List ResponseInput} {address : UInt32}
    {after : EthernetUdp}
    (ended : awaitResponse rounds iDnsServer iRequestId timeout (input :: inputs) aAddress udp =
      some (.timedOut, address, after)) :
    (∃ now, GivesUpAt input.startTime timeout.toUInt32 now input.polls) ∧
      ∃ later, awaitResponse rounds iDnsServer iRequestId timeout inputs aAddress later =
        some (.timedOut, address, after) := by
  obtain ⟨⟨code, found, behind⟩, response, ended⟩ := Option.bind_eq_some_iff.mp ended
  obtain ⟨⟨arrived, waited⟩, waits, response⟩ := Option.bind_eq_some_iff.mp response
  dsimp only at response ended
  rcases awaitPacket_cases waits with ⟨rfl, -⟩ | ⟨rfl, gaveUp⟩
  · have other := processPacket_ne_timedOut response
    rw [if_neg other] at ended
    exact absurd (Prod.mk.inj (Option.some.inj ended)).1 other
  · obtain ⟨rfl, same⟩ := Prod.mk.inj (Option.some.inj response)
    obtain ⟨rfl, rfl⟩ := Prod.mk.inj same
    exact ⟨gaveUp, _, ended⟩

/-- The clock does not run back between the request and the last poll. -/
structure HostInput.Ordered (input : HostInput) : Prop where
  asked : input.requestTime ≤ (input.responses 0).startTime
  polled : ∀ wait, ∀ poll ∈ (input.responses wait).polls,
    (input.responses wait).startTime ≤ poll.2
  second : ∀ poll ∈ (input.responses 0).polls, poll.2 ≤ (input.responses 1).startTime
  third : ∀ poll ∈ (input.responses 1).polls, poll.2 ≤ (input.responses 2).startTime

/-- A wait in vain takes its time. -/
theorem waited_timeout {now : Nat}
    (ordered : ∀ poll ∈ input.polls, input.startTime ≤ poll.2)
    (gaveUp : GivesUpAt input.startTime timeout.toUInt32 now input.polls) :
    input.startTime + timeout.toNat ≤ now := by
  obtain ⟨found, polled⟩ := gaveUp.polled
  have elapsed := Clock.wait_elapsed (ordered _ polled) (UInt32.lt_asymm gaveUp.late)
  rwa [UInt16.toNat_toUInt32] at elapsed

theorem value_eq_timedOut {code : DnsCode} (value : code.value = -1) : code = .timedOut := by
  cases code
  all_goals first | rfl | exact absurd value (by decide)

/-- A call that gives up has waited in vain three times: the poll that ends its third wait, behind
which it comes back, is three timeouts behind its request or later. The sketch gives four seconds
to each wait, and its watchdog eight to a turn of `loop()`. -/
theorem unanswered_outlasts {aHostname : List UInt8} {aResult address : UInt32}
    {sent : Option (List UInt8)} (ordered : hostInput.Ordered)
    (gaveUp : getHostByName rounds iDnsServer aHostname timeout hostInput aResult udp =
      some (-1, address, sent)) :
    ∃ now, GivesUpAt (hostInput.responses 2).startTime timeout.toUInt32 now
        (hostInput.responses 2).polls ∧
      hostInput.requestTime + 3 * timeout.toNat ≤ now := by
  rw [getHostByName] at gaveUp
  split at gaveUp
  dsimp only at gaveUp
  have other {value : Int16} {rest : UInt32 × Option (List UInt8)}
      (same : some (value, rest) = some (-1, address, sent)) : value = -1 :=
    (Prod.mk.inj (Option.some.inj same)).1
  split at gaveUp
  · exact absurd (other gaveUp) (by decide)
  split at gaveUp
  · exact absurd (other gaveUp) (by decide)
  split at gaveUp
  · exact absurd (other gaveUp) (by decide)
  obtain ⟨⟨code, found, after⟩, waits, ended⟩ := Option.bind_eq_some_iff.mp gaveUp
  obtain rfl := value_eq_timedOut (Prod.mk.inj (Option.some.inj ended)).1
  obtain ⟨⟨first, firstGivesUp⟩, _, waits⟩ := awaitResponse_timedOut waits
  obtain ⟨⟨second, secondGivesUp⟩, _, waits⟩ := awaitResponse_timedOut waits
  obtain ⟨⟨third, thirdGivesUp⟩, -⟩ := awaitResponse_timedOut waits
  have one := waited_timeout (ordered.polled 0) firstGivesUp
  have two := waited_timeout (ordered.polled 1) secondGivesUp
  have three := waited_timeout (ordered.polled 2) thirdGivesUp
  have asked := ordered.asked
  obtain ⟨_, firstPolled⟩ := firstGivesUp.polled
  obtain ⟨_, secondPolled⟩ := secondGivesUp.polled
  have later := ordered.second _ firstPolled
  have last := ordered.third _ secondPolled
  exact ⟨third, thirdGivesUp, by omega⟩

end Dns

/-! ## A host of one label -/

namespace Dns

/-- The host "x". -/
def hostX : List Label := [⟨[120], by decide, by decide⟩]

/-- Its canonical name and its address, 10.0.0.7. -/
def responseX : Message where
  id := 7
  flags := 0x8180
  questions := [⟨hostX, typeA, classIn⟩]
  answers := [⟨⟨[], some (0, 12)⟩, 5, classIn, 60, [1, 121, 0], by decide⟩,
    ⟨⟨hostX, none⟩, typeA, classIn, 60, [10, 0, 0, 7], by decide⟩]
  otherCounts := 0
  others := []
  questionsFit := by decide
  answersFit := by decide

/-- The server at 10.0.0.1 sends these bytes in the second wait. -/
def answersX (bytes : List UInt8) (fits : bytes.length < 65536) : HostInput where
  isBegun := true
  isPacketBegun := true
  isSent := true
  requestTime := 7
  responses wait :=
    { startTime := if wait = 0 then 8 else 9000
      polls := if wait = 0 then [(none, 60), (none, 9000)]
        else [(none, 9050), (some ⟨word32 10 0 0 1, dnsPort, bytes, fits⟩, 9100)]
      questionLen := fun _ => 200
      answerLocals := fun _ => ⟨0, 0, 0⟩ }

theorem isHost_hostX : IsHost hostX := ⟨by decide, by decide⟩

theorem responds_responseX : responseX.Responds (millis 7).toUInt16 :=
  ⟨by decide, by decide, by decide, by decide, by decide⟩

/-- They are what the client waits for. -/
theorem answers_answersX {bytes : List UInt8} (fits : bytes.length < 65536)
    (size : 0 < Int16.ofNat bytes.length) :
    Answers (word32 10 0 0 1) 5000 (answersX bytes fits) ⟨word32 10 0 0 1, dnsPort, bytes, fits⟩
      1 where
  begun := rfl
  packetBegun := rfl
  sent := rfl
  silent := by
    intro earlier first
    obtain rfl : earlier = 0 := by omega
    have early : ¬ (5000 : UInt16).toUInt32 < millis 60 - millis 8 := by decide
    have late : (5000 : UInt16).toUInt32 < millis 9000 - millis 8 := by decide
    exact .wait early (.late late)
  delivers :=
    have early : ¬ (5000 : UInt16).toUInt32 < millis 9050 - millis 9000 := by decide
    .wait early .arrive
  size := size
  fromServer := rfl
  port := rfl

theorem host_resolved_hostX :
    getHostByName 2 (word32 10 0 0 1) [120] 5000 (answersX responseX.encode (by decide)) 0
        ⟨0, 0, []⟩ =
      some (1, word32 10 0 0 7, some
        [7, 0, 1, 0, 0, 1, 0, 0, 0, 0, 0, 0, 1, 120, 0, 0, 1, 0, 1]) :=
  host_resolved isHost_hostX (by decide) (answers_answersX _ (by decide)) rfl responds_responseX
    ⟨by decide, by decide⟩ 0 ⟨0, 0, []⟩

/-- The same response, cut off behind the first byte of the name that its address has. -/
theorem cut_off_never_returns_hostX :
    getHostByName 65536 (word32 10 0 0 1) [120] 5000
      (answersX (responseX.encode.take 35) (by decide)) 0 ⟨0, 0, []⟩ = none := by
  have ends : EndsInName responseX (responseX.encode.take 35) :=
    @EndsInName.answer responseX [⟨⟨[], some (0, 12)⟩, 5, classIn, 60, [1, 121, 0], by decide⟩] []
      ⟨⟨hostX, none⟩, typeA, classIn, 60, [10, 0, 0, 7], by decide⟩ [1] rfl (by decide)
      ⟨by decide, by decide⟩
  exact cut_off_never_returns isHost_hostX (by decide) (answers_answersX _ (by decide))
    responds_responseX ends 0 ⟨0, 0, []⟩ 65536

/-- The server does not answer. -/
def unansweredX : HostInput where
  isBegun := true
  isPacketBegun := true
  isSent := true
  requestTime := 1000
  responses wait :=
    { startTime := 1000 + 4050 * wait.val
      polls := [(none, 1050 + 4050 * wait.val), (none, 5050 + 4050 * wait.val)]
      questionLen := fun _ => 0
      answerLocals := fun _ => ⟨0, 0, 0⟩ }

theorem unanswered_outlasts_hostX :
    ∃ now, EthernetUdp.GivesUpAt 9100 4000 now [(none, 9150), (none, 13150)] ∧
      1000 + 3 * 4000 ≤ now :=
  unanswered_outlasts ⟨by decide, by decide, by decide, by decide⟩
    (show getHostByName 2 (word32 10 0 0 1) [120] 4000 unansweredX 0 ⟨0, 0, []⟩ =
      some (-1, 0, some (query 1000 hostX).encode) by decide)

end Dns
end BlueberryIrrigation
