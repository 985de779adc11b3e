import BlueberryIrrigation.Network.Internet

/-!
# The channel between `internet_receive` and the dispatcher

One flag and one packet carry a frame from the reception to `interface_process_data`.
`Outgoing` is what the functions that send do to the network. `ChannelKept` is what every function
but `internet_receive` does to the channel: nothing that the dispatcher can see. `Accepts` is what
a reception leaves when it takes a frame.
-/

namespace BlueberryIrrigation

open Semantics

/-- The body that the size byte of a frame announces. -/
def frameBody (frame : List UInt8) : List UInt8 := (frame.drop 3).take ((frame.getD 1 0).toNat - 1)

namespace Packet

theorem length_body {packet : Packet} (fits : packet.size.toNat ≤ bodyDataSize) :
    packet.body.length = packet.size.toNat := by
  simp [body, Memory.firstEntries, fits]

/-- The first byte of a body is the one the `switch` looks at. -/
theorem head_body {packet : Packet} (nonempty : packet.size ≠ 0) :
    packet.body.head? = some (packet.data 0) := by
  have positive : 0 < packet.size.toNat := by
    rw [Nat.pos_iff_ne_zero]
    exact fun zero => nonempty (UInt8.toNat_inj.mp zero)
  simp [body, Memory.firstEntries, List.head?_take, positive.ne']

end Packet

namespace Network

/-- The frames accepted so far, newest first. -/
def accepted (n : Network) : List (List UInt8) :=
  n.events.filterMap fun
    | .accepted frame => some frame
    | _ => none

/-- The bodies dispatched so far, newest first. -/
def dispatched (n : Network) : List (List UInt8) :=
  n.events.filterMap fun
    | .dispatched body => some body
    | _ => none

/-- Status and flag are as before, and nothing but frames sent has been recorded. -/
structure Outgoing (before after : Network) : Prop where
  status : after.status = before.status
  waiting : after.isReceiveWait = before.isReceiveWait
  /-- Who leaves out the frames sent sees the same events. -/
  events : ∀ {α : Type} (select : NetworkEvent → Option α),
    (∀ ip port frame, select (.sent ip port frame) = none) →
      after.events.filterMap select = before.events.filterMap select

namespace Outgoing

variable {first second third : Network}

theorem of_eq (status : second.status = first.status)
    (waiting : second.isReceiveWait = first.isReceiveWait)
    (events : second.events = first.events) : Outgoing first second :=
  ⟨status, waiting, fun select _ => by rw [events]⟩

theorem refl (n : Network) : Outgoing n n := of_eq rfl rfl rfl

theorem trans (before : Outgoing first second) (after : Outgoing second third) :
    Outgoing first third where
  status := after.status.trans before.status
  waiting := after.waiting.trans before.waiting
  events select unsent := (after.events select unsent).trans (before.events select unsent)

theorem fillBody (bytes : List UInt8) (n : Network) :
    Memory.Allows (n.fillBody bytes) (Outgoing n) := by
  unfold Network.fillBody
  rw [Memory.allows_bind]
  exact fun data _ => (Memory.allows_pure _).mpr (of_eq rfl rfl rfl)

theorem internetSend (isSent : Bool) (n : Network) :
    Memory.Allows (n.internetSend isSent) (Outgoing n) := by
  unfold Network.internetSend
  rw [Memory.allows_ite, Memory.allows_ite]
  refine ⟨fun _ => (Memory.allows_ok _).mpr (refl n), fun _ =>
    ⟨fun _ => Memory.allows_error _, fun _ => (Memory.allows_ok _).mpr ⟨rfl, rfl, ?_⟩⟩⟩
  intro α select unsent
  rw [record, List.filterMap_cons_none (unsent ..)]

theorem internetIpRemoteUpdate (resolved : Option UInt32) (n : Network) :
    Outgoing n (n.internetIpRemoteUpdate resolved).1 := by
  unfold Network.internetIpRemoteUpdate
  split
  · exact refl n
  · cases resolved with
    | none => exact refl n
    | some ip => exact of_eq rfl rfl rfl

theorem internetPing (now : Nat) (answers : ChipAnswers) (n : Network) :
    Memory.Allows (n.internetPing now answers) (Outgoing n) := by
  unfold Network.internetPing
  rw [Memory.allows_ite, Memory.allows_bind]
  refine ⟨fun _ => (fillBody _ n).mono fun filled filling => ?_, fun _ =>
    (Memory.allows_ok _).mpr (refl n)⟩
  rw [Memory.allows_bind]
  refine (internetSend _ filled).mono fun sent sending => (Memory.allows_pure _).mpr ?_
  exact (filling.trans sending).trans (of_eq rfl rfl rfl)

end Outgoing

/-- The two states agree on the flag and on what has gone through the channel. -/
structure ChannelKept (before after : Network) : Prop where
  waiting : after.isReceiveWait = before.isReceiveWait
  accepted : after.accepted = before.accepted
  dispatched : after.dispatched = before.dispatched

theorem Outgoing.channelKept {before after : Network} (outgoing : Outgoing before after) :
    ChannelKept before after where
  waiting := outgoing.waiting
  accepted := outgoing.events _ fun _ _ _ => rfl
  dispatched := outgoing.events _ fun _ _ _ => rfl

namespace ChannelKept

variable {first second third : Network}

theorem refl (n : Network) : ChannelKept n n := ⟨rfl, rfl, rfl⟩

theorem trans (before : ChannelKept first second) (after : ChannelKept second third) :
    ChannelKept first third :=
  ⟨after.waiting.trans before.waiting, after.accepted.trans before.accepted,
    after.dispatched.trans before.dispatched⟩

theorem of_eq (waiting : second.isReceiveWait = first.isReceiveWait)
    (events : second.events = first.events) : ChannelKept first second := by
  refine ⟨waiting, ?_, ?_⟩
  · rw [Network.accepted, Network.accepted, events]
  · rw [Network.dispatched, Network.dispatched, events]

theorem fillBody (bytes : List UInt8) (n : Network) :
    Memory.Allows (n.fillBody bytes) (ChannelKept n) :=
  (Outgoing.fillBody bytes n).mono fun _ outgoing => outgoing.channelKept

theorem internetSend (isSent : Bool) (n : Network) :
    Memory.Allows (n.internetSend isSent) (ChannelKept n) :=
  (Outgoing.internetSend isSent n).mono fun _ outgoing => outgoing.channelKept

theorem internetIpRemoteUpdate (resolved : Option UInt32) (n : Network) :
    ChannelKept n (n.internetIpRemoteUpdate resolved).1 :=
  (Outgoing.internetIpRemoteUpdate resolved n).channelKept

theorem internetRestartHard (now : Nat) (n : Network) : ChannelKept n (n.internetRestartHard now) :=
  ⟨rfl, rfl, rfl⟩

theorem internetRestartSoft (now : Nat) (answers : ChipAnswers) (n : Network) :
    ChannelKept n (n.internetRestartSoft now answers) := by
  unfold Network.internetRestartSoft
  dsimp only
  split
  · exact of_eq rfl rfl
  · split
    · exact of_eq rfl rfl
    · generalize ready :
        ({ n with
          status := .ready
          timeReceiveLast := millis now
          udp.remaining := [] } : Network) = restarted
      have kept : ChannelKept n restarted := ready ▸ of_eq rfl rfl
      have updated := kept.trans (internetIpRemoteUpdate answers.resolved restarted)
      rcases result : restarted.internetIpRemoteUpdate answers.resolved with ⟨after, success⟩
      rw [result] at updated
      cases success with
      | false => exact updated
      | true => exact updated.trans (of_eq rfl rfl)

theorem internetInit (now : Nat) (answers : ChipAnswers) (n : Network) :
    ChannelKept n (n.internetInit now answers) := by
  unfold Network.internetInit
  have prepared : ChannelKept n
      { n.record (.resetPin true) with
        packet.port := internetRemotePort
        packet.id := arduinoId } := ⟨rfl, rfl, rfl⟩
  exact prepared.trans (internetRestartSoft now answers _)

theorem internetPing (now : Nat) (answers : ChipAnswers) (n : Network) :
    Memory.Allows (n.internetPing now answers) (ChannelKept n) :=
  (Outgoing.internetPing now answers n).mono fun _ outgoing => outgoing.channelKept

end ChannelKept

/-- A reception has taken this frame: its body is in the packet, and the flag is set. -/
structure Accepts (before : Network) (frame : List UInt8) (after : Network) : Prop where
  waiting : after.isReceiveWait = 1
  accepted : after.accepted = frame :: before.accepted
  dispatched : after.dispatched = before.dispatched
  body : after.packet.body = frameBody frame
  nonempty : after.packet.size ≠ 0
  fits : after.packet.size.toNat ≤ bodyDataSize

/-- The copy has succeeded only if the body fits. -/
theorem allows_receiveBody {counter remaining : Nat} {n : Network} (room : counter ≤ bodyDataSize) :
    Memory.Allows (n.receiveBody counter remaining) fun copied =>
      counter + remaining ≤ bodyDataSize ∧
        copied = { n with
          packet.data := Memory.overlay n.packet.data counter (n.udp.bytes remaining)
          udp := n.udp.skip remaining } := by
  intro copied same
  have ensured : Memory.Ensures (n.receiveBody counter remaining) (· = copied) :=
    ⟨copied, same, rfl⟩
  obtain ⟨fits, exact⟩ := (ensures_receiveBody room).mp ensured
  exact ⟨fits, exact.symm⟩

/-- The bytes read as the body are those that the frame announces, when something is left behind
them. -/
theorem bytes_frameBody {udp : EthernetUdp} {size : UInt8} (announced : udp.next.read = some size)
    (header : headerSize ≤ size)
    (ended : (udp.next.next.next.skip (size - headerSize).toNat).read ≠ none) :
    udp.next.next.next.bytes (size - headerSize).toNat = frameBody udp.remaining := by
  have count : (size - headerSize).toNat = size.toNat - 1 := UInt8.toNat_sub_of_le _ _ header
  have behind := udp.next_header
  have second : udp.remaining.getD 1 0 = size := by
    rw [List.getD_eq_getElem?_getD, ← EthernetUdp.read_next, announced]
    rfl
  have enough : (size - headerSize).toNat ≤ udp.next.next.next.remaining.length := by
    apply Nat.le_of_not_lt
    intro short
    apply ended
    rw [EthernetUdp.read, EthernetUdp.skip, List.drop_of_length_le (Nat.le_of_lt short)]
    rfl
  rw [EthernetUdp.bytes_of_le enough, behind, count, frameBody, second]
  rfl

/-- A reception leaves the channel as it was, or takes the frame that it reads. -/
theorem internetReceive_accepts (now : Nat) (n : Network) :
    Memory.Allows (n.internetReceive now) fun after =>
      ChannelKept n after ∨ Accepts n n.udp.remaining after := by
  have untouched {after : Network} (waiting : after.isReceiveWait = n.isReceiveWait)
      (events : after.events = n.events) :
      ChannelKept n after ∨ Accepts n n.udp.remaining after := .inl (.of_eq waiting events)
  unfold internetReceive
  simp only [Memory.allows_bind, Memory.allows_ite, Memory.allows_pure]
  simp only [readNext, Packet.shrink_size]
  refine ⟨fun _ => untouched rfl rfl, fun _ => ⟨fun _ => untouched rfl rfl, fun _ =>
    ⟨fun _ => untouched rfl rfl, fun _ => ⟨fun _ => untouched rfl rfl, fun enough =>
    ⟨fun _ => untouched rfl rfl, fun _ => ⟨fun _ => untouched rfl rfl, fun announced =>
    ⟨fun _ => untouched rfl rfl, fun nonempty => ⟨fun _ => untouched rfl rfl, fun _ =>
    (allows_receiveBody (Nat.zero_le _)).mono fun copied => ?_⟩⟩⟩⟩⟩⟩⟩⟩
  rintro ⟨fits, rfl⟩
  refine ⟨fun _ => untouched rfl rfl, fun ended => ?_⟩
  rw [Nat.zero_add] at fits
  have other : n.packet.size ≠ wrapperSize := by
    intro same
    rw [same] at fits
    exact absurd fits (by decide)
  have header := (shrunk_size (UInt8.not_lt.mp enough) other).1
  have bytes := bytes_frameBody (not_not.mp announced) header
    (by rw [not_not.mp ended]; exact Option.some_ne_none _)
  have length := EthernetUdp.length_bytes (n.packet.size - wrapperSize - headerSize).toNat
    n.udp.next.next.next
  have copied := Memory.firstEntries_overlay n.packet.data (length.le.trans fits)
  rw [length, bytes] at copied
  rw [bytes]
  exact .inr
    { waiting := rfl
      accepted := rfl
      dispatched := rfl
      body := copied
      nonempty := nonempty
      fits := fits }

/-- What kept the channel before a reception does not matter to it. -/
theorem Accepts.behind {first second third : Network} {frame : List UInt8}
    (kept : ChannelKept first second) (accepts : Accepts second frame third) :
    Accepts first frame third where
  waiting := accepts.waiting
  accepted := by rw [accepts.accepted, kept.accepted]
  dispatched := accepts.dispatched.trans kept.dispatched
  body := accepts.body
  nonempty := accepts.nonempty
  fits := accepts.fits

/-- A poll can only take the datagram that has arrived. -/
theorem internetPoll_accepts (now : Nat) (arrived : Option Datagram) (n : Network) :
    Memory.Allows (n.internetPoll now arrived) fun after =>
      ChannelKept n after ∨ ∃ datagram,
        arrived = some datagram ∧ Accepts n datagram.bytes after := by
  have parsing : ChannelKept n (n.parsePacket arrived) := .of_eq rfl rfl
  unfold internetPoll
  rw [Memory.allows_ite]
  constructor
  · intro nonempty
    cases arrived with
    | none => exact absurd rfl nonempty
    | some datagram =>
        refine (internetReceive_accepts now _).mono fun after received => ?_
        rcases received with kept | accepts
        · exact .inl (parsing.trans kept)
        · exact .inr ⟨datagram, rfl, accepts.behind parsing⟩
  · exact fun _ => (Memory.allows_ok _).mpr (.inl parsing)

/-- `internet_update` takes a frame only while none is waiting. -/
theorem internetUpdate_accepts (now : Nat) (answers : ChipAnswers) (n : Network) :
    Memory.Allows (n.internetUpdate now answers) fun after =>
      ChannelKept n after ∨ n.isReceiveWait = 0 ∧ ∃ datagram,
        answers.arrived = some datagram ∧ Accepts n datagram.bytes after := by
  have quiet {after : Network} (kept : ChannelKept n after) :
      Memory.Allows (.ok after) fun after => ChannelKept n after ∨ n.isReceiveWait = 0 ∧
        ∃ datagram, answers.arrived = some datagram ∧ Accepts n datagram.bytes after :=
    (Memory.allows_ok _).mpr (.inl kept)
  unfold internetUpdate
  cases n.status with
  | restarting =>
      rw [Memory.allows_ite]
      exact ⟨fun _ => quiet (.refl n), fun _ => quiet ⟨rfl, rfl, rfl⟩⟩
  | initializing =>
      rw [Memory.allows_ite]
      exact ⟨fun _ => quiet (.refl n), fun _ => quiet (.internetRestartSoft now answers n)⟩
  | uninitialized =>
      rw [Memory.allows_ite]
      exact ⟨fun _ => quiet (.internetRestartHard now n), fun _ => quiet (.refl n)⟩
  | ready =>
      rw [Memory.allows_ite, Memory.allows_ite, Memory.allows_bind]
      refine ⟨fun _ => quiet (.internetRestartHard now n), fun _ => ⟨fun _ => quiet (.refl n),
        fun idle => (ChannelKept.internetPing now answers n).mono fun pinged kept => ?_⟩⟩
      refine (internetPoll_accepts _ _ pinged).mono fun after polled => ?_
      rcases polled with unmoved | ⟨datagram, arrived, accepts⟩
      · exact .inl (kept.trans unmoved)
      · exact .inr ⟨not_not.mp idle, datagram, arrived, accepts.behind kept⟩

end Network
end BlueberryIrrigation
