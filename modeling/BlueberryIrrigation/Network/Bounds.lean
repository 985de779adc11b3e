import BlueberryIrrigation.Network.Internet
import BlueberryIrrigation.Server.Udp

/-!
# Receptions that stay inside their arrays

The two receivers make the same two subtractions from a `uint8_t` size and then copy as many
bytes as it says. A datagram whose size byte is 0 where the wrapper is all there is makes the
second subtraction wrap to 255. The server's buffer is three bytes shorter than what `recvfrom`
may store in it.
-/

namespace BlueberryIrrigation

open Semantics

/-- The first two bytes of a frame that has nothing between its size byte and its end. -/
def Hollow (bytes : List UInt8) : Prop :=
  bytes[0]? = some wrapperByteStart ∧ bytes[1]? = some 0

instance (bytes : List UInt8) : Decidable (Hollow bytes) := inferInstanceAs (Decidable (_ ∧ _))

namespace Server

/-- The checks stay inside the arrays, and no subtraction wraps, unless the frame is hollow. -/
theorem unwrapFrame_contained (s : Server) (fresh : s.packet.subtractions = [])
    (short : s.packet.size.toNat ≤ wrapperByteSizeMax) :
    Memory.Ensures s.unwrapFrame (fun after => after.1.packet.Unwrapped) ↔
      ¬ (s.packet.size = wrapperSize ∧ s.buffer 0 = wrapperByteStart ∧ s.buffer 1 = 0) := by
  have unwrapped : s.packet.Unwrapped := by simp [Packet.Unwrapped, fresh]
  unfold unwrapFrame
  simp only [Memory.ensures_bind, Memory.ensures_ite, Memory.ensures_pure, Memory.ensures_load]
  simp only [Packet.unwrapped_mk, Packet.unwrapped_shrink, Packet.shrink_size, unwrapped, and_true]
  constructor
  · rintro ⟨-, sized⟩ ⟨three, start, zero⟩
    rw [three] at sized
    obtain ⟨-, framed⟩ := sized (by decide)
    obtain ⟨_, -, started⟩ := framed (by decide)
    obtain ⟨_, -, counted⟩ := started (not_not_intro start)
    obtain ⟨-, identified⟩ := counted (not_not_intro zero)
    obtain ⟨_, other, own⟩ := identified (by decide)
    by_cases id : s.buffer 2 = arduinoId
    · exact copyBody_overflows (by decide) (by decide) (own (not_not_intro id))
    · exact absurd (other id).1 (by decide)
  · intro sound
    refine ⟨fun _ => trivial, fun _ => ⟨fun _ => trivial, fun enough =>
      ⟨by decide, fun _ => trivial, fun start => ⟨by decide, fun _ => ?_, fun counted => ?_⟩⟩⟩⟩
    · exact UInt8.not_lt.mp enough
    · have wrapper : wrapperSize ≤ s.packet.size := UInt8.not_lt.mp enough
      have other : s.packet.size ≠ wrapperSize := by
        intro same
        refine sound ⟨same, not_not.mp start, (not_not.mp counted).trans ?_⟩
        rw [same]
        rfl
      obtain ⟨header, bodySize⟩ := shrunk_size wrapper other
      refine ⟨fun _ => ⟨header, wrapper⟩, fun _ => ⟨by decide, fun _ => ⟨header, wrapper⟩,
        fun _ => ?_⟩⟩
      have declared : wrapperByteSizeMax = 65 := rfl
      have room : bodyDataSize = 64 := rfl
      have third : (3 : UInt8).toNat = 3 := rfl
      have three : 3 ≤ s.packet.size.toNat := wrapper
      have four : s.packet.size.toNat ≠ 3 := fun same => other (UInt8.toNat_inj.mp same)
      refine (copyBody_fits ?_ ?_).mono fun copied copy => ?_
      · omega
      · omega
      · have behind := copy.1
        exact ⟨by omega, fun _ => ⟨header, wrapper⟩, fun _ => ⟨header, wrapper⟩⟩

/-- The reception stays inside the arrays for the datagrams that fit the buffer. -/
theorem serverUdpReceive_contained (s : Server) (datagram : Datagram) :
    Memory.Ensures (s.serverUdpReceive datagram) (fun after => after.1.packet.Unwrapped) ↔
      datagram.bytes.length ≤ wrapperByteSizeMax ∧
        ¬ (datagram.bytes.length = 3 ∧ Hollow datagram.bytes) := by
  rw [ensures_receive_iff]
  refine and_congr_right fun short => ?_
  have size := @received_size s datagram short
  have three : (s.received datagram).packet.size = wrapperSize ↔ datagram.bytes.length = 3 := by
    rw [← UInt8.toNat_inj, size]
    rfl
  rw [unwrapFrame_contained _ rfl (by rwa [size]), three]
  refine not_congr (and_congr_right fun exact => ?_)
  have first : 0 < datagram.bytes.length := by omega
  have second : 1 < datagram.bytes.length := by omega
  simp only [received, Hollow, Memory.overlay, Nat.zero_le, if_true]
  simp [List.getD_eq_getElem?_getD, List.getElem?_eq_getElem first,
    List.getElem?_eq_getElem second]

end Server

namespace Network

/-- The reception stays inside the packet, and no subtraction wraps, unless the configured
sender's frame is hollow. -/
theorem internetReceive_contained (n : Network) (now : Nat) (fresh : n.packet.subtractions = []) :
    Memory.Ensures (n.internetReceive now) (fun after => after.packet.Unwrapped) ↔
      ¬ (n.udp.remoteIp = n.ipRemote ∧ n.udp.remotePort = internetRemotePort ∧
        n.packet.size = wrapperSize ∧ Hollow n.udp.remaining) := by
  have unwrapped : n.packet.Unwrapped := by simp [Packet.Unwrapped, fresh]
  unfold internetReceive
  simp only [Memory.ensures_bind, Memory.ensures_ite, Memory.ensures_pure,
    ensures_receiveBody (Nat.zero_le _)]
  simp only [readNext, record, Packet.unwrapped_mk, Packet.unwrapped_shrink, Packet.shrink_size,
    unwrapped, and_true, EthernetUdp.read_eq n.udp, EthernetUdp.read_next n.udp]
  constructor
  · rintro ⟨-, sender⟩ ⟨ip, port, three, start, zero⟩
    rw [three] at sender
    obtain ⟨-, addressed⟩ := sender (not_not_intro ip)
    obtain ⟨-, sized⟩ := addressed (not_not_intro port)
    obtain ⟨-, framed⟩ := sized (by decide)
    obtain ⟨-, started⟩ := framed (by decide)
    obtain ⟨-, counted⟩ := started (not_not_intro start)
    obtain ⟨-, identified⟩ := counted (not_not_intro zero)
    obtain ⟨other, own⟩ := identified (by decide)
    by_cases id : n.udp.next.next.read = some serverId
    · exact absurd (own (not_not_intro id)).1 (by decide)
    · exact absurd (other id).1 (by decide)
  · intro sound
    refine ⟨fun _ => trivial, fun ip => ⟨fun _ => trivial, fun port => ⟨fun _ => trivial, fun big =>
      ⟨fun _ => trivial, fun enough => ⟨fun _ => trivial, fun start => ⟨fun _ => ?_, fun counted =>
        ?_⟩⟩⟩⟩⟩⟩
    · exact UInt8.not_lt.mp enough
    · have wrapper : wrapperSize ≤ n.packet.size := UInt8.not_lt.mp enough
      have other : n.packet.size ≠ wrapperSize := by
        intro same
        refine sound ⟨not_not.mp ip, not_not.mp port, same, not_not.mp start,
          (not_not.mp counted).trans ?_⟩
        rw [same]
        rfl
      obtain ⟨header, bodySize⟩ := shrunk_size wrapper other
      have both : headerSize ≤ n.packet.size - wrapperSize ∧ wrapperSize ≤ n.packet.size :=
        ⟨header, wrapper⟩
      refine ⟨fun _ => both, fun _ => ⟨fun _ => both, fun _ => ⟨?_, fun _ => both, fun _ => both⟩⟩⟩
      have limit : n.packet.size.toNat ≤ 68 := UInt8.not_lt.mp big
      have room : bodyDataSize = 64 := rfl
      omega

/-- The frames that make the Arduino's size wrap: from the configured sender, hollow, and of
three bytes as far as the `uint8_t` size can tell. -/
def Wraps (n : Network) (datagram : Datagram) : Prop :=
  datagram.ip = n.ipRemote ∧ datagram.port = internetRemotePort ∧
    datagram.bytes.length % 256 = 3 ∧ Hollow datagram.bytes

/-- A poll that finds a datagram stays inside the packet unless the datagram wraps its size. -/
theorem internetPoll_contained (n : Network) (now : Nat) (datagram : Datagram) :
    Memory.Ensures (n.internetPoll now (some datagram)) (fun after => after.packet.Unwrapped) ↔
      ¬ n.Wraps datagram := by
  have three : UInt8.ofNat datagram.bytes.length = wrapperSize ↔
      datagram.bytes.length % 256 = 3 := by
    rw [← UInt8.toNat_inj, UInt8.toNat_ofNat']
    rfl
  unfold internetPoll
  rw [Memory.ensures_ite, internetReceive_contained _ _ rfl]
  simp only [parsePacket, Option.elim_some, EthernetUdp.parsePacket, three]
  constructor
  · rintro ⟨received, -⟩ wraps
    refine received (fun empty => ?_) wraps
    rw [three.mpr wraps.2.2.1] at empty
    exact absurd empty (by decide)
  · intro sound
    exact ⟨fun _ => sound, fun _ => (Memory.ensures_ok _).mpr (by simp [Packet.Unwrapped])⟩

end Network

/-- The receptions of both ends stay inside their arrays, with sizes that do not wrap, for these
datagrams and for no others. -/
theorem reception_contained (s : Server) (n : Network) (now : Nat) (datagram : Datagram) :
    (Memory.Ensures (s.serverUdpReceive datagram) (fun after => after.1.packet.Unwrapped) ↔
      datagram.bytes.length ≤ wrapperByteSizeMax ∧
        ¬ (datagram.bytes.length = 3 ∧ Hollow datagram.bytes)) ∧
    (Memory.Ensures (n.internetPoll now (some datagram)) (fun after => after.packet.Unwrapped) ↔
      ¬ n.Wraps datagram) :=
  ⟨s.serverUdpReceive_contained datagram, n.internetPoll_contained now datagram⟩

/-- A datagram of 66 bytes leaves the server's buffer, and three bytes from the configured sender
make the Arduino store beyond its packet. -/
theorem reception_not_contained :
    let server : Server := ⟨Network.unset.packet, fun _ => 0⟩
    let long : Datagram := ⟨1, 8765, List.replicate 66 2, by decide⟩
    let answers : ChipAnswers :=
      { ethernetBegins := true
        udpBegins := true
        resolved := some 167772161
        isSent := true
        arrived := none
        later := 4000 }
    let ready := Network.unset.internetInit 3000 answers
    let hollow : Datagram := ⟨167772161, internetRemotePort, [2, 0, 170], by decide⟩
    server.serverUdpReceive long = .error ⟨wrapperByteSizeMax, 65⟩ ∧
      ready.internetPoll 4001 (some hollow) = .error ⟨bodyDataSize, 64⟩ :=
  ⟨rfl, rfl⟩

end BlueberryIrrigation
