import Mathlib.Algebra.GroupWithZero.Nat
import BlueberryIrrigation.Semantics.Memory

/-!
# Packets and datagrams (`internet.h`, `server_udp.h`, `EthernetUdp.cpp`)

Both ends hold one packet, in a structure of the same shape, and share the constants of its
frame. `Packet.subtractions` is the one field the source does not have: the subtractions from
`internet_packet_body.size` since the reception began, as minuend and subtrahend.
-/

namespace BlueberryIrrigation

/-- `INTERNET_PACKET_BODY_DATA_SIZE` -/
abbrev bodyDataSize : Nat := 64

/-- A body has a first byte, so that literals are indices of it. -/
instance bodyDataSize_neZero : NeZero bodyDataSize := ⟨by decide⟩

/-- `INTERNET_PACKET_HEADER_SIZE` -/
def headerSize : UInt8 := 1

/-- `INTERNET_PACKET_WRAPPER_SIZE`: start byte, size byte, end byte. -/
def wrapperSize : UInt8 := 3

/-- `INTERNET_PACKET_WRAPPER_BYTE_START` -/
def wrapperByteStart : UInt8 := 2

/-- `INTERNET_PACKET_WRAPPER_BYTE_END` -/
def wrapperByteEnd : UInt8 := 4

/-- `INTERNET_PACKET_WRAPPER_BYTE_SIZE_MAX` -/
abbrev wrapperByteSizeMax : Nat := 65

/-- `INTERNET_PACKET_SIZE_MAX` -/
def packetSizeMax : UInt8 := 68

/-- The Arduino's id in a frame. -/
def arduinoId : UInt8 := 160

/-- The server's id in a frame. -/
def serverId : UInt8 := 170

/-- Beyond the wrapper alone, both subtractions stay above zero. -/
theorem shrunk_size {size : UInt8} (wrapper : wrapperSize ≤ size) (other : size ≠ wrapperSize) :
    headerSize ≤ size - wrapperSize ∧ (size - wrapperSize - headerSize).toNat = size.toNat - 4 := by
  have shrunk : (size - wrapperSize).toNat = size.toNat - 3 := UInt8.toNat_sub_of_le _ _ wrapper
  have three : 3 ≤ size.toNat := wrapper
  have four : size.toNat ≠ 3 := fun same => other (UInt8.toNat_inj.mp same)
  have header : headerSize ≤ size - wrapperSize := by
    rw [UInt8.le_iff_toNat_le, shrunk]
    change 1 ≤ _
    omega
  refine ⟨header, ?_⟩
  rw [UInt8.toNat_sub_of_le _ _ header, shrunk]
  change _ - 1 = _
  omega

/-- `Internet_packet` -/
structure Packet where
  ip : UInt32
  port : UInt16
  id : UInt8
  data : Fin bodyDataSize → UInt8
  size : UInt8
  subtractions : List (UInt8 × UInt8)

namespace Packet

/-- `internet_packet_body.size -= amount` -/
def shrink (amount : UInt8) (packet : Packet) : Packet :=
  { packet with
    size := packet.size - amount
    subtractions := (packet.size, amount) :: packet.subtractions }

/-- The bytes of the body. -/
def body (packet : Packet) : List UInt8 :=
  Semantics.Memory.firstEntries packet.data packet.size.toNat

/-- No subtraction from the size has gone below zero. -/
def Unwrapped (packet : Packet) : Prop :=
  ∀ subtraction ∈ packet.subtractions, subtraction.2 ≤ subtraction.1

@[simp] theorem shrink_size (amount : UInt8) (packet : Packet) :
    (packet.shrink amount).size = packet.size - amount := rfl

/-- Header and data have no part in it. -/
@[simp] theorem unwrapped_mk (ip : UInt32) (port : UInt16) (id : UInt8)
    (data : Fin bodyDataSize → UInt8) (size : UInt8) (packet : Packet) :
    (⟨ip, port, id, data, size, packet.subtractions⟩ : Packet).Unwrapped ↔ packet.Unwrapped :=
  Iff.rfl

@[simp] theorem unwrapped_shrink (amount : UInt8) (packet : Packet) :
    (packet.shrink amount).Unwrapped ↔ amount ≤ packet.size ∧ packet.Unwrapped := by
  simp [shrink, Unwrapped]

end Packet

/-- A UDP datagram as it arrives, with its sender. -/
structure Datagram where
  ip : UInt32
  port : UInt16
  bytes : List UInt8
  /-- The length field of the UDP header has 16 bits. -/
  fits : bytes.length < 65536

/-- The receiving side of `EthernetUDP`: the sender of the current packet and what is left of
it, of which `_remaining` is the length. -/
structure EthernetUdp where
  remoteIp : UInt32
  remotePort : UInt16
  remaining : List UInt8

namespace EthernetUdp

/-- `udp.read()`, where -1 says that nothing is left. -/
def read (udp : EthernetUdp) : Option UInt8 := udp.remaining.head?

/-- `udp.read()` takes one byte. -/
def next (udp : EthernetUdp) : EthernetUdp := { udp with remaining := udp.remaining.tail }

/-- `udp.read()`, assigned to a `uint8_t`. -/
def readByte (udp : EthernetUdp) : UInt8 := udp.read.getD 255

/-- `udp.parsePacket()`: what is left of the last packet is discarded, and the next datagram
becomes the current packet, if one has arrived. -/
def parsePacket (arrived : Option Datagram) (udp : EthernetUdp) : EthernetUdp :=
  match arrived with
  | some datagram => ⟨datagram.ip, datagram.port, datagram.bytes⟩
  | none => { udp with remaining := [] }

/-- The next bytes, as that many assignments of `udp.read()` to a `uint8_t` give them. -/
def bytes : Nat → EthernetUdp → List UInt8
  | 0, _ => []
  | count + 1, udp => udp.readByte :: bytes count udp.next

theorem read_eq (udp : EthernetUdp) : udp.read = udp.remaining[0]? := List.head?_eq_getElem?

theorem read_next (udp : EthernetUdp) : udp.next.read = udp.remaining[1]? := by
  simp [read_eq, next]

/-- The packet after that many reads. -/
def skip (count : Nat) (udp : EthernetUdp) : EthernetUdp :=
  { udp with remaining := udp.remaining.drop count }

theorem skip_next (count : Nat) (udp : EthernetUdp) :
    udp.next.skip count = udp.skip (count + 1) := by
  simp [skip, next]

theorem read_skip (count : Nat) (udp : EthernetUdp) :
    (udp.skip count).read = udp.remaining[count]? := by
  simp [read, skip, List.head?_drop]

/-- Three reads lead to the body of a frame. -/
theorem next_header (udp : EthernetUdp) : udp.next.next.next = udp.skip 3 := by
  rw [← skip_next, ← skip_next, ← skip_next]
  rfl

@[simp] theorem length_bytes (count : Nat) (udp : EthernetUdp) :
    (udp.bytes count).length = count := by
  induction count generalizing udp with
  | zero => rfl
  | succ count ih => simp [bytes, ih]

/-- While enough is left, the bytes read are those that arrived. -/
theorem bytes_of_le {count : Nat} {udp : EthernetUdp} (enough : count ≤ udp.remaining.length) :
    udp.bytes count = udp.remaining.take count := by
  induction count generalizing udp with
  | zero => rfl
  | succ count ih =>
      match left : udp.remaining with
      | [] =>
          rw [left] at enough
          exact absurd enough (by simp)
      | byte :: rest =>
          have room : count ≤ udp.next.remaining.length := by simpa [next, left] using enough
          rw [bytes, ih room, List.take_succ_cons]
          simp [readByte, read, next, left]

end EthernetUdp
end BlueberryIrrigation
