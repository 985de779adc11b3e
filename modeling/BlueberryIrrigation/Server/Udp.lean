import BlueberryIrrigation.Network.Packet

/-!
# The server's reception (`server_udp.c`)

`recvfrom` may store up to `INTERNET_PACKET_SIZE_MAX` bytes (68) into a buffer that is declared
with `INTERNET_PACKET_WRAPPER_BYTE_SIZE_MAX` of them (65). The counters are `uint8_t`, so the
index of the buffer wraps at 256.
-/

namespace BlueberryIrrigation

open Semantics

/-- The static variables of `server_udp.c`. -/
structure Server where
  packet : Packet
  buffer : Fin wrapperByteSizeMax → UInt8

/-- `data[counter_2] = buffer[counter++]`, `remaining` times. -/
def copyBody (buffer : Fin wrapperByteSizeMax → UInt8) :
    UInt8 → Nat → Nat → (Fin bodyDataSize → UInt8) →
      Except OutOfBounds (UInt8 × (Fin bodyDataSize → UInt8))
  | counter, _, 0, data => .ok (counter, data)
  | counter, counter2, remaining + 1, data => do
      let byte ← Memory.load buffer counter.toNat
      let data ← Memory.store data counter2 byte
      copyBody buffer (counter + 1) (counter2 + 1) remaining data

namespace Server

/-- `recvfrom(socket_server, buffer, INTERNET_PACKET_SIZE_MAX, …)` of one datagram, and the
assignments that follow it. -/
def receiveDatagram (datagram : Datagram) (s : Server) : Except OutOfBounds Server := do
  let received := datagram.bytes.take packetSizeMax.toNat
  let buffer ← Memory.storeAll s.buffer 0 received
  return { s with
    buffer := buffer
    packet.ip := datagram.ip
    packet.port := datagram.port
    packet.size := UInt8.ofNat received.length
    packet.subtractions := [] }

/-- What `server_udp_receive` does with the bytes in its buffer: the checks of the frame, and
the copy of the body. -/
def unwrapFrame (s : Server) : Except OutOfBounds (Server × Bool) := do
  if packetSizeMax < s.packet.size then return (s, false)
  if s.packet.size < wrapperSize then return (s, false)
  let start ← Memory.load s.buffer 0
  if start ≠ wrapperByteStart then return (s, false)
  let s := { s with packet := s.packet.shrink wrapperSize }
  let size ← Memory.load s.buffer 1
  if size ≠ s.packet.size then return (s, false)
  let s := { s with packet := s.packet.shrink headerSize }
  if s.packet.size = 0 then return (s, false)
  let id ← Memory.load s.buffer 2
  let s := { s with packet.id := id }
  if id ≠ arduinoId then return (s, false)
  let (counter, data) ← copyBody s.buffer 3 0 s.packet.size.toNat s.packet.data
  let s := { s with packet.data := data }
  let end_ ← Memory.load s.buffer counter.toNat
  if end_ ≠ wrapperByteEnd then return (s, false)
  return (s, true)

/-- `server_udp_receive()`, when a datagram has arrived: the state it leaves and what it
returns. -/
def serverUdpReceive (datagram : Datagram) (s : Server) : Except OutOfBounds (Server × Bool) := do
  let s ← s.receiveDatagram datagram
  s.unwrapFrame

/-- `server_udp_send()`, when `sendto` succeeds: the state it leaves and the frame it sends. -/
def serverUdpSend (s : Server) : Except OutOfBounds (Server × List UInt8) := do
  let s := { s with packet.id := serverId }
  let buffer ← Memory.store s.buffer 0 wrapperByteStart
  let buffer ← Memory.store buffer 1 (s.packet.size + headerSize)
  let buffer ← Memory.store buffer 2 s.packet.id
  -- `memcpy` reads `size` bytes of the packet's data.
  if bodyDataSize < s.packet.size.toNat then .error ⟨bodyDataSize, bodyDataSize⟩
  else do
    let buffer ← Memory.storeAll buffer 3 s.packet.body
    let buffer ← Memory.store buffer (s.packet.size.toNat + 3) wrapperByteEnd
    return ({ s with buffer := buffer }, Memory.firstEntries buffer (s.packet.size.toNat + 4))

end Server

/-! ## The copy of the body -/

/-- A body that fits both arrays is copied, and the counter stands behind it. -/
theorem copyBody_fits {buffer : Fin wrapperByteSizeMax → UInt8} {counter : UInt8}
    {counter2 remaining : Nat} {data : Fin bodyDataSize → UInt8}
    (source : counter.toNat + remaining ≤ wrapperByteSizeMax)
    (target : counter2 + remaining ≤ bodyDataSize) :
    Memory.Ensures (copyBody buffer counter counter2 remaining data) fun copied =>
      copied.1.toNat = counter.toNat + remaining ∧
        copied.2 = Memory.overlay data counter2
          (((List.ofFn buffer).drop counter.toNat).take remaining) := by
  induction remaining generalizing counter counter2 data with
  | zero => simp [copyBody]
  | succ remaining ih =>
      have next : (counter + 1).toNat = counter.toNat + 1 := by
        rw [UInt8.toNat_add]
        have declared : wrapperByteSizeMax = 65 := rfl
        have small : counter.toNat + 1 < 256 := by omega
        exact Nat.mod_eq_of_lt small
      have inside : counter.toNat < wrapperByteSizeMax := by omega
      have stored : counter2 < bodyDataSize := by omega
      have first : (List.ofFn buffer).drop counter.toNat =
          buffer ⟨counter.toNat, inside⟩ :: (List.ofFn buffer).drop (counter.toNat + 1) := by
        rw [List.drop_eq_getElem_cons (by rwa [List.length_ofFn]), List.getElem_ofFn]
      simp only [copyBody, Memory.ensures_bind, Memory.ensures_load, Memory.ensures_store]
      refine ⟨inside, stored, (ih ?_ ?_).mono fun copied behind => ?_⟩
      · rw [next]
        omega
      · omega
      · obtain ⟨last, same⟩ := behind
        rw [next] at last same
        refine ⟨by omega, ?_⟩
        rw [same, first, List.take_succ_cons, Memory.overlay_cons data stored]

/-- A body that is too long for the packet is not. -/
theorem copyBody_overflows {buffer : Fin wrapperByteSizeMax → UInt8} {counter : UInt8}
    {counter2 remaining : Nat} {data : Fin bodyDataSize → UInt8}
    {property : UInt8 × (Fin bodyDataSize → UInt8) → Prop} (room : counter2 ≤ bodyDataSize)
    (overflow : bodyDataSize < counter2 + remaining) :
    ¬ Memory.Ensures (copyBody buffer counter counter2 remaining data) property := by
  induction remaining generalizing counter counter2 data with
  | zero => omega
  | succ remaining ih =>
      simp only [copyBody, Memory.ensures_bind, Memory.ensures_load, Memory.ensures_store]
      rintro ⟨_, inside, copied⟩
      exact ih inside (by omega) copied

/-! ## The bytes in the buffer -/

namespace Server

/-- The state in which the frame of a datagram that fits the buffer is checked. -/
def received (s : Server) (datagram : Datagram) : Server :=
  { s with
    buffer := Memory.overlay s.buffer 0 datagram.bytes
    packet.ip := datagram.ip
    packet.port := datagram.port
    packet.size := UInt8.ofNat datagram.bytes.length
    packet.subtractions := [] }

/-- The size of a datagram that fits the buffer does not wrap. -/
theorem received_size {s : Server} {datagram : Datagram}
    (short : datagram.bytes.length ≤ wrapperByteSizeMax) :
    (s.received datagram).packet.size.toNat = datagram.bytes.length := by
  have declared : wrapperByteSizeMax = 65 := rfl
  change (UInt8.ofNat datagram.bytes.length).toNat = _
  rw [UInt8.toNat_ofNat']
  exact Nat.mod_eq_of_lt (by omega)

/-- The reception stores what fits the buffer and checks it there. -/
theorem ensures_receive_iff {s : Server} {datagram : Datagram} {property : Server × Bool → Prop} :
    Memory.Ensures (s.serverUdpReceive datagram) property ↔
      datagram.bytes.length ≤ wrapperByteSizeMax ∧
        Memory.Ensures (s.received datagram).unwrapFrame property := by
  unfold serverUdpReceive receiveDatagram
  simp only [Memory.ensures_bind, Memory.ensures_pure, Memory.ensures_storeAll (Nat.zero_le _),
    Nat.zero_add]
  have declared : wrapperByteSizeMax = 65 := rfl
  have limit : packetSizeMax.toNat = 68 := rfl
  by_cases short : datagram.bytes.length ≤ wrapperByteSizeMax
  · have whole : datagram.bytes.take packetSizeMax.toNat = datagram.bytes :=
      List.take_of_length_le (by omega)
    rw [whole]
    exact Iff.rfl
  · have stored : (datagram.bytes.take packetSizeMax.toNat).length =
        min packetSizeMax.toNat datagram.bytes.length := List.length_take
    constructor
    · rintro ⟨fits, -⟩
      omega
    · rintro ⟨fits, -⟩
      exact absurd fits short

/-! ## The destination -/

/-- The address that `server_udp_send` copies from the packet's header into `address_client`. -/
def destination (s : Server) : UInt32 × UInt16 := (s.packet.ip, s.packet.port)

/-- None of the checks touches the address in the header. -/
theorem unwrapFrame_destination (s : Server) :
    Memory.Allows s.unwrapFrame fun after => after.1.destination = s.destination := by
  unfold unwrapFrame
  simp only [Memory.allows_bind, Memory.allows_ite, Memory.allows_pure]
  refine ⟨fun _ => trivial, fun _ => ⟨fun _ => trivial, fun _ start _ => ⟨fun _ => trivial, ?_⟩⟩⟩
  refine fun _ size _ => ⟨fun _ => rfl, fun _ => ⟨fun _ => rfl, fun _ id _ => ⟨fun _ => rfl, ?_⟩⟩⟩
  exact fun _ copied _ last _ => ⟨fun _ => rfl, fun _ => rfl⟩

/-- The reception has taken the sender's address before it checks anything. -/
theorem serverUdpReceive_destination (datagram : Datagram) (s : Server) :
    Memory.Allows (s.serverUdpReceive datagram) fun after =>
      after.1.destination = (datagram.ip, datagram.port) := by
  unfold serverUdpReceive receiveDatagram
  simp only [Memory.allows_bind, Memory.allows_pure]
  exact fun buffer _ => unwrapFrame_destination _

/-- A rejected datagram leaves the destination alone exactly when it comes from there. -/
theorem rejected_keeps_destination {s after : Server} {datagram : Datagram}
    (rejected : s.serverUdpReceive datagram = .ok (after, false)) :
    after.destination = s.destination ↔ (datagram.ip, datagram.port) = s.destination := by
  have taken := serverUdpReceive_destination datagram s
  rw [rejected, Memory.allows_ok] at taken
  rw [taken]

/-- The server talks to an Arduino at 10.0.0.1. -/
def talking : Server where
  packet := ⟨167772161, 5432, arduinoId, fun _ => 0, 0, []⟩
  buffer := fun _ => 0

theorem rejected_keeps_destination_sameSender :
    ∃ after, talking.serverUdpReceive ⟨167772161, 5432, [0], by decide⟩ = .ok (after, false) ∧
      (after.destination = talking.destination ↔ (167772161, 5432) = talking.destination) := by
  obtain ⟨after, rejected⟩ : ∃ after,
      talking.serverUdpReceive ⟨167772161, 5432, [0], by decide⟩ = .ok (after, false) := ⟨_, rfl⟩
  exact ⟨after, rejected, rejected_keeps_destination rejected⟩

/-- One byte from anywhere, which is rejected for its size, redirects the server. -/
theorem rejected_redirects :
    ∃ after, talking.serverUdpReceive ⟨3232235777, 9999, [0], by decide⟩ = .ok (after, false) ∧
      talking.destination = (167772161, 5432) ∧ after.destination = (3232235777, 9999) :=
  ⟨_, rfl, rfl, rfl⟩

end Server

end BlueberryIrrigation
