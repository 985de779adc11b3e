import BlueberryIrrigation.Network.Channel
import BlueberryIrrigation.Network.Frames

/-!
# Frames from one end to the other

Each sender produces the frame of its body and each receiver takes the frames of its peer. A
body of 62 to 64 bytes still fits the packets of both ends, but not the server's buffer.
-/

namespace BlueberryIrrigation

open Semantics

/-- The largest body whose frame fits the server's buffer. -/
def largestBody : Nat := 61

namespace Packet

/-- The size of the packet counts its body. -/
theorem ofNat_length_body {packet : Packet} (fits : packet.size.toNat ≤ bodyDataSize) :
    UInt8.ofNat (packet.body.length + 1) = packet.size + headerSize := by
  rw [length_body fits, UInt8.ofNat_add, UInt8.ofNat_toNat]
  rfl

end Packet

namespace Network

/-- What `internet_send` writes is the frame of the body. -/
theorem frame_eq {packet : Packet} (fits : packet.size.toNat ≤ bodyDataSize) :
    frame packet = frameOf packet.id packet.body := by
  rw [frame, frameOf, Packet.ofNat_length_body fits]

/-- A ready Arduino whose chip begins and ends the packet sends the frame of the body. -/
theorem internetSend_sends {n : Network} (ready : n.status = .ready)
    (fits : n.packet.size.toNat ≤ bodyDataSize) :
    n.internetSend true =
      .ok (n.record (.sent n.packet.ip n.packet.port (frameOf n.packet.id n.packet.body))) := by
  unfold internetSend
  rw [if_neg (by simp [ready]), if_neg (Nat.not_lt.mpr fits), frame_eq fits]

/-- The configured server's frames are taken, whatever the packet held before. -/
theorem internetPoll_takes {n : Network} {datagram : Datagram} (now : Nat)
    (ip : datagram.ip = n.ipRemote) (port : datagram.port = internetRemotePort)
    {body : List UInt8} (frame : IsFrame serverId body datagram.bytes) :
    Memory.Ensures (n.internetPoll now (some datagram)) fun after =>
      after.isReceiveWait = 1 ∧ after.packet.body = body ∧
        after.packet.size.toNat = body.length := by
  have checked := (isFrame_iff.mp frame).1
  have long := checked.long
  have short := checked.short
  have size : (UInt8.ofNat datagram.bytes.length).toNat = datagram.bytes.length := by
    rw [UInt8.toNat_ofNat']
    exact Nat.mod_eq_of_lt (by omega)
  have counted : (n.parsePacket (some datagram)).counted = datagram.bytes :=
    List.take_of_length_le (by exact size.ge)
  have nonempty : (n.parsePacket (some datagram)).packet.size ≠ 0 := by
    intro zero
    have none : datagram.bytes.length = 0 := size.symm.trans (congrArg UInt8.toNat zero)
    omega
  have sound : (n.parsePacket (some datagram)).counted ≠ [wrapperByteStart, 0, serverId] := by
    intro hollow
    rw [counted] at hollow
    rw [hollow] at long
    exact absurd long (by decide)
  unfold internetPoll
  rw [if_pos nonempty]
  refine (internetReceive_decides now ip port size.le sound).mono fun after decides => ?_
  exact decides.takes (counted ▸ frame)

end Network

namespace Server

/-- The Arduino's frames are taken, as long as they fit the buffer. -/
theorem serverUdpReceive_takes (s : Server) {datagram : Datagram} {body : List UInt8}
    (frame : IsFrame arduinoId body datagram.bytes) (short : body.length ≤ largestBody) :
    Memory.Ensures (s.serverUdpReceive datagram) fun after =>
      after.2 = true ∧ after.1.packet.body = body ∧ after.1.packet.size.toNat = body.length := by
  have long := (isFrame_iff.mp frame).1.long
  have declared : wrapperByteSizeMax = 65 := rfl
  have largest : largestBody = 61 := rfl
  have length : datagram.bytes.length = body.length + 4 := by rw [frame.bytes, length_frameOf]
  have sound : datagram.bytes ≠ [wrapperByteStart, 0, arduinoId] := by
    intro hollow
    rw [hollow] at long
    exact absurd long (by decide)
  refine ((s.ensures_serverUdpReceive datagram).mpr ⟨by omega, sound⟩).mono
    fun after recognised => ?_
  exact ⟨recognised.1.mpr ⟨body, frame⟩, recognised.2 body frame⟩

/-- What `server_udp_send` hands to `sendto` is the frame of the body. -/
theorem serverUdpSend_sends {s : Server} (short : s.packet.size.toNat ≤ largestBody) :
    Memory.Ensures s.serverUdpSend fun sent =>
      sent.1.packet = { s.packet with id := serverId } ∧
        sent.2 = frameOf serverId s.packet.body := by
  have declared : wrapperByteSizeMax = 65 := rfl
  have largest : largestBody = 61 := rfl
  have room : bodyDataSize = 64 := rfl
  have fits : s.packet.size.toNat ≤ bodyDataSize := by omega
  have length := Packet.length_body fits
  unfold serverUdpSend
  simp only [Memory.ensures_bind, Memory.ensures_store, Memory.ensures_pure, Memory.ensures_ite]
  refine ⟨by decide, by decide, by decide, fun large => absurd large (Nat.not_lt.mpr fits),
    fun _ => (Memory.ensures_storeAll (by decide)).mpr ⟨?_, ?_, trivial, ?_⟩⟩
  · change 3 + s.packet.body.length ≤ wrapperByteSizeMax
    omega
  · omega
  · have header : [wrapperByteStart] ++ [s.packet.size + headerSize] ++ [serverId] ++
        s.packet.body ++ [wrapperByteEnd] = frameOf serverId s.packet.body := by
      rw [frameOf, Packet.ofNat_length_body fits]
      rfl
    have behind : 0 + ([wrapperByteStart] ++ [s.packet.size + headerSize] ++ [serverId] ++
        s.packet.body).length = s.packet.size.toNat + 3 := by
      simp [length]
    have room : (frameOf serverId s.packet.body).length ≤ wrapperByteSizeMax := by
      rw [length_frameOf]
      omega
    have stored := Memory.firstEntries_overlay s.buffer room
    rw [length_frameOf, length] at stored
    simp only [Memory.update_eq_overlay]
    rw [← stored, ← header, ← Memory.overlay_append, behind, ← Memory.overlay_append,
      ← Memory.overlay_append, ← Memory.overlay_append]
    rfl

end Server

/-! ## Both directions -/

/-- The packet holds this body, and counts it. -/
def Packet.Carries (packet : Packet) (body : List UInt8) : Prop :=
  packet.body = body ∧ packet.size.toNat = body.length

theorem isFrame_body {id : UInt8} {packet : Packet} (nonempty : 1 ≤ packet.size.toNat)
    (fits : packet.size.toNat ≤ bodyDataSize) :
    IsFrame id packet.body (frameOf id packet.body) := by
  have length := Packet.length_body fits
  exact ⟨rfl, by omega, by omega⟩

/-- A body of 1 to 61 bytes comes back exactly, in both directions, whatever the receiver held. -/
theorem framing_round_trip (n : Network) (s : Server) (now : Nat)
    (toServer toArduino : Datagram) :
    (n.status = .ready → n.packet.id = arduinoId → 1 ≤ n.packet.size.toNat →
      n.packet.size.toNat ≤ largestBody →
      ∃ frame, n.internetSend true = .ok (n.record (.sent n.packet.ip n.packet.port frame)) ∧
        (toServer.bytes = frame → Memory.Ensures (s.serverUdpReceive toServer) fun received =>
          received.2 = true ∧ received.1.packet.Carries n.packet.body)) ∧
    (1 ≤ s.packet.size.toNat → s.packet.size.toNat ≤ largestBody →
      Memory.Ensures s.serverUdpSend fun sent =>
        toArduino.bytes = sent.2 → toArduino.ip = n.ipRemote →
          toArduino.port = internetRemotePort →
          Memory.Ensures (n.internetPoll now (some toArduino)) fun received =>
            received.isReceiveWait = 1 ∧ received.packet.Carries s.packet.body) := by
  have largest : largestBody = 61 := rfl
  have room : bodyDataSize = 64 := rfl
  constructor
  · intro ready id nonempty short
    have fits : n.packet.size.toNat ≤ bodyDataSize := by omega
    refine ⟨_, Network.internetSend_sends ready fits, fun arrived => ?_⟩
    have frame : IsFrame arduinoId n.packet.body toServer.bytes := by
      rw [arrived, id]
      exact isFrame_body nonempty fits
    exact s.serverUdpReceive_takes frame (by rw [Packet.length_body fits]; exact short)
  · intro nonempty short
    have fits : s.packet.size.toNat ≤ bodyDataSize := by omega
    refine (Server.serverUdpSend_sends short).mono fun sent frame arrived ip port => ?_
    have frame : IsFrame serverId s.packet.body toArduino.bytes := by
      rw [arrived, frame.2]
      exact isFrame_body nonempty fits
    exact Network.internetPoll_takes now ip port frame

theorem framing_round_trip_markers :
    let markers : Packet := ⟨167772161, internetRemotePort, arduinoId, fun _ => 4, 2, []⟩
    let n : Network := { readyNetwork with packet := markers }
    let s : Server := ⟨markers, fun _ => 170⟩
    let toServer : Datagram := ⟨1, 8765, frameOf arduinoId [4, 4], by decide⟩
    let toArduino : Datagram := ⟨167772161, internetRemotePort, frameOf serverId [4, 4], by decide⟩
    (∃ frame, n.internetSend true = .ok (n.record (.sent markers.ip markers.port frame)) ∧
      (toServer.bytes = frame → Memory.Ensures (s.serverUdpReceive toServer) fun received =>
        received.2 = true ∧ received.1.packet.Carries [4, 4])) ∧
    Memory.Ensures s.serverUdpSend fun sent =>
      toArduino.bytes = sent.2 → toArduino.ip = n.ipRemote →
        toArduino.port = internetRemotePort →
        Memory.Ensures (n.internetPoll 4001 (some toArduino)) fun received =>
          received.isReceiveWait = 1 ∧ received.packet.Carries [4, 4] := by
  intro markers n s toServer toArduino
  obtain ⟨forth, back⟩ := framing_round_trip n s 4001 toServer toArduino
  exact ⟨forth rfl rfl (by decide) (by decide), back (by decide) (by decide)⟩

end BlueberryIrrigation
