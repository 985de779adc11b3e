import Mathlib.Data.List.Basic
import BlueberryIrrigation.Network.Internet
import BlueberryIrrigation.Server.Udp

/-!
# The frames of both receivers

A frame is a start byte, the size of what the wrapper holds, the sender's id, one to 64 bytes of
body and an end byte. The two receivers check the same bytes in the same order, each with
arithmetic of its own: `Checked` is what they check, `isFrame_iff` that it is the grammar.
-/

namespace BlueberryIrrigation

open Semantics

/-- The frame of a body. -/
def frameOf (id : UInt8) (body : List UInt8) : List UInt8 :=
  [wrapperByteStart, UInt8.ofNat (body.length + 1), id] ++ body ++ [wrapperByteEnd]

/-- The bytes are the frame of this body. -/
structure IsFrame (id : UInt8) (body bytes : List UInt8) : Prop where
  bytes : bytes = frameOf id body
  nonempty : 1 ≤ body.length
  fits : body.length ≤ bodyDataSize

/-- What a receiver finds in the bytes that it accepts. -/
structure Checked (id : UInt8) (bytes : List UInt8) : Prop where
  long : 5 ≤ bytes.length
  short : bytes.length ≤ 68
  start : bytes[0]? = some wrapperByteStart
  size : bytes[1]? = some (UInt8.ofNat (bytes.length - 3))
  sender : bytes[2]? = some id
  ended : bytes[bytes.length - 1]? = some wrapperByteEnd

/-- What lies between the id and the end byte. -/
def between (bytes : List UInt8) : List UInt8 := (bytes.drop 3).take (bytes.length - 4)

@[simp] theorem length_frameOf (id : UInt8) (body : List UInt8) :
    (frameOf id body).length = body.length + 4 := by
  simp [frameOf]

@[simp] theorem between_frameOf (id : UInt8) (body : List UInt8) :
    between (frameOf id body) = body := by
  simp [between, frameOf]

theorem length_between {bytes : List UInt8} (long : 5 ≤ bytes.length) :
    (between bytes).length = bytes.length - 4 := by
  simp only [between, List.length_take, List.length_drop]
  omega

/-- What is checked is the grammar. -/
theorem isFrame_iff {id : UInt8} {body bytes : List UInt8} :
    IsFrame id body bytes ↔ Checked id bytes ∧ body = between bytes := by
  constructor
  · rintro ⟨rfl, nonempty, fits⟩
    have room : bodyDataSize = 64 := rfl
    have ended : (frameOf id body)[body.length + 4 - 1]? = some wrapperByteEnd := by
      rw [frameOf, List.getElem?_append_right (by simp)]
      simp
    refine ⟨⟨?_, ?_, rfl, ?_, rfl, ?_⟩, (between_frameOf id body).symm⟩
    · rw [length_frameOf]
      omega
    · rw [length_frameOf]
      omega
    · rw [length_frameOf]
      rfl
    · rw [length_frameOf]
      exact ended
  · rintro ⟨⟨long, short, start, size, sender, ended⟩, rfl⟩
    have length := length_between long
    refine ⟨?_, by omega, by rw [length]; exact Nat.sub_le_of_le_add short⟩
    match bytes with
    | [] | [_] | [_, _] => exact absurd long (by simp)
    | first :: second :: third :: rest =>
        simp only [List.length_cons] at long size ended length
        obtain rfl : first = wrapperByteStart := by simpa using start
        obtain rfl : third = id := by simpa using sender
        obtain rfl : second = UInt8.ofNat rest.length := by simpa using size
        have nonempty : rest ≠ [] := List.ne_nil_of_length_pos (by omega)
        have last : rest.getLast nonempty = wrapperByteEnd := by
          rw [← Option.some_inj, ← List.getLast?_eq_some_getLast, List.getLast?_eq_getElem?,
            ← ended]
          have place : rest.length + 1 + 1 + 1 - 1 = rest.length - 1 + 3 := by omega
          rw [place]
          rfl
        have inner : between (wrapperByteStart :: UInt8.ofNat rest.length :: third :: rest) =
            rest.dropLast := by
          rw [List.dropLast_eq_take]
          rfl
        have counted : rest.dropLast.length + 1 = rest.length := by
          rw [List.length_dropLast]
          omega
        rw [inner, frameOf, counted, ← last, List.append_assoc, List.dropLast_concat_getLast]
        rfl

/-- The receiver that accepts, or not, has recognised the frames of this sender: it accepts
nothing else, and it leaves their bodies in the packet. -/
def Recognises (id : UInt8) (bytes : List UInt8) (accepted : Prop) (packet : Packet) : Prop :=
  (accepted ↔ ∃ body, IsFrame id body bytes) ∧
    ∀ body, IsFrame id body bytes → packet.body = body ∧ packet.size.toNat = body.length

/-- By the checks alone, a receiver takes the bytes, with their body, or refuses them. -/
def Decides (id : UInt8) (bytes : List UInt8) (taken refused : Prop) (packet : Packet) : Prop :=
  (Checked id bytes ∧ taken ∧ packet.body = between bytes ∧
      packet.size.toNat = bytes.length - 4) ∨
    (¬ Checked id bytes ∧ refused)

section

variable {id : UInt8} {bytes : List UInt8} {taken refused accepted : Prop} {packet : Packet}

/-- A frame is taken. -/
theorem Decides.takes (decides : Decides id bytes taken refused packet) {body : List UInt8}
    (frame : IsFrame id body bytes) :
    taken ∧ packet.body = body ∧ packet.size.toNat = body.length := by
  obtain ⟨checked, rfl⟩ := isFrame_iff.mp frame
  rcases decides with ⟨-, took, body, size⟩ | ⟨wrong, -⟩
  · rw [length_between checked.long]
    exact ⟨took, body, size⟩
  · exact absurd checked wrong

/-- To take the frames and to refuse the rest is to recognise them. -/
theorem Decides.recognises (decides : Decides id bytes taken refused packet)
    (accepts : taken → accepted) (refuses : refused → ¬ accepted) :
    Recognises id bytes accepted packet := by
  refine ⟨⟨fun holds => ?_, ?_⟩, fun body frame => (decides.takes frame).2⟩
  · rcases decides with ⟨checked, -⟩ | ⟨-, left⟩
    · exact ⟨between bytes, isFrame_iff.mpr ⟨checked, rfl⟩⟩
    · exact absurd holds (refuses left)
  · rintro ⟨body, frame⟩
    exact accepts (decides.takes frame).1

end

/-- The first subtraction, from a size that the wrapper fits into. -/
theorem shrunk_wrapper {size : UInt8} (wrapper : wrapperSize ≤ size) :
    size - wrapperSize = UInt8.ofNat (size.toNat - 3) := by
  rw [← UInt8.toNat_inj, UInt8.toNat_sub_of_le _ _ wrapper, UInt8.toNat_ofNat']
  have bounded := size.toNat_lt
  exact (Nat.mod_eq_of_lt (by omega)).symm

/-- A copy of what lies between is the body of the packet it was copied to. -/
theorem body_of_copied {packet : Packet} {bytes : List UInt8} {data : Fin bodyDataSize → UInt8}
    (long : 5 ≤ bytes.length) (short : bytes.length ≤ 68)
    (size : packet.size.toNat = bytes.length - 4)
    (copied : packet.data = Memory.overlay data 0 (between bytes)) :
    packet.body = between bytes := by
  have length := length_between long
  have fits : (between bytes).length ≤ bodyDataSize := by
    rw [length]
    exact Nat.sub_le_of_le_add short
  rw [Packet.body, copied, size, ← length, Memory.firstEntries_overlay data fits]

/-! ## The server -/

/-- The bytes of a datagram are in the buffer, and their number is the packet's size. -/
structure Server.Holds (bytes : List UInt8) (s : Server) : Prop where
  fits : bytes.length ≤ wrapperByteSizeMax
  stored : Memory.firstEntries s.buffer bytes.length = bytes
  size : s.packet.size.toNat = bytes.length

namespace Server

theorem Holds.byte {bytes : List UInt8} {s : Server} (holds : s.Holds bytes) {index : Nat}
    (listed : index < bytes.length) :
    bytes[index]? = some (s.buffer ⟨index, Nat.lt_of_lt_of_le listed holds.fits⟩) := by
  have entry := Memory.getElem?_firstEntries s.buffer listed
    (Nat.lt_of_lt_of_le listed holds.fits)
  rwa [holds.stored] at entry

/-- The copy takes what lies between, and its counter then stands at the end byte. -/
theorem Holds.copies {bytes : List UInt8} {s : Server} (holds : s.Holds bytes)
    (long : 5 ≤ bytes.length) (data : Fin bodyDataSize → UInt8) :
    Memory.Ensures (copyBody s.buffer 3 0 (bytes.length - 4) data) fun copied =>
      copied.1.toNat = bytes.length - 1 ∧ copied.2 = Memory.overlay data 0 (between bytes) := by
  have declared : wrapperByteSizeMax = 65 := rfl
  have room : bodyDataSize = 64 := rfl
  have fits := holds.fits
  have three : (3 : UInt8).toNat = 3 := rfl
  have slice : ((List.ofFn s.buffer).drop 3).take (bytes.length - 4) = between bytes := by
    have whole := congrArg between holds.stored
    rw [Memory.firstEntries, between, List.length_take_of_le, List.drop_take, List.take_take,
      Nat.min_eq_left (by omega)] at whole
    · exact whole
    · rwa [List.length_ofFn]
  refine (copyBody_fits (by omega) (by omega)).mono fun copied copy => ?_
  obtain ⟨behind, same⟩ := copy
  refine ⟨by omega, ?_⟩
  rwa [three, slice] at same

/-- One frame is hollow: its body would have 255 bytes. -/
theorem unwrapFrame_hollow {s : Server} (holds : s.Holds [wrapperByteStart, 0, arduinoId])
    {property : Server × Bool → Prop} : ¬ Memory.Ensures s.unwrapFrame property := by
  have three : s.packet.size = wrapperSize := UInt8.toNat_inj.mp holds.size
  have start := Option.some.inj (holds.byte (show 0 < 3 by decide))
  have zero := Option.some.inj (holds.byte (show 1 < 3 by decide))
  have id := Option.some.inj (holds.byte (show 2 < 3 by decide))
  unfold unwrapFrame
  simp only [Memory.ensures_bind, Memory.ensures_ite, Memory.ensures_pure, Memory.ensures_load]
  simp only [Packet.shrink_size]
  rintro ⟨-, sized⟩
  rw [three] at sized
  obtain ⟨-, framed⟩ := sized (by decide)
  obtain ⟨_, -, started⟩ := framed (by decide)
  obtain ⟨_, -, counted⟩ := started (not_not_intro start.symm)
  obtain ⟨-, identified⟩ := counted (not_not_intro zero.symm)
  obtain ⟨_, -, own⟩ := identified (by decide)
  exact copyBody_overflows (by decide) (by decide) (own (not_not_intro id.symm))

/-- On all other bytes in its buffer the server decides. -/
theorem unwrapFrame_decides {bytes : List UInt8} {s : Server} (holds : s.Holds bytes)
    (sound : bytes ≠ [wrapperByteStart, 0, arduinoId]) :
    Memory.Ensures s.unwrapFrame fun after =>
      Decides arduinoId bytes (after.2 = true) (after.2 = false) after.1.packet := by
  have declared : wrapperByteSizeMax = 65 := rfl
  have fits := holds.fits
  have size := holds.size
  unfold unwrapFrame
  simp only [Memory.ensures_bind, Memory.ensures_ite, Memory.ensures_pure, Memory.ensures_load]
  simp only [Packet.shrink_size]
  have refused {after : Packet} (wrong : ¬ Checked arduinoId bytes) :
      Decides arduinoId bytes (false = true) True after := .inr ⟨wrong, trivial⟩
  have agree {index : Nat} {value : UInt8} (listed : index < bytes.length)
      (expected : bytes[index]? = some value) :
      s.buffer ⟨index, Nat.lt_of_lt_of_le listed fits⟩ = value :=
    Option.some.inj ((holds.byte listed).symm.trans expected)
  refine ⟨fun big => refused fun checked => ?_, fun _ => ⟨fun small => refused fun checked => ?_,
    fun enough => ⟨by decide, fun other => refused fun checked => ?_, fun start => ⟨by decide,
    fun other => refused fun checked => ?_, fun counted => ⟨fun empty => refused fun checked => ?_,
    fun nonempty => ⟨by decide, fun other => refused fun checked => ?_, fun own => ?_⟩⟩⟩⟩⟩⟩
  · have large : 68 < s.packet.size.toNat := big
    have short := checked.short
    omega
  · have few : s.packet.size.toNat < 3 := small
    have long := checked.long
    omega
  · have long := checked.long
    exact other (agree (by omega) checked.start)
  · have long := checked.long
    have shrunk := shrunk_wrapper (UInt8.not_lt.mp enough)
    rw [size] at shrunk
    exact other (shrunk ▸ agree (by omega) checked.size)
  · have long := checked.long
    have other : s.packet.size ≠ wrapperSize := by
      intro same
      rw [same] at size
      change 3 = bytes.length at size
      omega
    have rest := (shrunk_size (UInt8.not_lt.mp enough) other).2
    rw [empty, size] at rest
    change 0 = bytes.length - 4 at rest
    omega
  · have long := checked.long
    exact other (agree (by omega) checked.sender)
  · have three : 3 ≤ bytes.length := size ▸ UInt8.not_lt.mp enough
    have first := (holds.byte (show 0 < bytes.length by omega)).trans
      (congrArg some (not_not.mp start))
    have second := (holds.byte (show 1 < bytes.length by omega)).trans
      (congrArg some (not_not.mp counted))
    have third := (holds.byte (show 2 < bytes.length by omega)).trans
      (congrArg some (not_not.mp own))
    have other : s.packet.size ≠ wrapperSize := by
      intro same
      rw [same] at size second
      obtain ⟨a, b, c, rfl⟩ := List.length_eq_three.mp size.symm
      obtain rfl : a = wrapperByteStart := Option.some.inj first
      obtain rfl : b = 0 := Option.some.inj second
      obtain rfl : c = arduinoId := Option.some.inj third
      exact sound rfl
    have rest := (shrunk_size (UInt8.not_lt.mp enough) other).2
    have positive : (s.packet.size - wrapperSize - headerSize).toNat ≠ 0 :=
      fun zero => nonempty (UInt8.toNat_inj.mp zero)
    rw [size] at rest
    have long : 5 ≤ bytes.length := by omega
    rw [rest]
    refine (holds.copies long _).mono fun copied copy => ?_
    obtain ⟨last, data⟩ := copy
    have inside : copied.1.toNat < wrapperByteSizeMax := by omega
    have ended : bytes[bytes.length - 1]? = some (s.buffer ⟨copied.1.toNat, inside⟩) := by
      rw [holds.byte (show bytes.length - 1 < bytes.length by omega)]
      simp only [last]
    refine ⟨inside, fun wrong => refused fun checked => ?_, fun right => ?_⟩
    · exact wrong (Option.some.inj (ended.symm.trans checked.ended))
    · rw [not_not.mp right] at ended
      have checked : Checked arduinoId bytes :=
        { long := long
          short := by omega
          start := first
          size := by rw [second, shrunk_wrapper (UInt8.not_lt.mp enough), size]
          sender := third
          ended := ended }
      exact .inl ⟨checked, trivial, body_of_copied long (by omega) rest data, rest⟩

/-- The server recognises the datagrams that fit its buffer, with that exception. -/
theorem ensures_serverUdpReceive (s : Server) (datagram : Datagram) :
    Memory.Ensures (s.serverUdpReceive datagram) (fun after =>
        Recognises arduinoId datagram.bytes (after.2 = true) after.1.packet) ↔
      datagram.bytes.length ≤ wrapperByteSizeMax ∧
        datagram.bytes ≠ [wrapperByteStart, 0, arduinoId] := by
  rw [ensures_receive_iff]
  refine and_congr_right fun short => ?_
  have holds : Holds datagram.bytes (s.received datagram) :=
    { fits := short
      stored := Memory.firstEntries_overlay s.buffer short
      size := received_size short }
  constructor
  · intro recognised hollow
    rw [hollow] at holds
    exact unwrapFrame_hollow holds recognised
  · intro sound
    exact (unwrapFrame_decides holds sound).mono fun after decides =>
      decides.recognises id (ne_true_of_eq_false ·)

end Server

/-! ## The Arduino -/

/-- The third `read()` returns the third byte. -/
theorem EthernetUdp.third_read (udp : EthernetUdp) : udp.next.next.read = udp.remaining[2]? := by
  simp [EthernetUdp.read_eq, EthernetUdp.next]

namespace Network

/-- As many bytes of what has arrived as the `uint8_t` size counts. -/
def counted (n : Network) : List UInt8 := n.udp.remaining.take n.packet.size.toNat

theorem remaining_counted {n : Network} {index : Nat} (listed : index < n.packet.size.toNat) :
    n.udp.remaining[index]? = n.counted[index]? := (List.getElem?_take_of_lt listed).symm

section

variable {n : Network} (now : Nat) (ip : n.udp.remoteIp = n.ipRemote)
  (port : n.udp.remotePort = internetRemotePort)
  (enough : n.packet.size.toNat ≤ n.udp.remaining.length)
include ip port enough

/-- One frame of the configured server is hollow here too. -/
theorem internetReceive_hollow (hollow : n.counted = [wrapperByteStart, 0, serverId])
    {property : Network → Prop} : ¬ Memory.Ensures (n.internetReceive now) property := by
  have size : n.counted.length = n.packet.size.toNat := List.length_take_of_le enough
  have byte {index : Nat} := @remaining_counted n index
  have third := n.udp.third_read
  rw [hollow] at size byte
  have three : n.packet.size = wrapperSize := UInt8.toNat_inj.mp size.symm
  rw [← size] at byte
  unfold internetReceive
  simp only [Memory.ensures_bind, Memory.ensures_ite, Memory.ensures_pure,
    ensures_receiveBody (Nat.zero_le _)]
  simp only [readNext, record, Packet.shrink_size, EthernetUdp.read_eq n.udp,
    EthernetUdp.read_next n.udp]
  rintro ⟨-, sender⟩
  obtain ⟨-, addressed⟩ := sender (not_not_intro ip)
  obtain ⟨-, sized⟩ := addressed (not_not_intro port)
  rw [three] at sized
  obtain ⟨-, framed⟩ := sized (by decide)
  obtain ⟨-, started⟩ := framed (by decide)
  obtain ⟨-, counted⟩ := started (not_not_intro (byte (show 0 < 3 by decide)))
  obtain ⟨-, identified⟩ := counted (not_not_intro (byte (show 1 < 3 by decide)))
  obtain ⟨-, own⟩ := identified (by decide)
  have fits := (own (not_not_intro (third.trans (byte (show 2 < 3 by decide))))).1
  exact absurd fits (by decide)

/-- On all other bytes that its size counts the Arduino decides. -/
theorem internetReceive_decides (sound : n.counted ≠ [wrapperByteStart, 0, serverId]) :
    Memory.Ensures (n.internetReceive now) fun after =>
      Decides serverId n.counted (after.isReceiveWait = 1)
        (after.isReceiveWait = n.isReceiveWait) after.packet := by
  have size : n.counted.length = n.packet.size.toNat := List.length_take_of_le enough
  have byte {index : Nat} := @remaining_counted n index
  have third := n.udp.third_read
  unfold internetReceive
  simp only [Memory.ensures_bind, Memory.ensures_ite, Memory.ensures_pure,
    ensures_receiveBody (Nat.zero_le _)]
  simp only [readNext, record, Packet.shrink_size, EthernetUdp.read_eq n.udp,
    EthernetUdp.read_next n.udp]
  have refused {after : Packet} (wrong : ¬ Checked serverId n.counted) :
      Decides serverId n.counted (n.isReceiveWait = 1) True after := .inr ⟨wrong, trivial⟩
  refine ⟨fun other => absurd ip other, fun _ => ⟨fun other => absurd port other, fun _ =>
    ⟨fun big => refused fun checked => ?_, fun limited =>
    ⟨fun small => refused fun checked => ?_, fun enough =>
    ⟨fun other => refused fun checked => ?_, fun start =>
    ⟨fun other => refused fun checked => ?_, fun announced =>
    ⟨fun empty => refused fun checked => ?_, fun nonempty =>
    ⟨fun other => refused fun checked => ?_, fun own => ?_⟩⟩⟩⟩⟩⟩⟩⟩
  · have large : 68 < n.packet.size.toNat := big
    have short := checked.short
    omega
  · have few : n.packet.size.toNat < 3 := small
    have long := checked.long
    omega
  · have long := checked.long
    exact other ((byte (by omega)).trans checked.start)
  · have long := checked.long
    have shrunk := shrunk_wrapper (UInt8.not_lt.mp enough)
    rw [← size] at shrunk
    exact other (shrunk ▸ (byte (by omega)).trans checked.size)
  · have long := checked.long
    have other : n.packet.size ≠ wrapperSize := by
      intro same
      rw [same] at size
      change n.counted.length = 3 at size
      omega
    have rest := (shrunk_size (UInt8.not_lt.mp enough) other).2
    rw [empty, ← size] at rest
    change 0 = n.counted.length - 4 at rest
    omega
  · have long := checked.long
    exact other (third.trans ((byte (by omega)).trans checked.sender))
  · have three : 3 ≤ n.packet.size.toNat := UInt8.not_lt.mp enough
    have first := (byte (by omega)).symm.trans (not_not.mp start)
    have second := (byte (by omega)).symm.trans (not_not.mp announced)
    have id := (byte (by omega)).symm.trans (third.symm.trans (not_not.mp own))
    have other : n.packet.size ≠ wrapperSize := by
      intro same
      rw [same] at size second
      obtain ⟨a, b, c, exact⟩ := List.length_eq_three.mp size
      rw [exact] at first second id sound
      obtain rfl : a = wrapperByteStart := Option.some.inj first
      obtain rfl : b = 0 := Option.some.inj second
      obtain rfl : c = serverId := Option.some.inj id
      exact sound rfl
    have rest := (shrunk_size (UInt8.not_lt.mp enough) other).2
    have positive : (n.packet.size - wrapperSize - headerSize).toNat ≠ 0 :=
      fun zero => nonempty (UInt8.toNat_inj.mp zero)
    rw [← size] at rest
    have long : 5 ≤ n.counted.length := by omega
    rw [rest]
    have limit : n.packet.size.toNat ≤ 68 := UInt8.not_lt.mp limited
    have room : bodyDataSize = 64 := rfl
    have ended : (n.udp.next.next.next.skip (n.counted.length - 4)).read =
        n.counted[n.counted.length - 1]? := by
      rw [EthernetUdp.next_header, EthernetUdp.read_skip, EthernetUdp.skip, List.getElem?_drop,
        ← byte (by omega)]
      congr 1
      omega
    have inner : n.udp.next.next.next.bytes (n.counted.length - 4) = between n.counted := by
      have dropped : n.counted.drop 3 =
          (n.udp.remaining.drop 3).take (n.packet.size.toNat - 3) := List.drop_take
      rw [EthernetUdp.next_header, EthernetUdp.bytes_of_le, between, dropped, List.take_take,
        Nat.min_eq_left (by omega)]
      · rfl
      · rw [EthernetUdp.skip, List.length_drop]
        omega
    refine ⟨by omega, fun wrong => refused fun checked => ?_, fun right => ?_⟩
    · exact wrong (ended.trans checked.ended)
    · have checked : Checked serverId n.counted :=
        { long := long
          short := by omega
          start := first
          size := by rw [second, shrunk_wrapper (UInt8.not_lt.mp enough), size]
          sender := id
          ended := ended.symm.trans (not_not.mp right) }
      exact .inl ⟨checked, trivial, body_of_copied long (by omega) rest (by rw [inner]), rest⟩

end

/-- What the `uint8_t` size counts of a datagram: nothing of one whose length is a multiple of
256, and only the beginning of one that is longer than that. -/
def sized (bytes : List UInt8) : List UInt8 := bytes.take (bytes.length % 256)

/-- The datagrams that make the Arduino's size lie: the hollow frame, and a frame with a
multiple of 256 bytes behind it. -/
def Misleads (bytes : List UInt8) : Prop :=
  sized bytes = [wrapperByteStart, 0, serverId] ∨
    256 ≤ bytes.length ∧ ∃ body, IsFrame serverId body (sized bytes)

/-- A poll recognises the datagrams of the configured server that do not mislead it. -/
theorem ensures_internetPoll {n : Network} {datagram : Datagram} (now : Nat)
    (ip : datagram.ip = n.ipRemote) (port : datagram.port = internetRemotePort)
    (idle : n.isReceiveWait = 0) :
    Memory.Ensures (n.internetPoll now (some datagram)) (fun after =>
        Recognises serverId datagram.bytes (after.isReceiveWait ≠ 0) after.packet) ↔
      ¬ Misleads datagram.bytes := by
  have size : (UInt8.ofNat datagram.bytes.length).toNat = datagram.bytes.length % 256 :=
    UInt8.toNat_ofNat'
  have counted : (n.parsePacket (some datagram)).counted = sized datagram.bytes := by
    rw [Network.counted, sized, ← size]
    rfl
  have enough : (n.parsePacket (some datagram)).packet.size.toNat ≤
      (n.parsePacket (some datagram)).udp.remaining.length := size ▸ Nat.mod_le _ _
  unfold internetPoll
  by_cases empty : (n.parsePacket (some datagram)).packet.size = 0
  · have multiple : datagram.bytes.length % 256 = 0 :=
      size.symm.trans (congrArg UInt8.toNat empty)
    have nothing : sized datagram.bytes = [] := by rw [sized, multiple, List.take_zero]
    rw [if_neg (not_not_intro empty), Memory.ensures_ok]
    have decides : Decides serverId datagram.bytes False True
        (n.parsePacket (some datagram)).packet := by
      refine .inr ⟨fun checked => ?_, trivial⟩
      have long := checked.long
      have short := checked.short
      omega
    refine iff_of_true (decides.recognises False.elim fun _ => not_not_intro idle) ?_
    rintro (hollow | ⟨-, body, frame⟩)
    · rw [nothing] at hollow
      exact absurd hollow (by decide)
    · rw [nothing] at frame
      exact absurd (isFrame_iff.mp frame).1.long (by decide)
  · rw [if_pos empty]
    have recognises (sound : (n.parsePacket (some datagram)).counted ≠
        [wrapperByteStart, 0, serverId]) :=
      (internetReceive_decides now ip port enough sound).mono fun after decides =>
        (decides.recognises (fun taken => by rw [taken]; decide) fun kept =>
          not_not_intro (kept.trans idle) : Recognises _ _ (after.isReceiveWait ≠ 0) _)
    have hollow (same : sized datagram.bytes = [wrapperByteStart, 0, serverId])
        {property : Network → Prop} :
        ¬ Memory.Ensures ((n.parsePacket (some datagram)).internetReceive now) property :=
      internetReceive_hollow now ip port enough (counted.trans same)
    rw [counted] at recognises
    by_cases long : 256 ≤ datagram.bytes.length
    · have none : ¬ ∃ body, IsFrame serverId body datagram.bytes := by
        rintro ⟨body, frame⟩
        have short := (isFrame_iff.mp frame).1.short
        omega
      constructor
      · rintro ensured (same | ⟨-, frame⟩)
        · exact hollow same ensured
        · have sound : sized datagram.bytes ≠ [wrapperByteStart, 0, serverId] :=
            fun same => hollow same ensured
          obtain ⟨after, result, whole⟩ := ensured
          obtain ⟨again, same, counts⟩ := recognises sound
          obtain rfl := Except.ok.inj (result.symm.trans same)
          exact none (whole.1.mp (counts.1.mpr frame))
      · intro sound
        refine (recognises fun same => sound (.inl same)).mono fun after counts => ?_
        refine ⟨⟨fun taken => ?_, fun frame => absurd frame none⟩, fun body frame =>
          absurd ⟨body, frame⟩ none⟩
        exact absurd (.inr ⟨long, counts.1.mp taken⟩) sound
    · have whole : sized datagram.bytes = datagram.bytes := by
        rw [sized, Nat.mod_eq_of_lt (by omega), List.take_length]
      rw [whole] at recognises
      constructor
      · rintro ensured (same | ⟨many, -⟩)
        · exact hollow same ensured
        · exact long many
      · exact fun sound => recognises fun same => sound (.inl (whole.trans same))

end Network

/-- Which datagrams the receivers recognise by the grammar of the frames: at the server those
that fit its buffer, but for a hollow one; at the Arduino, of the configured server's, those
that do not mislead its size. -/
theorem frames_recognised (s : Server) (n : Network) (now : Nat) (datagram : Datagram)
    (ip : datagram.ip = n.ipRemote) (port : datagram.port = internetRemotePort)
    (idle : n.isReceiveWait = 0) :
    (Memory.Ensures (s.serverUdpReceive datagram) (fun after =>
        Recognises arduinoId datagram.bytes (after.2 = true) after.1.packet) ↔
      datagram.bytes.length ≤ wrapperByteSizeMax ∧
        datagram.bytes ≠ [wrapperByteStart, 0, arduinoId]) ∧
    (Memory.Ensures (n.internetPoll now (some datagram)) (fun after =>
        Recognises serverId datagram.bytes (after.isReceiveWait ≠ 0) after.packet) ↔
      ¬ Network.Misleads datagram.bytes) :=
  ⟨s.ensures_serverUdpReceive datagram, Network.ensures_internetPoll now ip port idle⟩

/-- A ready network that knows the server's address. -/
def readyNetwork : Network :=
  Network.unset.internetInit 3000
    { ethernetBegins := true
      udpBegins := true
      resolved := some 167772161
      isSent := true
      arrived := none
      later := 4000 }

theorem frames_recognised_ping :
    let server : Server := ⟨Network.unset.packet, fun _ => 0⟩
    let ping : Datagram := ⟨167772161, internetRemotePort, frameOf serverId [211, 10], by decide⟩
    ¬ Network.Misleads ping.bytes ∧
      Memory.Ensures (readyNetwork.internetPoll 4001 (some ping)) (fun after =>
        Recognises serverId ping.bytes (after.isReceiveWait ≠ 0) after.packet) ∧
      Memory.Ensures (server.serverUdpReceive ping) (fun after =>
        Recognises arduinoId ping.bytes (after.2 = true) after.1.packet) := by
  intro server ping
  have sound : ¬ Network.Misleads ping.bytes := by
    rintro (hollow | ⟨long, -⟩)
    · exact absurd hollow (by decide)
    · exact absurd long (by decide)
  obtain ⟨atServer, atArduino⟩ := frames_recognised server readyNetwork 4001 ping rfl rfl rfl
  exact ⟨sound, atArduino.mpr sound, atServer.mpr ⟨by decide, by decide⟩⟩

set_option maxRecDepth 3000 in
/-- A frame with a body of 62 bytes leaves the server's buffer, and of 261 bytes the Arduino
accepts the first five as a frame. -/
theorem frames_not_recognised :
    let server : Server := ⟨Network.unset.packet, fun _ => 0⟩
    let long : Datagram :=
      ⟨1, 8765, frameOf arduinoId (List.replicate 62 7), by decide⟩
    let overlong : Datagram :=
      ⟨167772161, internetRemotePort, frameOf serverId [84] ++ List.replicate 256 0, by decide⟩
    IsFrame arduinoId (List.replicate 62 7) long.bytes ∧
      server.serverUdpReceive long = .error ⟨wrapperByteSizeMax, 65⟩ ∧
      (¬ ∃ body, IsFrame serverId body overlong.bytes) ∧
      Memory.Ensures (readyNetwork.internetPoll 4001 (some overlong)) (fun after =>
        after.isReceiveWait = 1 ∧ after.packet.body = [84]) := by
  refine ⟨⟨rfl, by decide, by decide⟩, rfl, ?_, ?_⟩
  · rintro ⟨body, frame⟩
    exact absurd (isFrame_iff.mp frame).1.short (by decide)
  · exact ⟨_, rfl, rfl, rfl⟩

end BlueberryIrrigation
