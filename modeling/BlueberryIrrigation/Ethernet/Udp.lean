import BlueberryIrrigation.Ethernet.Socket

/-!
# Datagrams through the driver (`EthernetUdp.cpp`)

`EthernetUDP` cuts the bytes of its socket into datagrams by the headers that the chip stores
with them. For its caller it is the queue of datagrams of `EthernetUdp`: each that the chip has
stored is presented once, in the order of their arrival, with its sender and its bytes, however
they lie in the ring and whatever arrives meanwhile.
-/

namespace BlueberryIrrigation

open Semantics

/-- A call of the sketch. -/
inductive UdpCall where
  | parsePacket
  | available
  | read
  | readBuffer (toBuffer : Bool) (len : UInt16)
deriving DecidableEq, Repr

/-- What a call returns. With a packet come its `remoteIP()` and its `remotePort()`. -/
inductive UdpAnswer where
  | packet (size : Int16) (remoteIp : UInt32) (remotePort : UInt16)
  | count (value : Int16)
  | byte (value : Int16)
  | bytes (got : Int16) (buffer : List UInt8)
deriving DecidableEq, Repr

/-- `EthernetUDP`, as far as receiving goes, beside its socket. -/
structure UdpSocket where
  remoteIp : UInt32
  remotePort : UInt16
  remaining : UInt16
  socket : SocketState

namespace UdpSocket

/-- `read(buffer, len)`, with what it writes to the buffer, if that is not `NULL`. -/
def readBuffer (toBuffer : Bool) (len : UInt16) (u : UdpSocket) :
    Except OutOfBounds (Int16 × List UInt8 × UdpSocket) := do
  if 0 < u.remaining then
    let wanted := if u.remaining ≤ len then u.remaining else len
    let (got, bytes, socket) ← u.socket.socketRecv toBuffer wanted.toInt16
    if 0 < got then
      return (got, bytes, { u with remaining := u.remaining - got.toUInt16, socket })
    return (-1, bytes, { u with socket })
  return (-1, [], u)

/-- `read()` -/
def read (u : UdpSocket) : Except OutOfBounds (Int16 × UdpSocket) := do
  if 0 < u.remaining then
    let (got, bytes, socket) ← u.socket.socketRecv true 1
    if 0 < got then
      return ((bytes.getD 0 0).toUInt16.toInt16, { u with remaining := u.remaining - 1, socket })
    return (-1, { u with socket })
  return (-1, u)

/-- The loop of `parsePacket` that discards what is left, for so many rounds: `none` says that it
has not come to an end. A round that reads makes `_remaining` smaller. -/
def discard : Nat → UdpSocket → Except OutOfBounds (Option UdpSocket)
  | 0, u => .ok (if u.remaining = 0 then some u else none)
  | rounds + 1, u =>
      if u.remaining = 0 then .ok (some u)
      else do
        let (_, _, u) ← u.readBuffer false u.remaining
        discard rounds u

/-- The fields that `parsePacket` reads from a header. -/
def parseHeader (tmpBuf : List UInt8) (socket : SocketState) : UdpSocket where
  remoteIp := word32 (tmpBuf.getD 0 0) (tmpBuf.getD 1 0) (tmpBuf.getD 2 0) (tmpBuf.getD 3 0)
  remotePort := (tmpBuf.getD 4 0).toUInt16 <<< 8 + (tmpBuf.getD 5 0).toUInt16
  remaining := (tmpBuf.getD 6 0).toUInt16 <<< 8 + (tmpBuf.getD 7 0).toUInt16
  socket

/-- `parsePacket()`, if its loop comes to an end. -/
def parsePacket (u : UdpSocket) : Except OutOfBounds (Option (Int16 × UdpSocket)) := do
  match ← discard u.remaining.toNat u with
  | none => return none
  | some u =>
      let (available, socket) := u.socket.socketRecvAvailable
      if 0 < available then
        let (ret, tmpBuf, socket) ← socket.socketRecv true 8
        if 0 < ret then
          let u := parseHeader tmpBuf socket
          return some (u.remaining.toInt16, u)
        return some (ret, { u with socket })
      return some (0, { u with socket })

/-- A call and its answer. -/
def serve (u : UdpSocket) : UdpCall → Except OutOfBounds (Option (UdpAnswer × UdpSocket))
  | .parsePacket => do
      match ← u.parsePacket with
      | none => return none
      | some (size, u) => return some (.packet size u.remoteIp u.remotePort, u)
  | .available => .ok (some (.count u.remaining.toInt16, u))
  | .read => do
      let (value, u) ← u.read
      return some (.byte value, u)
  | .readBuffer toBuffer len => do
      let (got, buffer, u) ← u.readBuffer toBuffer len
      return some (.bytes got buffer, u)

/-- The calls of a sketch, the first one first, and their answers. -/
def run : List UdpCall → UdpSocket → Except OutOfBounds (Option (List UdpAnswer × UdpSocket))
  | [], u => .ok (some ([], u))
  | call :: calls, u => do
      match ← u.serve call with
      | none => return none
      | some (answer, u) =>
          match ← run calls u with
          | none => return none
          | some (answers, u) => return some (answer :: answers, u)

/-- After `begin(port)`: the chip has opened a socket, whose pointers stand anywhere, and
`socketBegin` has read where. -/
def begun (hasOffsetAddressMapping : Bool) (memory : Fin ssize → UInt8) (pointer : UInt16)
    (arriving : List (List Datagram)) (remoteIp : UInt32) (remotePort : UInt16) : UdpSocket where
  remoteIp
  remotePort
  remaining := 0
  socket :=
    let w5100 : W5100Socket :=
      { hasOffsetAddressMapping, memory, snRxRsr := 0, snRxRd := pointer, snRxWr := pointer,
        snSr := snSrUdp, arriving, received := [] }
    { rxRsr := 0, rxRd := w5100.access.snRxRd, rxInc := 0, w5100 := w5100.access }

end UdpSocket

/-- `udp.read(buffer, len)`: the bytes that it takes. -/
def EthernetUdp.readBuffer (len : UInt16) (udp : EthernetUdp) : List UInt8 :=
  udp.remaining.take len.toNat

/-- A call as its caller sees it. -/
inductive UdpEvent where
  | parsePacket (arrived : Option Datagram)
  | available
  | read
  | readBuffer (toBuffer : Bool) (len : UInt16)

namespace UdpEvent

def call : UdpEvent → UdpCall
  | parsePacket _ => .parsePacket
  | available => .available
  | read => .read
  | readBuffer toBuffer len => .readBuffer toBuffer len

def presented : UdpEvent → Option Datagram
  | parsePacket arrived => arrived
  | available | read | readBuffer _ _ => none

def apply (udp : EthernetUdp) : UdpEvent → EthernetUdp
  | parsePacket arrived => udp.parsePacket arrived
  | available => udp
  | read => udp.next
  | readBuffer _ len => udp.skip len.toNat

/-- What the call returns. -/
def answer (udp : EthernetUdp) : UdpEvent → UdpAnswer
  | parsePacket arrived =>
      .packet (Int16.ofNat (arrived.elim 0 fun datagram => datagram.bytes.length))
        (udp.parsePacket arrived).remoteIp (udp.parsePacket arrived).remotePort
  | available => .count (Int16.ofNat udp.remaining.length)
  | read => .byte (udp.read.elim (-1) fun byte => byte.toUInt16.toInt16)
  | readBuffer toBuffer len =>
      .bytes (if udp.readBuffer len = [] then -1 else Int16.ofNat (udp.readBuffer len).length)
        (if toBuffer then udp.readBuffer len else [])

end UdpEvent

/-- The answers of these events, the first one first. -/
def EthernetUdp.answers : List UdpEvent → EthernetUdp → List UdpAnswer
  | [], _ => []
  | event :: events, udp => event.answer udp :: answers events (event.apply udp)

namespace Datagram

variable {datagram : Datagram}

/-- What `parsePacket` puts together of two bytes of a header. -/
theorem word_bytes (word : UInt16) :
    (word >>> 8).toUInt8.toUInt16 <<< 8 + word.toUInt8.toUInt16 = word := by
  have bound := word.toNat_lt
  rw [← UInt16.toNat_inj]
  simp [Nat.shiftRight_eq_div_pow, Nat.shiftLeft_eq]
  omega

/-- The header that the chip stores is the datagram's. -/
theorem parseHeader_stored (datagram : Datagram) (socket : SocketState) (rest : List UInt8) :
    UdpSocket.parseHeader ((datagram.stored ++ rest).take 8) socket =
      ⟨datagram.ip, datagram.port, UInt16.ofNat datagram.bytes.length, socket⟩ := by
  have ip := word32_bytes datagram.ip
  have port := word_bytes datagram.port
  have length := word_bytes (UInt16.ofNat datagram.bytes.length)
  unfold UdpSocket.parseHeader
  congr 1

theorem drop_stored (datagram : Datagram) (rest : List UInt8) :
    (datagram.stored ++ rest).drop 8 = datagram.bytes ++ rest := rfl

theorem eq_nil_of_stored {datagrams : List Datagram}
    (empty : (datagrams.flatMap stored).length = 0) : datagrams = [] := by
  cases datagrams with
  | nil => rfl
  | cons datagram rest =>
      rw [List.flatMap_cons, List.length_append, length_stored] at empty
      omega

end Datagram

namespace UdpSocket

/-- For its caller the socket is this packet, and behind it wait these datagrams. The driver
knows of the packet's bytes and of some datagrams as a whole. -/
structure Serves (u : UdpSocket) (udp : EthernetUdp) (waiting : List Datagram) : Prop where
  remoteIp : u.remoteIp = udp.remoteIp
  remotePort : u.remotePort = udp.remotePort
  remaining : u.remaining.toNat = udp.remaining.length
  holds : u.socket.Holds (udp.remaining ++ waiting.flatMap Datagram.stored)
  known : ∃ known, known <+: waiting ∧
    u.socket.rxRsr.toNat = udp.remaining.length + (known.flatMap Datagram.stored).length

variable {u : UdpSocket} {udp : EthernetUdp} {waiting : List Datagram}

theorem Serves.remaining_le (serves : u.Serves udp waiting) : u.remaining.toNat ≤ ssize := by
  have counted := serves.holds.unread.counted
  have room := serves.holds.unread.room
  rw [List.length_append, ← serves.remaining] at counted
  omega

/-- What is left of a packet after a read of so many of its bytes. -/
theorem Serves.reads {t : SocketState} {count : Nat} {new : List Datagram} (remaining : UInt16)
    (serves : u.Serves udp waiting) (inside : count ≤ udp.remaining.length)
    (reads : u.socket.Reads t (udp.remaining ++ waiting.flatMap Datagram.stored) count new)
    (left : remaining.toNat = udp.remaining.length - count) :
    Serves { u with remaining, socket := t } { udp with remaining := udp.remaining.drop count }
      (waiting ++ new) := by
  obtain ⟨known, front, count⟩ := serves.known
  have holds := reads.holds
  rw [List.drop_append_of_le_length inside, List.append_assoc, ← List.flatMap_append] at holds
  refine ⟨serves.remoteIp, serves.remotePort, ?_, holds, known,
    front.trans (List.prefix_append _ _), ?_⟩
  · rw [List.length_drop]
    exact left
  · change t.rxRsr.toNat = _
    rw [reads.known, count, List.length_drop]
    omega

theorem Serves.known_le (serves : u.Serves udp waiting) :
    udp.remaining.length ≤ u.socket.rxRsr.toNat := by
  obtain ⟨known, -, count⟩ := serves.known
  omega

/-- `read()` takes the next byte of the packet, or finds it at its end. -/
theorem read_spec (serves : u.Serves udp waiting) :
    ∃ t new, u.read = .ok (udp.read.elim (-1) (fun byte => byte.toUInt16.toInt16), t) ∧
      t.Serves udp.next (waiting ++ new) ∧
      t.socket.w5100.received = u.socket.w5100.received ++ new := by
  have remaining := serves.remaining
  unfold read EthernetUdp.read
  cases left : udp.remaining with
  | nil =>
      have none : ¬ 0 < u.remaining := by
        rw [UInt16.lt_iff_toNat_lt, remaining, left]
        exact Nat.lt_irrefl 0
      have same : udp.next = udp := by
        cases udp
        cases left
        rfl
      refine ⟨u, [], if_neg none, ?_, (List.append_nil _).symm⟩
      rw [same, List.append_nil]
      exact serves
  | cons byte rest =>
      have some : 0 < u.remaining := by
        rw [UInt16.lt_iff_toNat_lt, remaining, left]
        exact Nat.succ_pos _
      have one : 1 ≤ udp.remaining.length := by
        rw [left]
        exact Nat.succ_pos _
      have known := one.trans serves.known_le
      obtain ⟨t, new, read, reads⟩ :=
        SocketState.socketRecv_spec true 1 serves.holds (Nat.one_pos.trans_le known) known
      have less : (u.remaining - 1).toNat = udp.remaining.length - 1 := by
        rw [UInt16.toNat_sub_of_le _ _ (by rw [UInt16.le_iff_toNat_le, remaining]; exact one),
          remaining]
        rfl
      refine ⟨{ u with remaining := u.remaining - 1, socket := t }, new, ?_, ?_, reads.received⟩
      · rw [left] at read
        rw [if_pos some]
        change (do
          let (got, bytes, socket) ← u.socket.socketRecv true (UInt16.toInt16 1)
          _) = _
        rw [read]
        rfl
      · have served := serves.reads (u.remaining - 1) one reads less
        rwa [List.drop_one] at served

/-- `read(buffer, len)` takes as many of the packet's bytes as the buffer holds. -/
theorem readBuffer_spec (toBuffer : Bool) (len : UInt16) (serves : u.Serves udp waiting) :
    ∃ t new, u.readBuffer toBuffer len =
        .ok (if udp.readBuffer len = [] then -1 else Int16.ofNat (udp.readBuffer len).length,
          if toBuffer then udp.readBuffer len else [], t) ∧
      t.Serves (udp.skip len.toNat) (waiting ++ new) ∧
      t.socket.w5100.received = u.socket.w5100.received ++ new := by
  have remaining := serves.remaining
  have small := serves.remaining_le
  by_cases done : u.remaining = 0
  · have empty : udp.remaining = [] := by
      rw [done] at remaining
      exact List.eq_nil_of_length_eq_zero remaining.symm
    have same : udp.skip len.toNat = udp := by
      cases udp
      cases empty
      simp [EthernetUdp.skip]
    have nothing : udp.readBuffer len = [] := by simp [EthernetUdp.readBuffer, empty]
    refine ⟨u, [], ?_, ?_, (List.append_nil _).symm⟩
    · unfold readBuffer
      rw [done, nothing]
      cases toBuffer <;> rfl
    · rw [same, List.append_nil]
      exact serves
  · have positive : 0 < u.remaining.toNat := Nat.pos_of_ne_zero fun zero =>
      done (UInt16.toNat_inj.mp zero)
    have some : 0 < u.remaining := UInt16.lt_iff_toNat_lt.mpr positive
    obtain ⟨wanted, asks, least⟩ : ∃ wanted : UInt16,
        (if u.remaining ≤ len then u.remaining else len) = wanted ∧
          wanted.toNat = min len.toNat udp.remaining.length := by
      refine ⟨_, rfl, ?_⟩
      split <;> rename_i order <;> rw [UInt16.le_iff_toNat_le] at order <;> omega
    have known := serves.known_le
    obtain ⟨t, new, read, reads⟩ := SocketState.socketRecv_spec toBuffer wanted serves.holds
      (by omega) (by omega)
    have count : (udp.readBuffer len).length = wanted.toNat := by
      rw [EthernetUdp.readBuffer, List.length_take, least]
    have taken : (udp.remaining ++ waiting.flatMap Datagram.stored).take wanted.toNat =
        udp.readBuffer len := by
      rw [List.take_append_of_le_length (by omega), least, EthernetUdp.readBuffer,
        ← List.take_eq_take_min]
    have behind : udp.remaining.drop wanted.toNat = udp.remaining.drop len.toNat := by
      rw [least, ← List.drop_eq_drop_min]
    have got : wanted.toInt16.toInt = wanted.toNat := SocketState.toInt_toInt16 (by omega)
    rw [taken] at read
    by_cases none : wanted.toNat = 0
    · have nothing : udp.readBuffer len = [] := List.eq_nil_of_length_eq_zero (count.trans none)
      have same : u.remaining.toNat = udp.remaining.length - wanted.toNat := by omega
      have serving := serves.reads u.remaining (by omega) reads same
      rw [behind] at serving
      refine ⟨{ u with socket := t }, new, ?_, serving, reads.received⟩
      unfold readBuffer
      rw [if_pos some]
      dsimp only
      rw [asks, read]
      change (if 0 < wanted.toInt16 then _ else _ : Except OutOfBounds _) = _
      rw [if_neg (by rw [Int16.lt_iff_toInt_lt, got, none]; decide), nothing]
      rfl
    · have less : (u.remaining - wanted).toNat = udp.remaining.length - wanted.toNat := by
        rw [UInt16.toNat_sub_of_le _ _ (UInt16.le_iff_toNat_le.mpr (by omega)), remaining]
      have nonempty : udp.readBuffer len ≠ [] := fun nothing => none (by simp [← count, nothing])
      have same : wanted.toInt16 = Int16.ofNat wanted.toNat :=
        congrArg UInt16.toInt16 UInt16.ofNat_toNat.symm
      have serving := serves.reads (u.remaining - wanted) (by omega) reads less
      rw [behind] at serving
      refine ⟨{ u with remaining := u.remaining - wanted, socket := t }, new, ?_, serving,
        reads.received⟩
      unfold readBuffer
      rw [if_pos some]
      dsimp only
      rw [asks, read]
      change (if 0 < wanted.toInt16 then _ else _ : Except OutOfBounds _) = _
      rw [if_pos (by rw [Int16.lt_iff_toInt_lt, got]; change (0 : Int) < _; omega),
        UInt16.toUInt16_toInt16, if_neg nonempty, count]
      exact congrArg Except.ok (Prod.ext same rfl)

/-- The loop of `parsePacket` ends in its first round. -/
theorem discard_spec (serves : u.Serves udp waiting) :
    ∃ t new, discard u.remaining.toNat u = .ok (some t) ∧
      t.Serves (udp.parsePacket none) (waiting ++ new) ∧
      t.socket.w5100.received = u.socket.w5100.received ++ new := by
  obtain ⟨t, new, round, served, received⟩ := readBuffer_spec false u.remaining serves
  have ended : udp.skip u.remaining.toNat = udp.parsePacket none := by
    rw [serves.remaining, EthernetUdp.skip, List.drop_length]
    rfl
  rw [ended] at served
  by_cases done : u.remaining = 0
  · have empty : udp.remaining = [] := by
      have remaining := serves.remaining
      rw [done] at remaining
      exact List.eq_nil_of_length_eq_zero remaining.symm
    have same : udp.parsePacket none = udp := by
      cases udp
      cases empty
      rfl
    refine ⟨u, [], ?_, ?_, (List.append_nil _).symm⟩
    · rw [done]
      exact congrArg Except.ok (if_pos done)
    · rw [same, List.append_nil]
      exact serves
  · refine ⟨t, new, ?_, served, received⟩
    have none : t.remaining = 0 := UInt16.toNat_inj.mp served.remaining
    obtain ⟨rounds, count⟩ := Nat.exists_eq_succ_of_ne_zero fun zero =>
      done (UInt16.toNat_inj.mp zero)
    rw [count, discard, if_neg done, round]
    change discard rounds t = _
    cases rounds with
    | zero => exact congrArg Except.ok (if_pos none)
    | succ rounds => exact if_pos none

/-- At the end of a packet the driver finds whatever waits. -/
theorem available_spec (serves : u.Serves udp waiting) (ended : udp.remaining = []) :
    ∃ new, Serves { u with socket := u.socket.socketRecvAvailable.2 } udp (waiting ++ new) ∧
      u.socket.socketRecvAvailable.1 = u.socket.socketRecvAvailable.2.rxRsr ∧
      (u.socket.socketRecvAvailable.1 = 0 → waiting ++ new = []) ∧
      u.socket.socketRecvAvailable.2.w5100.received = u.socket.w5100.received ++ new := by
  obtain ⟨new, holds, available, received, count⟩ :=
    SocketState.socketRecvAvailable_spec serves.holds
  rw [ended, List.nil_append, ← List.flatMap_append] at holds count
  obtain ⟨known, front, knows⟩ := serves.known
  rw [ended, List.length_nil, Nat.zero_add] at knows
  have all : ∃ known, known <+: waiting ++ new ∧
      u.socket.socketRecvAvailable.2.rxRsr.toNat = (known.flatMap Datagram.stored).length ∧
      (u.socket.socketRecvAvailable.1 = 0 → waiting ++ new = []) := by
    by_cases asks : u.socket.rxRsr = 0
    · rw [if_pos asks] at count
      refine ⟨waiting ++ new, List.prefix_refl _, count, fun none => ?_⟩
      rw [← available, none] at count
      exact Datagram.eq_nil_of_stored count.symm
    · rw [if_neg asks] at count
      refine ⟨known, front.trans (List.prefix_append _ _), count.trans knows, fun none => ?_⟩
      rw [← available, none] at count
      exact absurd (UInt16.toNat_inj.mp count.symm) asks
  obtain ⟨known, front, knows, none⟩ := all
  refine ⟨new, ⟨serves.remoteIp, serves.remotePort, serves.remaining, ?_, known, front, ?_⟩,
    available, none, received⟩
  · rw [ended]
    exact holds
  · rw [ended, List.length_nil, Nat.zero_add]
    exact knows

/-- A header that the driver knows of is that of the next datagram. -/
theorem header_spec (serves : u.Serves udp waiting) (ended : udp.remaining = [])
    (some : u.socket.rxRsr ≠ 0) :
    ∃ datagram rest tmpBuf t new, waiting = datagram :: rest ∧
      u.socket.socketRecv true 8 = .ok (8, tmpBuf, t) ∧
      (parseHeader tmpBuf t).remaining = UInt16.ofNat datagram.bytes.length ∧
      (parseHeader tmpBuf t).Serves (udp.parsePacket datagram) (rest ++ new) ∧
      t.w5100.received = u.socket.w5100.received ++ new := by
  obtain ⟨known, ⟨behind, front⟩, knows⟩ := serves.known
  have holds := serves.holds
  rw [ended, List.length_nil, Nat.zero_add] at knows
  rw [ended, List.nil_append] at holds
  cases known with
  | nil => exact absurd (UInt16.toNat_inj.mp knows) some
  | cons datagram known =>
      rw [List.flatMap_cons, List.length_append, Datagram.length_stored] at knows
      rw [List.cons_append] at front
      subst front
      have header : (8 : UInt16).toNat = 8 := rfl
      obtain ⟨t, new, read, reads⟩ :=
        SocketState.socketRecv_spec true 8 holds (by omega) (by omega)
      refine ⟨datagram, known ++ behind, _, t, new, rfl, read, ?_, ?_, reads.received⟩
      · rw [if_pos rfl, List.flatMap_cons, header, Datagram.parseHeader_stored]
      · rw [if_pos rfl, List.flatMap_cons, header, Datagram.parseHeader_stored]
        refine ⟨rfl, rfl, UInt16.toNat_ofNat_of_lt' datagram.fits, ?_, known, ?_, ?_⟩
        · have left := reads.holds
          rw [List.flatMap_cons, header, Datagram.drop_stored, List.append_assoc,
            ← List.flatMap_append] at left
          exact left
        · rw [List.append_assoc]
          exact List.prefix_append _ _
        · change t.rxRsr.toNat = datagram.bytes.length + _
          rw [reads.known]
          omega

/-- `parsePacket()` presents the datagram that has waited longest, and none only if none waits. -/
theorem parsePacket_spec (serves : u.Serves udp waiting) :
    ∃ t new arrived rest, waiting ++ new = Option.toList arrived ++ rest ∧
      (arrived = none → waiting = []) ∧
      u.parsePacket = .ok (some
        (Int16.ofNat (arrived.elim 0 fun datagram => datagram.bytes.length), t)) ∧
      t.Serves (udp.parsePacket arrived) rest ∧
      t.socket.w5100.received = u.socket.w5100.received ++ new := by
  obtain ⟨v, first, discards, served, received⟩ := discard_spec serves
  obtain ⟨second, ready, available, exhausted, received2⟩ := available_spec served rfl
  unfold parsePacket
  rw [discards]
  by_cases nothing : v.socket.socketRecvAvailable.1 = 0
  · refine ⟨_, first ++ second, .none, waiting ++ first ++ second, ?_, fun _ => ?_, ?_, ready, ?_⟩
    · rw [List.append_assoc]
      rfl
    · have empty := exhausted nothing
      rw [List.append_assoc] at empty
      exact (List.append_eq_nil_iff.mp empty).1
    · change (if 0 < v.socket.socketRecvAvailable.1 then _ else _ : Except OutOfBounds _) = _
      rw [nothing]
      rfl
    · rw [← List.append_assoc, ← received]
      exact received2
  · obtain ⟨datagram, rest, tmpBuf, t, third, waits, read, size, serving, received3⟩ :=
      header_spec ready rfl (available ▸ nothing)
    refine ⟨parseHeader tmpBuf t, first ++ second ++ third, some datagram, rest ++ third, ?_,
      by simp, ?_, serving, ?_⟩
    · rw [List.append_assoc first, ← List.append_assoc waiting, ← List.append_assoc, waits]
      rfl
    · have positive : 0 < v.socket.socketRecvAvailable.1 := by
        rw [UInt16.lt_iff_toNat_lt]
        exact Nat.pos_of_ne_zero fun zero => nothing (UInt16.toNat_inj.mp zero)
      change (if 0 < v.socket.socketRecvAvailable.1 then _ else _ : Except OutOfBounds _) = _
      rw [if_pos positive]
      change (do
        let (ret, tmpBuf, socket) ← v.socket.socketRecvAvailable.2.socketRecv true 8
        _) = _
      rw [read]
      change Except.ok (some ((parseHeader tmpBuf t).remaining.toInt16, _)) = _
      rw [size]
      rfl
    · change t.w5100.received = _
      rw [received3, ← List.append_assoc, ← List.append_assoc, ← received]
      exact congrArg (· ++ third) received2

/-- Every call returns what it returns on the queue of datagrams. -/
theorem serve_spec (serves : u.Serves udp waiting) (call : UdpCall) :
    ∃ t new event rest, UdpEvent.call event = call ∧
      waiting ++ new = event.presented.toList ++ rest ∧
      u.serve call = .ok (some (event.answer udp, t)) ∧
      t.Serves (event.apply udp) rest ∧
      t.socket.w5100.received = u.socket.w5100.received ++ new := by
  cases call with
  | parsePacket =>
      obtain ⟨t, new, arrived, rest, presents, -, parses, serving, received⟩ :=
        parsePacket_spec serves
      refine ⟨t, new, .parsePacket arrived, rest, rfl, presents, ?_, serving, received⟩
      unfold serve
      rw [parses]
      change Except.ok (some (UdpAnswer.packet _ t.remoteIp t.remotePort, t)) = _
      rw [serving.remoteIp, serving.remotePort]
      rfl
  | available =>
      have same : u.remaining.toInt16 = Int16.ofNat udp.remaining.length := by
        rw [← serves.remaining]
        exact congrArg UInt16.toInt16 UInt16.ofNat_toNat.symm
      refine ⟨u, [], .available, waiting, rfl, List.append_nil _, ?_, serves,
        (List.append_nil _).symm⟩
      exact congrArg (fun value => Except.ok (some (UdpAnswer.count value, u))) same
  | read =>
      obtain ⟨t, new, reads, serving, received⟩ := read_spec serves
      refine ⟨t, new, .read, waiting ++ new, rfl, rfl, ?_, serving, received⟩
      unfold serve
      rw [reads]
      rfl
  | readBuffer toBuffer len =>
      obtain ⟨t, new, reads, serving, received⟩ := readBuffer_spec toBuffer len serves
      refine ⟨t, new, .readBuffer toBuffer len, waiting ++ new, rfl, rfl, ?_, serving, received⟩
      unfold serve
      dsimp only
      rw [reads]
      rfl

theorem run_spec (serves : u.Serves udp waiting) (calls : List UdpCall) :
    ∃ t new events rest, List.map UdpEvent.call events = calls ∧
      waiting ++ new = events.filterMap UdpEvent.presented ++ rest ∧
      u.run calls = .ok (some (udp.answers events, t)) ∧
      t.Serves (events.foldl UdpEvent.apply udp) rest ∧
      t.socket.w5100.received = u.socket.w5100.received ++ new := by
  induction calls generalizing u udp waiting with
  | nil => exact ⟨u, [], [], waiting, rfl, List.append_nil _, rfl, serves, (List.append_nil _).symm⟩
  | cons call calls ih =>
      obtain ⟨v, first, event, between, same, presents, served, serving, received⟩ :=
        serve_spec serves call
      obtain ⟨t, second, events, rest, others, presents2, runs, serving2, received2⟩ := ih serving
      refine ⟨t, first ++ second, event :: events, rest, ?_, ?_, ?_, serving2, ?_⟩
      · rw [List.map_cons, same, others]
      · have listed : (event :: events).filterMap UdpEvent.presented =
            event.presented.toList ++ events.filterMap UdpEvent.presented := by
          cases shown : event.presented <;> simp [shown]
        rw [listed, ← List.append_assoc, presents, List.append_assoc, presents2,
          List.append_assoc]
      · rw [run, served]
        change (v.run calls >>= _) = _
        rw [runs]
        rfl
      · rw [received2, received, List.append_assoc]

end UdpSocket

/-- A socket that has just been opened waits for its first datagram. -/
theorem UdpSocket.begun_serves (hasOffsetAddressMapping : Bool) (memory : Fin ssize → UInt8)
    (pointer : UInt16) (arriving : List (List Datagram)) (remoteIp : UInt32)
    (remotePort : UInt16) :
    ∃ waiting, (begun hasOffsetAddressMapping memory pointer arriving remoteIp remotePort).Serves
        ⟨remoteIp, remotePort, []⟩ waiting ∧
      (begun hasOffsetAddressMapping memory pointer arriving remoteIp
        remotePort).socket.w5100.received = waiting := by
  have fresh : W5100Socket.Unread ⟨hasOffsetAddressMapping, memory, 0, pointer, pointer, snSrUdp,
      arriving, []⟩ pointer 0 [] :=
    ⟨rfl, Nat.zero_le _, (UInt16.add_zero _).symm, rfl⟩
  obtain ⟨new, grows⟩ := W5100Socket.grows_access ⟨hasOffsetAddressMapping, memory, 0, pointer,
    pointer, snSrUdp, arriving, []⟩
  refine ⟨new, ⟨rfl, rfl, rfl, ⟨?_, Nat.zero_le _, Nat.zero_lt_succ _, fun _ => rfl⟩, [],
    List.nil_prefix, rfl⟩, grows.received⟩
  have unread := grows.unread fresh
  have start : (begun hasOffsetAddressMapping memory pointer arriving remoteIp
      remotePort).socket.rxRd = pointer := W5100Socket.access_snRxRd _
  rw [start]
  exact unread

/-- The driver is a queue of datagrams. From the opening of the socket on, whatever the memory
held, wherever the pointers of the ring stood, and whatever arrives between two accesses to the
chip, all calls of `parsePacket`, `available` and both `read`s return, and return what they return
where each datagram that the chip has stored is presented once, in order and unchanged. What waits
longest is what the next `parsePacket` presents, and of the memory that the unread bytes leave the
driver holds back less than 250 bytes from what may come. -/
theorem datagrams_in_order (hasOffsetAddressMapping : Bool) (memory : Fin ssize → UInt8)
    (pointer : UInt16) (arriving : List (List Datagram)) (remoteIp : UInt32)
    (remotePort : UInt16) (calls : List UdpCall) :
    ∃ events t waiting, List.map UdpEvent.call events = calls ∧
      (UdpSocket.begun hasOffsetAddressMapping memory pointer arriving remoteIp remotePort).run
          calls = .ok (some (EthernetUdp.answers events ⟨remoteIp, remotePort, []⟩, t)) ∧
      t.socket.w5100.received = events.filterMap UdpEvent.presented ++ waiting ∧
      (∀ next ∈ waiting.head?, ∃ v,
        t.parsePacket = .ok (some (Int16.ofNat next.bytes.length, v)) ∧
          v.remoteIp = next.ip ∧ v.remotePort = next.port) ∧
      ∀ datagram : Datagram,
        (events.foldl UdpEvent.apply ⟨remoteIp, remotePort, []⟩).remaining.length +
            (waiting.flatMap Datagram.stored).length + datagram.stored.length + 249 ≤ ssize →
          (t.socket.w5100.receive datagram).received = t.socket.w5100.received ++ [datagram] := by
  obtain ⟨early, fresh, stored⟩ := UdpSocket.begun_serves hasOffsetAddressMapping memory pointer
    arriving remoteIp remotePort
  obtain ⟨t, new, events, waiting, same, presents, runs, serves, received⟩ :=
    UdpSocket.run_spec fresh calls
  refine ⟨events, t, waiting, same, runs, ?_, fun next first => ?_, fun datagram room => ?_⟩
  · rw [received, stored, presents]
  · obtain ⟨v, later, arrived, rest, presented, missing, parses, serving, -⟩ :=
      UdpSocket.parsePacket_spec serves
    cases waiting with
    | nil => exact absurd first (by simp)
    | cons oldest others =>
        obtain rfl : oldest = next := by simpa using first
        cases arrived with
        | none => exact absurd (missing rfl) (List.cons_ne_nil _ _)
        | some datagram =>
            obtain ⟨rfl, -⟩ := List.cons_eq_cons.mp presented
            exact ⟨v, parses, serving.remoteIp, serving.remotePort⟩
  · have counted := serves.holds.unread.counted
    have back := serves.holds.back
    rw [List.length_append] at counted
    rw [W5100Socket.receive, if_pos (by omega)]

end BlueberryIrrigation
