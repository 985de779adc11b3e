import BlueberryIrrigation.Interface.Words
import BlueberryIrrigation.Network.Packet
import BlueberryIrrigation.Semantics.Ring

/-!
# Receiving from the chip (`socket.cpp`, `w5100.h`)

The chip keeps what arrives for a socket in a ring, and the driver reads it through registers.
Beside them it remembers in `socketstate_t` how many bytes it knows of, where it reads, and how
far it has read without telling the chip. Datagrams may arrive before every access to the chip.
What the driver has not read is a queue of bytes, which arrivals extend by whole datagrams.
-/

namespace BlueberryIrrigation

open Semantics

/-- `W5100.SSIZE` -/
abbrev ssize : Nat := 2048

instance ssize_neZero : NeZero ssize := ⟨by decide⟩

/-- `W5100.SMASK` -/
def smask : UInt16 := 0x07FF

/-- `SnSR::CLOSED` -/
def snSrClosed : UInt8 := 0x00

/-- `SnSR::LISTEN` -/
def snSrListen : UInt8 := 0x14

/-- `SnSR::CLOSE_WAIT` -/
def snSrCloseWait : UInt8 := 0x1C

/-- `SnSR::UDP` -/
def snSrUdp : UInt8 := 0x22

/-- What the chip stores of a datagram: the sender's address and port, the length, the bytes. -/
def Datagram.stored (datagram : Datagram) : List UInt8 :=
  let length := UInt16.ofNat datagram.bytes.length
  bytes32 datagram.ip ++ [(datagram.port >>> 8).toUInt8, datagram.port.toUInt8,
    (length >>> 8).toUInt8, length.toUInt8] ++ datagram.bytes

/-- A socket in the chip. Its memory is the block of the receive memory at `W5100.RBASE(s)`. -/
structure W5100Socket where
  hasOffsetAddressMapping : Bool
  memory : Fin ssize → UInt8
  snRxRsr : UInt16
  snRxRd : UInt16
  snRxWr : UInt16
  snSr : UInt8
  /-- What arrives before each access to come, and nothing after the last of them. -/
  arriving : List (List Datagram)
  /-- All that has been stored, the first one first. -/
  received : List Datagram

namespace W5100Socket

/-- A datagram arrives. It is stored when there is room for all of it. -/
def receive (w : W5100Socket) (datagram : Datagram) : W5100Socket :=
  if w.snRxRsr.toNat + datagram.stored.length ≤ ssize then
    { w with
      memory := Ring.lay w.memory w.snRxWr.toNat datagram.stored
      snRxRsr := w.snRxRsr + UInt16.ofNat datagram.stored.length
      snRxWr := w.snRxWr + UInt16.ofNat datagram.stored.length
      received := w.received ++ [datagram] }
  else w

/-- The chip when it is accessed the next time. -/
def access (w : W5100Socket) : W5100Socket :=
  match w.arriving with
  | [] => w
  | batch :: rest => { batch.foldl receive w with arriving := rest }

/-- `W5100.read`, inside the block. A chip with offset addresses wraps them around by itself. -/
def read (offset len : UInt16) (w : W5100Socket) :
    Except OutOfBounds (List UInt8 × W5100Socket) :=
  let w := w.access
  if w.hasOffsetAddressMapping then .ok (Ring.window w.memory offset.toNat len.toNat, w)
  else (Memory.loadAll w.memory offset.toNat len.toNat).map fun bytes => (bytes, w)

/-- `W5100.writeSnRX_RD(s, ptr)` -/
def writeSnRxRd (ptr : UInt16) (w : W5100Socket) : W5100Socket :=
  { w.access with snRxRd := ptr }

/-- `W5100.execCmdSn(s, Sock_RECV)`: the chip gives the memory before `SnRX_RD` free. -/
def execRecv (w : W5100Socket) : W5100Socket :=
  let w := w.access
  { w with snRxRsr := w.snRxWr - w.snRxRd }

/-- The readings of `getSnRX_RSR` after the first one, until two in a row agree. -/
def settle (prev : UInt16) : List (List Datagram) → W5100Socket → UInt16 × W5100Socket
  | [], w => (w.snRxRsr, w)
  | batch :: rest, w =>
      let w := { batch.foldl receive w with arriving := rest }
      if w.snRxRsr = prev then (w.snRxRsr, w) else settle w.snRxRsr rest w

/-- `getSnRX_RSR` -/
def getSnRxRsr (w : W5100Socket) : UInt16 × W5100Socket :=
  let w := w.access
  settle w.snRxRsr w.arriving w

end W5100Socket

/-- `socketstate_t`, as far as receiving goes, beside its socket in the chip. -/
structure SocketState where
  rxRsr : UInt16
  rxRd : UInt16
  rxInc : UInt8
  w5100 : W5100Socket

namespace SocketState

/-- `read_data` -/
def readData (src len : UInt16) (s : SocketState) :
    Except OutOfBounds (List UInt8 × SocketState) := do
  let srcMask := src &&& smask
  if s.w5100.hasOffsetAddressMapping ∨ srcMask + len ≤ UInt16.ofNat ssize then
    let (bytes, w5100) ← s.w5100.read srcMask len
    return (bytes, { s with w5100 })
  else
    let size := UInt16.ofNat ssize - srcMask
    let (first, w5100) ← s.w5100.read srcMask size
    let (second, w5100) ← w5100.read 0 (len - size)
    return (first ++ second, { s with w5100 })

/-- How much is there for a read of `len` bytes: the driver asks the chip when it knows of less. -/
def recvCount (len : Int16) (s : SocketState) : Int16 × SocketState :=
  if s.rxRsr.toInt16 < len then
    let (rsr, w5100) := s.w5100.getSnRxRsr
    let ret := rsr - s.rxInc.toUInt16
    (ret.toInt16, { s with rxRsr := ret, w5100 })
  else (s.rxRsr.toInt16, s)

/-- What `socketRecv` notes of a read, of which it tells the chip from time to time. -/
def recvAdvance (ret : UInt16) (s : SocketState) : SocketState :=
  let ptr := s.rxRd + ret
  let rxRsr := s.rxRsr - ret
  let inc := s.rxInc.toUInt16 + ret
  if 250 ≤ inc ∨ rxRsr = 0 then
    { s with rxRsr, rxRd := ptr, rxInc := 0, w5100 := (s.w5100.writeSnRxRd ptr).execRecv }
  else { s with rxRsr, rxRd := ptr, rxInc := inc.toUInt8 }

/-- `socketRecv(s, buf, len)`, with what it writes to the buffer, if that is not `NULL`. -/
def socketRecv (toBuffer : Bool) (len : Int16) (s : SocketState) :
    Except OutOfBounds (Int16 × List UInt8 × SocketState) := do
  let (ret, s) := s.recvCount len
  if ret = 0 then
    let w5100 := s.w5100.access
    let closed := w5100.snSr = snSrListen ∨ w5100.snSr = snSrClosed ∨ w5100.snSr = snSrCloseWait
    return (if closed then 0 else -1, [], { s with w5100 })
  else
    let ret := if len < ret then len else ret
    let (bytes, s) ← if toBuffer then s.readData s.rxRd ret.toUInt16 else .ok ([], s)
    return (ret, bytes, s.recvAdvance ret.toUInt16)

/-- `socketRecvAvailable(s)` -/
def socketRecvAvailable (s : SocketState) : UInt16 × SocketState :=
  if s.rxRsr = 0 then
    let (rsr, w5100) := s.w5100.getSnRxRsr
    let ret := rsr - s.rxInc.toUInt16
    (ret, { s with rxRsr := ret, w5100 })
  else (s.rxRsr, s)

end SocketState

/-! ## What arrives is a queue -/

namespace Datagram

variable {datagram : Datagram} {new : List Datagram}

theorem length_stored (datagram : Datagram) :
    datagram.stored.length = 8 + datagram.bytes.length := by
  simp only [stored, bytes32, List.length_append, List.length_cons, List.length_nil]

end Datagram

namespace W5100Socket

/-- From `start` on, these bytes are in the chip and still to be read; behind `start` lie as many
as the chip has not been told of. -/
structure Unread (w : W5100Socket) (start : UInt16) (behind : Nat) (bytes : List UInt8) :
    Prop where
  counted : w.snRxRsr.toNat = behind + bytes.length
  room : w.snRxRsr.toNat ≤ ssize
  writing : w.snRxWr = start + UInt16.ofNat bytes.length
  held : Ring.window w.memory start.toNat bytes.length = bytes

/-- Between `w` and `w'` the chip has stored these datagrams and been told nothing. -/
structure Grows (w w' : W5100Socket) (new : List Datagram) : Prop where
  received : w'.received = w.received ++ new
  unread : ∀ {start behind bytes}, w.Unread start behind bytes →
    w'.Unread start behind (bytes ++ new.flatMap Datagram.stored)

variable {w w' w'' : W5100Socket} {start prev : UInt16} {behind : Nat} {bytes : List UInt8}
  {first second : List Datagram} {datagram : Datagram}

theorem Grows.refl (w : W5100Socket) : w.Grows w [] where
  received := (List.append_nil _).symm
  unread unread := by simpa using unread

theorem Grows.trans (early : w.Grows w' first) (late : w'.Grows w'' second) :
    w.Grows w'' (first ++ second) where
  received := by rw [late.received, early.received, List.append_assoc]
  unread unread := by
    have both := late.unread (early.unread unread)
    rwa [List.append_assoc, ← List.flatMap_append] at both

/-- What the chip stores lies behind all that is unread. -/
theorem Unread.stores (unread : w.Unread start behind bytes)
    (room : w.snRxRsr.toNat + datagram.stored.length ≤ ssize) :
    (w.receive datagram).Unread start behind (bytes ++ datagram.stored) := by
  have counted := unread.counted
  unfold ssize at room
  have small : (UInt16.ofNat datagram.stored.length).toNat = datagram.stored.length :=
    UInt16.toNat_ofNat_of_lt' (by unfold UInt16.size; omega)
  have total : (w.snRxRsr + UInt16.ofNat datagram.stored.length).toNat =
      w.snRxRsr.toNat + datagram.stored.length := by
    rw [UInt16.toNat_add, small, Nat.mod_eq_of_lt (by omega)]
  have position : w.snRxWr.toNat % ssize = (start.toNat + bytes.length) % ssize := by
    rw [unread.writing, UInt16.toNat_add, UInt16.toNat_ofNat']
    unfold ssize
    omega
  unfold receive
  rw [if_pos room]
  refine ⟨?_, total.trans_le room, ?_, ?_⟩
  · rw [total, List.length_append]
    omega
  · rw [unread.writing, List.length_append, UInt16.ofNat_add, UInt16.add_assoc]
  · rw [Ring.lay_congr position, List.length_append]
    have fits : bytes.length + datagram.stored.length ≤ ssize := by
      unfold ssize
      omega
    exact (Ring.window_lay fits).trans (by rw [unread.held])

theorem grows_receive (w : W5100Socket) (datagram : Datagram) :
    ∃ new, w.Grows (w.receive datagram) new := by
  by_cases room : w.snRxRsr.toNat + datagram.stored.length ≤ ssize
  · refine ⟨[datagram], by rw [receive, if_pos room], fun unread => ?_⟩
    rw [List.flatMap_singleton]
    exact unread.stores room
  · rw [receive, if_neg room]
    exact ⟨[], Grows.refl w⟩

theorem grows_receives (w : W5100Socket) (batch : List Datagram) :
    ∃ new, w.Grows (batch.foldl receive w) new := by
  induction batch generalizing w with
  | nil => exact ⟨[], Grows.refl w⟩
  | cons datagram rest ih =>
      obtain ⟨first, early⟩ := grows_receive w datagram
      obtain ⟨second, late⟩ := ih (w.receive datagram)
      exact ⟨first ++ second, early.trans late⟩

/-- What is yet to come has no part in what is unread. -/
theorem Grows.arriving (grows : w.Grows w' first) (arriving : List (List Datagram)) :
    w.Grows { w' with arriving } first where
  received := grows.received
  unread unread :=
    have later := grows.unread unread
    ⟨later.counted, later.room, later.writing, later.held⟩

theorem grows_access (w : W5100Socket) : ∃ new, w.Grows w.access new := by
  unfold access
  split
  · exact ⟨[], Grows.refl w⟩
  · rename_i batch rest _
    obtain ⟨new, grows⟩ := grows_receives w batch
    exact ⟨new, grows.arriving rest⟩

/-- However often the size changes between the readings, the last of them is the size. -/
theorem settle_spec (prev : UInt16) (arriving : List (List Datagram)) (w : W5100Socket) :
    (settle prev arriving w).1 = (settle prev arriving w).2.snRxRsr ∧
      ∃ new, w.Grows (settle prev arriving w).2 new := by
  induction arriving generalizing prev w with
  | nil => exact ⟨rfl, [], Grows.refl w⟩
  | cons batch rest ih =>
      obtain ⟨first, early⟩ := grows_receives w batch
      unfold settle
      dsimp only
      split
      · exact ⟨rfl, first, early.arriving rest⟩
      · obtain ⟨read, second, late⟩ := ih (batch.foldl receive w).snRxRsr
          { batch.foldl receive w with arriving := rest }
        exact ⟨read, first ++ second, (early.arriving rest).trans late⟩

theorem getSnRxRsr_spec (w : W5100Socket) :
    w.getSnRxRsr.1 = w.getSnRxRsr.2.snRxRsr ∧ ∃ new, w.Grows w.getSnRxRsr.2 new := by
  obtain ⟨first, early⟩ := grows_access w
  obtain ⟨read, second, late⟩ := settle_spec w.access.snRxRsr w.access.arriving w.access
  exact ⟨read, first ++ second, early.trans late⟩

/-! ## What the driver does with it -/

@[simp] theorem receives_hasOffsetAddressMapping (w : W5100Socket) (batch : List Datagram) :
    (batch.foldl receive w).hasOffsetAddressMapping = w.hasOffsetAddressMapping := by
  induction batch generalizing w with
  | nil => rfl
  | cons datagram rest ih =>
      rw [List.foldl_cons, ih, receive]
      split <;> rfl

@[simp] theorem receives_snRxRd (w : W5100Socket) (batch : List Datagram) :
    (batch.foldl receive w).snRxRd = w.snRxRd := by
  induction batch generalizing w with
  | nil => rfl
  | cons datagram rest ih =>
      rw [List.foldl_cons, ih, receive]
      split <;> rfl

@[simp] theorem access_hasOffsetAddressMapping (w : W5100Socket) :
    w.access.hasOffsetAddressMapping = w.hasOffsetAddressMapping := by
  unfold access
  split <;> simp

@[simp] theorem access_snRxRd (w : W5100Socket) : w.access.snRxRd = w.snRxRd := by
  unfold access
  split <;> simp

variable {more : List UInt8} {count : Nat} {offset len : UInt16}

theorem Unread.window (position skip count : Nat) (unread : w.Unread start behind (bytes ++ more))
    (same : position % ssize = (start.toNat + skip) % ssize)
    (inside : skip + count ≤ bytes.length) :
    Ring.window w.memory position count = (bytes.drop skip).take count := by
  have longer : bytes.length ≤ (bytes ++ more).length := by simp
  have rest : Ring.window w.memory (start.toNat + skip) ((bytes ++ more).length - skip) =
      (bytes ++ more).drop skip := by
    rw [Ring.window_drop (by omega), unread.held]
  have short : count ≤ (bytes.drop skip).length := by
    rw [List.length_drop]
    omega
  have front : count ≤ (bytes ++ more).length - skip := by omega
  rw [Ring.window_congr same, Ring.window_take front, rest,
    List.drop_append_of_le_length (by omega), List.take_append_of_le_length short]

/-- The driver moves on in the memory without telling the chip. -/
theorem Unread.advance (unread : w.Unread start behind bytes) (inside : count ≤ bytes.length) :
    w.Unread (start + UInt16.ofNat count) (behind + count) (bytes.drop count) := by
  have counted := unread.counted
  have parts : bytes.length = count + (bytes.length - count) := by omega
  refine ⟨?_, unread.room, ?_, ?_⟩
  · rw [List.length_drop]
    omega
  · rw [List.length_drop, UInt16.add_assoc, ← UInt16.ofNat_add, ← parts]
    exact unread.writing
  · have position : (start + UInt16.ofNat count).toNat % ssize =
        (start.toNat + count) % ssize := by
      rw [UInt16.toNat_add, UInt16.toNat_ofNat']
      unfold ssize
      omega
    rw [List.length_drop, Ring.window_congr position, Ring.window_drop inside, unread.held]

/-- The chip is told how far the driver has read. -/
theorem Unread.acknowledge (unread : w.Unread start behind bytes) (inside : count ≤ bytes.length)
    (told : w.snRxRd = start + UInt16.ofNat count) :
    ({ w with snRxRsr := w.snRxWr - w.snRxRd } : W5100Socket).Unread
      (start + UInt16.ofNat count) 0 (bytes.drop count) := by
  have advanced := unread.advance inside
  have counted := advanced.counted
  have room := advanced.room
  unfold ssize at room
  have left : (w.snRxWr - w.snRxRd).toNat = (bytes.drop count).length := by
    have distance : w.snRxWr - w.snRxRd = UInt16.ofNat (bytes.drop count).length := by
      rw [advanced.writing, told]
      grind
    rw [distance]
    exact UInt16.toNat_ofNat_of_lt' (by unfold UInt16.size; omega)
  exact ⟨by rw [left, Nat.zero_add], by rw [left]; unfold ssize; omega, advanced.writing,
    advanced.held⟩

/-- A read that does not leave the block reads a window. -/
theorem read_inside
    (inside : w.hasOffsetAddressMapping ∨ offset.toNat + len.toNat ≤ ssize) :
    w.read offset len =
      .ok (Ring.window w.access.memory offset.toNat len.toNat, w.access) := by
  unfold read
  dsimp only
  rw [access_hasOffsetAddressMapping]
  split
  · rfl
  · rename_i linear
    rw [Ring.loadAll_inside (inside.resolve_left linear)]
    rfl

end W5100Socket

namespace SocketState

open W5100Socket

/-- These bytes are unread: the driver knows of a front of them, and holds back less than 250 that
it has read, none when there is nothing that it knows of. -/
structure Holds (s : SocketState) (bytes : List UInt8) : Prop where
  unread : s.w5100.Unread s.rxRd s.rxInc.toNat bytes
  known : s.rxRsr.toNat ≤ bytes.length
  back : s.rxInc.toNat < 250
  idle : s.rxRsr = 0 → s.rxInc = 0

variable {s : SocketState} {bytes : List UInt8} {len : UInt16}

theorem toNat_and_smask (src : UInt16) : (src &&& smask).toNat = src.toNat % ssize := by
  rw [UInt16.toNat_and]
  exact Nat.and_two_pow_sub_one_eq_mod src.toNat 11

/-- Around the end of the block or not, the bytes come out in order. -/
theorem readData_spec {behind : Nat} (unread : s.w5100.Unread s.rxRd behind bytes)
    (inside : len.toNat ≤ bytes.length) :
    ∃ w new, s.readData s.rxRd len = .ok (bytes.take len.toNat, { s with w5100 := w }) ∧
      s.w5100.Grows w new := by
  have counted := unread.counted
  have room := unread.room
  have srcMask := toNat_and_smask s.rxRd
  have below : (s.rxRd &&& smask).toNat < ssize := by
    rw [srcMask]
    exact Nat.mod_lt _ (by decide)
  obtain ⟨first, early⟩ := grows_access s.w5100
  unfold readData
  dsimp only
  split
  · rename_i straight
    refine ⟨s.w5100.access, first, ?_, early⟩
    have fits : s.w5100.hasOffsetAddressMapping ∨
        (s.rxRd &&& smask).toNat + len.toNat ≤ ssize := by
      refine straight.imp id fun small => ?_
      rw [UInt16.le_iff_toNat_le, UInt16.toNat_add] at small
      change _ % 65536 ≤ 2048 at small
      unfold ssize at below room ⊢
      omega
    have read := (early.unread unread).window (s.rxRd &&& smask).toNat 0 len.toNat
      (by rw [srcMask]; exact Nat.mod_mod _ _) (by omega)
    rw [read_inside fits, read]
    rfl
  · rename_i around
    obtain ⟨second, late⟩ := grows_access s.w5100.access
    refine ⟨s.w5100.access.access, first ++ second, ?_, early.trans late⟩
    have crosses : ssize < (s.rxRd &&& smask).toNat + len.toNat := by
      have large := mt Or.inr around
      rw [UInt16.le_iff_toNat_le, UInt16.toNat_add] at large
      change ¬ _ % 65536 ≤ 2048 at large
      unfold ssize at below room ⊢
      omega
    have size : (UInt16.ofNat ssize - (s.rxRd &&& smask)).toNat =
        ssize - (s.rxRd &&& smask).toNat :=
      UInt16.toNat_sub_of_le _ _ (UInt16.le_iff_toNat_le.mpr below.le)
    have rest : (len - (UInt16.ofNat ssize - (s.rxRd &&& smask))).toNat =
        len.toNat - (UInt16.ofNat ssize - (s.rxRd &&& smask)).toNat :=
      UInt16.toNat_sub_of_le _ _ (UInt16.le_iff_toNat_le.mpr (by omega))
    have first := (early.unread unread).window (s.rxRd &&& smask).toNat 0
      (UInt16.ofNat ssize - (s.rxRd &&& smask)).toNat (by rw [srcMask]; exact Nat.mod_mod _ _)
      (by omega)
    have both := (early.trans late).unread unread
    have second := both.window (UInt16.toNat 0) (UInt16.ofNat ssize - (s.rxRd &&& smask)).toNat
      (len - (UInt16.ofNat ssize - (s.rxRd &&& smask))).toNat
      (by rw [size, srcMask]; change 0 % 2048 = _; unfold ssize; omega) (by omega)
    have whole : (UInt16.ofNat ssize - (s.rxRd &&& smask)).toNat +
        (len - (UInt16.ofNat ssize - (s.rxRd &&& smask))).toNat = len.toNat := by omega
    rw [read_inside (.inr (by omega)), first]
    change (do
      let (after, w5100) ← s.w5100.access.read 0 _
      return (_ ++ after, { s with w5100 })) = _
    rw [read_inside (.inr (by change 0 + _ ≤ _; unfold ssize at *; omega)), second]
    change Except.ok (_ ++ _, _) = _
    rw [List.drop_zero, ← List.take_add, whole]

/-- Between `s` and `t` the driver has read this many bytes, and these datagrams have come. -/
structure Reads (s t : SocketState) (bytes : List UInt8) (count : Nat) (new : List Datagram) :
    Prop where
  holds : t.Holds (bytes.drop count ++ new.flatMap Datagram.stored)
  known : t.rxRsr.toNat = s.rxRsr.toNat - count
  received : t.w5100.received = s.w5100.received ++ new

/-- Telling the chip or not, the driver goes on behind what it has read. -/
theorem recvAdvance_spec (holds : s.Holds bytes) (inside : len.toNat ≤ s.rxRsr.toNat) :
    ∃ new, s.Reads (s.recvAdvance len) bytes len.toNat new := by
  have known := holds.known
  have back := holds.back
  have counted := holds.unread.counted
  have room := holds.unread.room
  unfold ssize at room
  have rest : (s.rxRsr - len).toNat = s.rxRsr.toNat - len.toNat :=
    UInt16.toNat_sub_of_le _ _ (UInt16.le_iff_toNat_le.mpr inside)
  have ahead : len = UInt16.ofNat len.toNat := UInt16.ofNat_toNat.symm
  have inc : (s.rxInc.toUInt16 + len).toNat = s.rxInc.toNat + len.toNat := by
    rw [UInt16.toNat_add, UInt8.toNat_toUInt16, Nat.mod_eq_of_lt (by omega)]
  unfold recvAdvance
  dsimp only
  split
  · obtain ⟨first, early⟩ := grows_access s.w5100
    obtain ⟨second, late⟩ := grows_access (s.w5100.writeSnRxRd (s.rxRd + len))
    have written := early.unread holds.unread
    have both : (s.w5100.writeSnRxRd (s.rxRd + len)).access.Unread s.rxRd s.rxInc.toNat
        (bytes ++ (first ++ second).flatMap Datagram.stored) := by
      rw [List.flatMap_append, ← List.append_assoc]
      exact late.unread ⟨written.counted, written.room, written.writing, written.held⟩
    have told : (s.w5100.writeSnRxRd (s.rxRd + len)).access.snRxRd =
        s.rxRd + UInt16.ofNat len.toNat := by
      rw [access_snRxRd, ← ahead]
      rfl
    have freed := both.acknowledge (by rw [List.length_append]; omega) told
    rw [List.drop_append_of_le_length (by omega), ← ahead] at freed
    refine ⟨first ++ second, ⟨freed, ?_, by change 0 < 250; omega, fun _ => rfl⟩, rest, ?_⟩
    · change (s.rxRsr - len).toNat ≤ _
      rw [List.length_append, List.length_drop]
      omega
    · change (s.w5100.writeSnRxRd (s.rxRd + len)).access.received = _
      rw [late.received, ← List.append_assoc]
      exact congrArg (· ++ second) early.received
  · rename_i quiet
    obtain ⟨few, some⟩ := not_or.mp quiet
    have small : (s.rxInc.toUInt16 + len).toNat < 250 := UInt16.not_le.mp few
    have kept : (s.rxInc.toUInt16 + len).toUInt8.toNat = s.rxInc.toNat + len.toNat := by
      rw [UInt16.toNat_toUInt8, inc]
      omega
    have advanced := holds.unread.advance (inside.trans known)
    rw [← ahead, ← kept] at advanced
    refine ⟨[], ⟨?_, ?_, by rw [kept]; omega, fun none => absurd none some⟩, rest, ?_⟩
    · simpa using advanced
    · change (s.rxRsr - len).toNat ≤ _
      rw [List.length_append, List.length_drop]
      omega
    · exact (List.append_nil _).symm

theorem toInt_toInt16 {word : UInt16} (small : word.toNat ≤ ssize) :
    word.toInt16.toInt = word.toNat := by
  unfold ssize at small
  exact BitVec.toInt_eq_toNat_of_lt (by change 2 * word.toNat < 2 ^ 16; omega)

/-- A read of bytes that the driver knows of reads them. -/
theorem socketRecv_spec (toBuffer : Bool) (len : UInt16) (holds : s.Holds bytes)
    (some : 0 < s.rxRsr.toNat) (inside : len.toNat ≤ s.rxRsr.toNat) :
    ∃ t new, s.socketRecv toBuffer len.toInt16 =
        .ok (len.toInt16, if toBuffer then bytes.take len.toNat else [], t) ∧
      s.Reads t bytes len.toNat new := by
  have counted := holds.unread.counted
  have room := holds.unread.room
  have known := holds.known
  have asked : len.toInt16.toInt = len.toNat := toInt_toInt16 (by omega)
  have ready : s.rxRsr.toInt16.toInt = s.rxRsr.toNat := toInt_toInt16 (by omega)
  have enough : ¬ s.rxRsr.toInt16 < len.toInt16 := by
    rw [Int16.lt_iff_toInt_lt]
    omega
  have full : s.rxRsr.toInt16 ≠ 0 := by
    intro none
    have zero : s.rxRsr.toInt16.toInt = 0 := congrArg Int16.toInt none
    omega
  have taken : (if len.toInt16 < s.rxRsr.toInt16 then len.toInt16 else s.rxRsr.toInt16) =
      len.toInt16 := by
    split
    · rfl
    · rename_i not
      rw [Int16.lt_iff_toInt_lt] at not
      exact Int16.toInt_inj.mp (by omega)
  have count : s.recvCount len.toInt16 = (s.rxRsr.toInt16, s) := if_neg enough
  unfold socketRecv
  rw [count]
  dsimp only
  rw [if_neg full, taken, UInt16.toUInt16_toInt16]
  cases toBuffer with
  | false =>
      obtain ⟨new, reads⟩ := recvAdvance_spec holds inside
      exact ⟨_, new, rfl, reads⟩
  | true =>
      obtain ⟨w, first, read, early⟩ := readData_spec holds.unread (inside.trans known)
      have later : ({ s with w5100 := w } : SocketState).Holds
          (bytes ++ first.flatMap Datagram.stored) :=
        ⟨early.unread holds.unread, by rw [List.length_append]; change s.rxRsr.toNat ≤ _; omega,
          holds.back, holds.idle⟩
      obtain ⟨second, reads⟩ := recvAdvance_spec later inside
      refine ⟨_, first ++ second, ?_, ?_, reads.known, ?_⟩
      · rw [if_pos rfl, if_pos rfl, read]
        rfl
      · rw [List.flatMap_append, ← List.append_assoc,
          ← List.drop_append_of_le_length (inside.trans known)]
        exact reads.holds
      · rw [reads.received, ← List.append_assoc]
        exact congrArg (· ++ second) early.received

/-- When the driver knows of nothing, it asks the chip for all that is there. -/
theorem socketRecvAvailable_spec (holds : s.Holds bytes) :
    ∃ new, s.socketRecvAvailable.2.Holds (bytes ++ new.flatMap Datagram.stored) ∧
      s.socketRecvAvailable.1 = s.socketRecvAvailable.2.rxRsr ∧
      s.socketRecvAvailable.2.w5100.received = s.w5100.received ++ new ∧
      s.socketRecvAvailable.2.rxRsr.toNat =
        if s.rxRsr = 0 then (bytes ++ new.flatMap Datagram.stored).length else s.rxRsr.toNat := by
  unfold socketRecvAvailable
  split
  · rename_i nothing
    obtain ⟨read, new, grows⟩ := getSnRxRsr_spec s.w5100
    have unread := grows.unread holds.unread
    have counted := unread.counted
    have idle := holds.idle nothing
    have all : (s.w5100.getSnRxRsr.1 - s.rxInc.toUInt16).toNat =
        (bytes ++ new.flatMap Datagram.stored).length := by
      rw [idle] at counted ⊢
      rw [read]
      change (_ - 0 : UInt16).toNat = _
      rw [UInt16.sub_zero, counted]
      exact Nat.zero_add _
    exact ⟨new, ⟨unread, all.le, holds.back, fun _ => idle⟩, rfl, grows.received, all⟩
  · exact ⟨[], by simpa using holds, rfl, (List.append_nil _).symm, rfl⟩

end SocketState
end BlueberryIrrigation
