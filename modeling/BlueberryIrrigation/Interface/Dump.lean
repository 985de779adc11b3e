import BlueberryIrrigation.Interface.Words

/-!
# The dump of the device table (`device.cpp`)

`device_save_to_array` writes one record, `device_save_to_array_all` is to write them all. The
records can be read back one behind the other, but the loop ends at the number of extensions, and
what is returned is the length of the last record.
-/

namespace BlueberryIrrigation

/-- The memory behind a `uint8_t *`. -/
abbrev Buffer := Nat → UInt8

/-- `buffer[index_buffer] = byte; index_buffer++` for each of the bytes, from `index_buffer = 0`. -/
def saveBytes (buffer : Buffer) (offset : Nat) (bytes : List UInt8) : Buffer × UInt8 :=
  bytes.foldl (fun saved byte =>
    (Function.update saved.1 (offset + saved.2.toNat) byte, saved.2 + 1)) (buffer, 0)

/-- The statics of `device_save_to_array_all`. -/
structure DumpState where
  buffer : Buffer
  indexBuffer : UInt8
  indexBufferTotal : UInt8

namespace Controller

/-- What `device_save_to_array` assigns, in this order. -/
def deviceBytes (device : Fin 15) (s : Controller) : List UInt8 :=
  let saved := s.deviceArray device
  saved.pin :: saved.isActive :: saved.timeSwitchMinimum :: bytes32 saved.timeSwitchLast ++
    match saved.deviceExtension with
    | none => [0]
    | some index =>
        let extension := s.deviceExtensionArray index
        1 :: extension.pin :: extension.isHold :: extension.timeSwitchHoldMinimum ::
          bytes32 extension.timeSwitchHoldLast

/-- `device_save_to_array(&device_array[device], buffer + offset)` -/
def deviceSaveToArray (device : Fin 15) (buffer : Buffer) (offset : Nat) (s : Controller) :
    Buffer × UInt8 := saveBytes buffer offset (s.deviceBytes device)

/-- The loop body of `device_save_to_array_all`. -/
def deviceSave (s : Controller) (dump : DumpState) (device : Fin 15) : DumpState :=
  let (buffer, length) := s.deviceSaveToArray device dump.buffer dump.indexBufferTotal.toNat
  { buffer := buffer
    indexBuffer := length
    indexBufferTotal := dump.indexBufferTotal + length }

/-- `device_save_to_array_all(buffer)`: the buffer that it leaves and what it returns. -/
def deviceSaveToArrayAll (buffer : Buffer) (s : Controller) : Buffer × UInt8 :=
  -- The loop is bounded by `DEVICE_EXTENSION_ARRAY_SIZE`.
  let dump := (List.finRange 1).foldl
    (fun dump index => s.deviceSave dump (index.castLE (by decide))) ⟨buffer, 0, 0⟩
  (dump.buffer, dump.indexBuffer)

/-- The consecutive records of all devices. -/
def deviceDump (s : Controller) : List UInt8 := (List.finRange 15).flatMap s.deviceBytes

end Controller

/-! ## Reading records -/

/-- The fields of a device, with those of its extension. -/
structure DeviceRecord where
  pin : UInt8
  isActive : Flag
  timeSwitchMinimum : UInt8
  timeSwitchLast : UInt32
  deviceExtension : Option DeviceExtension

def Controller.deviceRecord (s : Controller) (device : Fin 15) : DeviceRecord where
  pin := (s.deviceArray device).pin
  isActive := (s.deviceArray device).isActive
  timeSwitchMinimum := (s.deviceArray device).timeSwitchMinimum
  timeSwitchLast := (s.deviceArray device).timeSwitchLast
  deviceExtension := (s.deviceArray device).deviceExtension.map s.deviceExtensionArray

/-- A 32-bit word in the buffer. -/
def Buffer.word (buffer : Buffer) (position : Nat) : UInt32 :=
  word32 (buffer position) (buffer (position + 1)) (buffer (position + 2)) (buffer (position + 3))

/-- The record at a position, and the position behind it. -/
def readDevice (buffer : Buffer) (position : Nat) : DeviceRecord × Nat :=
  let record (deviceExtension : Option DeviceExtension) : DeviceRecord :=
    { pin := buffer position
      isActive := buffer (position + 1)
      timeSwitchMinimum := buffer (position + 2)
      timeSwitchLast := Buffer.word buffer (position + 3)
      deviceExtension := deviceExtension }
  if buffer (position + 7) = 0 then (record none, position + 8)
  else
    let extension : DeviceExtension :=
      { pin := buffer (position + 8)
        isHold := buffer (position + 9)
        timeSwitchHoldMinimum := buffer (position + 10)
        timeSwitchHoldLast := Buffer.word buffer (position + 11) }
    (record (some extension), position + 15)

/-- So many records, one behind the other. -/
def readDevices (buffer : Buffer) : Nat → Nat → List DeviceRecord
  | 0, _ => []
  | count + 1, position =>
      (readDevice buffer position).1 :: readDevices buffer count (readDevice buffer position).2

/-- The bytes stand in the buffer from this position on. -/
def HoldsBytes (buffer : Buffer) : Nat → List UInt8 → Prop
  | _, [] => True
  | position, byte :: rest => buffer position = byte ∧ HoldsBytes buffer (position + 1) rest

theorem holdsBytes_append {buffer : Buffer} {position : Nat} {first second : List UInt8} :
    HoldsBytes buffer position (first ++ second) ↔
      HoldsBytes buffer position first ∧ HoldsBytes buffer (position + first.length) second := by
  induction first generalizing position with
  | nil => simp [HoldsBytes]
  | cons byte rest ih =>
      rw [List.cons_append, HoldsBytes, HoldsBytes, ih, List.length_cons, Nat.add_right_comm,
        Nat.add_assoc, and_assoc]

namespace Controller

variable (s : Controller)

theorem length_deviceBytes (device : Fin 15) :
    8 ≤ (s.deviceBytes device).length ∧ (s.deviceBytes device).length ≤ 15 := by
  unfold deviceBytes
  cases extension : (s.deviceArray device).deviceExtension <;> simp [extension, bytes32]

/-- A record is read back with all its fields. -/
theorem readDevice_of_holds {buffer : Buffer} {position : Nat} {device : Fin 15}
    (holds : HoldsBytes buffer position (s.deviceBytes device)) :
    readDevice buffer position =
      (s.deviceRecord device, position + (s.deviceBytes device).length) := by
  unfold deviceBytes at holds ⊢
  unfold readDevice deviceRecord
  cases extension : (s.deviceArray device).deviceExtension with
  | none =>
      simp only [extension, bytes32, List.cons_append, List.nil_append, HoldsBytes,
        Nat.add_assoc, Nat.reduceAdd] at holds
      simp [holds, extension, Buffer.word, word32_bytes, bytes32, Nat.add_assoc]
  | some index =>
      simp only [extension, bytes32, List.cons_append, List.nil_append, HoldsBytes,
        Nat.add_assoc, Nat.reduceAdd] at holds
      simp [holds, extension, Buffer.word, word32_bytes, bytes32, Nat.add_assoc]

/-- Consecutive records are read back in order. -/
theorem readDevices_of_holds {buffer : Buffer} {position : Nat} {devices : List (Fin 15)}
    (holds : HoldsBytes buffer position (devices.flatMap s.deviceBytes)) :
    readDevices buffer devices.length position = devices.map s.deviceRecord := by
  induction devices generalizing position with
  | nil => rfl
  | cons device rest ih =>
      rw [List.flatMap_cons, holdsBytes_append] at holds
      rw [List.length_cons, readDevices, s.readDevice_of_holds holds.1, ih holds.2, List.map_cons]

end Controller

/-! ## Writing records -/

/-- The buffer with these bytes laid over it. -/
def laidBytes (buffer : Buffer) : Nat → List UInt8 → Buffer
  | _, [] => buffer
  | position, byte :: rest => laidBytes (Function.update buffer position byte) (position + 1) rest

/-- What is laid later leaves the positions before it alone. -/
theorem laidBytes_before {buffer : Buffer} {start position : Nat} {bytes : List UInt8}
    (before : position < start) : laidBytes buffer start bytes position = buffer position := by
  induction bytes generalizing buffer start with
  | nil => rfl
  | cons byte rest ih =>
      rw [laidBytes, ih (Nat.lt_succ_of_lt before), Function.update_of_ne (Nat.ne_of_lt before)]

theorem laidBytes_behind {buffer : Buffer} {start position : Nat} {bytes : List UInt8}
    (behind : start + bytes.length ≤ position) :
    laidBytes buffer start bytes position = buffer position := by
  induction bytes generalizing buffer start with
  | nil => rfl
  | cons byte rest ih =>
      rw [List.length_cons] at behind
      rw [laidBytes, ih (by omega), Function.update_of_ne (by omega)]

/-- The bytes stand where they were laid. -/
theorem holdsBytes_laidBytes (buffer : Buffer) (position : Nat) (bytes : List UInt8) :
    HoldsBytes (laidBytes buffer position bytes) position bytes := by
  induction bytes generalizing buffer position with
  | nil => trivial
  | cons byte rest ih =>
      refine ⟨?_, ih _ (position + 1)⟩
      rw [laidBytes, laidBytes_before (Nat.lt_succ_self position), Function.update_self]

/-- While the 8-bit index does not wrap, the bytes are laid from the offset on. -/
theorem saveBytes_eq (buffer : Buffer) (offset : Nat) {bytes : List UInt8}
    (short : bytes.length < 256) :
    saveBytes buffer offset bytes =
      (laidBytes buffer offset bytes, UInt8.ofNat bytes.length) := by
  have stored : ∀ (rest : List UInt8) (buffer : Buffer) (index : Nat),
      index + rest.length < 256 →
      rest.foldl (fun saved byte =>
          (Function.update saved.1 (offset + saved.2.toNat) byte, saved.2 + 1))
        (buffer, UInt8.ofNat index) =
      (laidBytes buffer (offset + index) rest, UInt8.ofNat (index + rest.length)) := by
    intro rest
    induction rest with
    | nil => exact fun _ _ _ => rfl
    | cons byte rest ih =>
        intro buffer index few
        rw [List.length_cons] at few
        have position : (UInt8.ofNat index).toNat = index := by
          rw [UInt8.toNat_ofNat']
          exact Nat.mod_eq_of_lt (by omega)
        have next : UInt8.ofNat index + 1 = UInt8.ofNat (index + 1) :=
          (UInt8.ofNat_add index 1).symm
        rw [List.foldl_cons, position, next, ih _ (index + 1) (by omega), laidBytes,
          List.length_cons, Nat.add_assoc, Nat.add_assoc, Nat.add_comm 1]
  have all := stored bytes buffer 0 (by omega)
  rwa [Nat.zero_add, Nat.add_zero] at all

namespace Controller

variable (s : Controller)

/-- One record is written, and its length is returned. -/
theorem deviceSaveToArray_eq (device : Fin 15) (buffer : Buffer) (offset : Nat) :
    s.deviceSaveToArray device buffer offset =
      (laidBytes buffer offset (s.deviceBytes device),
        UInt8.ofNat (s.deviceBytes device).length) :=
  saveBytes_eq buffer offset ((s.length_deviceBytes device).2.trans_lt (by decide))

/-- The record of the first device is all that is written and counted. -/
theorem deviceSaveToArrayAll_eq (buffer : Buffer) :
    s.deviceSaveToArrayAll buffer =
      (laidBytes buffer 0 (s.deviceBytes 0), UInt8.ofNat (s.deviceBytes 0).length) := by
  change s.deviceSaveToArray 0 buffer 0 = _
  exact s.deviceSaveToArray_eq 0 buffer 0

/-- The dump goes on with the pin of the next device. -/
theorem deviceDump_eq : ∃ rest,
    s.deviceDump = s.deviceBytes 0 ++ (s.deviceArray 1).pin :: rest :=
  ⟨_, rfl⟩

end Controller

/-- The dump of the device table is that of one device: for no table does it write the records of
all devices, return their total length, or let the table be read back. -/
theorem device_dump (s : Controller) :
    ¬ (∀ buffer, HoldsBytes (s.deviceSaveToArrayAll buffer).1 0 s.deviceDump) ∧
      (∀ buffer, (s.deviceSaveToArrayAll buffer).2.toNat ≠ s.deviceDump.length) ∧
      ¬ (∀ buffer, readDevices (s.deviceSaveToArrayAll buffer).1 15 0 =
        (List.finRange 15).map s.deviceRecord) := by
  obtain ⟨rest, dump⟩ := s.deviceDump_eq
  -- Behind the first record stands what stood there before, and that need not be the next pin.
  have behind : (s.deviceSaveToArrayAll fun _ => (s.deviceArray 1).pin + 1).1
      (s.deviceBytes 0).length ≠ (s.deviceArray 1).pin := by
    rw [s.deviceSaveToArrayAll_eq]
    dsimp only
    rw [laidBytes_behind (Nat.zero_add _).le]
    simp
  refine ⟨fun writes => behind ?_, fun buffer counted => ?_, fun recovers => behind ?_⟩
  · have written := writes fun _ => (s.deviceArray 1).pin + 1
    rw [dump, holdsBytes_append, Nat.zero_add] at written
    exact written.2.1
  · have length := s.length_deviceBytes 0
    rw [s.deviceSaveToArrayAll_eq, UInt8.toNat_ofNat', Nat.mod_eq_of_lt (by omega), dump,
      List.length_append, List.length_cons] at counted
    omega
  · have first : HoldsBytes (s.deviceSaveToArrayAll fun _ => (s.deviceArray 1).pin + 1).1 0
        (s.deviceBytes 0) := by
      rw [s.deviceSaveToArrayAll_eq]
      exact holdsBytes_laidBytes _ 0 _
    have second := congrArg (fun records => records[1]?.map DeviceRecord.pin)
      (recovers fun _ => (s.deviceArray 1).pin + 1)
    rw [readDevices, s.readDevice_of_holds first, Nat.zero_add, readDevices] at second
    have pin (position : Nat) (buffer : Buffer) :
        (readDevice buffer position).1.pin = buffer position := by
      unfold readDevice
      dsimp only
      split <;> rfl
    exact (pin _ _).symm.trans (Option.some.inj second)

/-- The table at power-up and a buffer of zeros: eight bytes of 127 are written and counted. -/
theorem device_dump_boot :
    boot.deviceDump.length = 127 ∧ (boot.deviceSaveToArrayAll fun _ => 0).2 = 8 ∧
      (boot.deviceSaveToArrayAll fun _ => 0).1 8 = 0 ∧ boot.deviceDump[8]? = some 24 ∧
      ¬ (∀ (s : Controller) (buffer : Buffer),
        HoldsBytes (s.deviceSaveToArrayAll buffer).1 0 s.deviceDump ∧
          (s.deviceSaveToArrayAll buffer).2.toNat = s.deviceDump.length ∧
          readDevices (s.deviceSaveToArrayAll buffer).1 15 0 =
            (List.finRange 15).map s.deviceRecord) := by
  have total : boot.deviceDump.length = 127 := rfl
  have returned : (boot.deviceSaveToArrayAll fun _ => 0).2 = 8 := rfl
  refine ⟨total, returned, rfl, rfl, fun dumps => ?_⟩
  have counted := (dumps boot fun _ => 0).2.1
  rw [total, returned] at counted
  exact absurd counted (by decide)

end BlueberryIrrigation
