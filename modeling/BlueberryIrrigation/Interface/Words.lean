import BlueberryIrrigation.Interface.Dispatch

/-!
# Words and their bytes

Both ends write words through pointer casts, low byte first. The value of a word that is read is
the positional value of its bytes, so a word that was written is read back. The packets that are
made of words have fixed sizes.
-/

namespace BlueberryIrrigation

theorem toNat_word16 (low high : UInt8) :
    (word16 low high).toNat = low.toNat + 256 * high.toNat := by
  have first := low.toNat_lt
  have second := high.toNat_lt
  have shifted : (high.toUInt16 <<< 8).toNat = high.toNat <<< 8 := by
    rw [UInt16.toNat_shiftLeft, UInt8.toNat_toUInt16]
    change high.toNat <<< 8 % 65536 = _
    rw [Nat.shiftLeft_eq, Nat.mod_eq_of_lt (by omega)]
  unfold word16
  rw [UInt16.toNat_or, shifted, UInt8.toNat_toUInt16, Nat.or_comm,
    ← Nat.shiftLeft_add_eq_or_of_lt first, Nat.shiftLeft_eq]
  omega

theorem toNat_word32 (first second third fourth : UInt8) :
    (word32 first second third fourth).toNat =
      first.toNat + 256 * second.toNat + 65536 * third.toNat + 16777216 * fourth.toNat := by
  have bound := first.toNat_lt
  have bound2 := second.toNat_lt
  have bound3 := third.toNat_lt
  have bound4 := fourth.toNat_lt
  have shifted (byte : UInt8) (place : UInt32) (inside : place.toNat ≤ 24) :
      (byte.toUInt32 <<< place).toNat = byte.toNat <<< place.toNat := by
    have small := byte.toNat_lt
    have power : 2 ^ place.toNat ≤ 2 ^ 24 := Nat.pow_le_pow_right (by decide) inside
    have product : byte.toNat * 2 ^ place.toNat < 2 ^ 8 * 2 ^ 24 :=
      Nat.mul_lt_mul_of_lt_of_le small power (by decide)
    have whole : place.toNat % 32 = place.toNat := Nat.mod_eq_of_lt (by omega)
    rw [UInt32.toNat_shiftLeft, UInt8.toNat_toUInt32, whole, Nat.shiftLeft_eq]
    exact Nat.mod_eq_of_lt product
  have lower : first.toNat ||| second.toNat <<< 8 = second.toNat * 256 + first.toNat := by
    rw [Nat.or_comm, ← Nat.shiftLeft_add_eq_or_of_lt bound, Nat.shiftLeft_eq]
  have middle : first.toNat ||| second.toNat <<< 8 ||| third.toNat <<< 16 =
      third.toNat * 65536 + (second.toNat * 256 + first.toNat) := by
    rw [lower, Nat.or_comm, ← Nat.shiftLeft_add_eq_or_of_lt (by omega), Nat.shiftLeft_eq]
  unfold word32
  rw [UInt32.toNat_or, UInt32.toNat_or, UInt32.toNat_or, shifted second 8 (by decide),
    shifted third 16 (by decide), shifted fourth 24 (by decide), UInt8.toNat_toUInt32]
  change first.toNat ||| second.toNat <<< 8 ||| third.toNat <<< 16 ||| fourth.toNat <<< 24 = _
  rw [middle, Nat.or_comm, ← Nat.shiftLeft_add_eq_or_of_lt (by omega), Nat.shiftLeft_eq]
  omega

/-- What `bytes16` writes is read back. -/
theorem word16_bytes (word : UInt16) : word16 word.toUInt8 (word >>> 8).toUInt8 = word := by
  have bound := word.toNat_lt
  rw [← UInt16.toNat_inj, toNat_word16]
  simp [Nat.shiftRight_eq_div_pow]
  omega

/-- What `bytes32` writes is read back. -/
theorem word32_bytes (word : UInt32) :
    word32 word.toUInt8 (word >>> 8).toUInt8 (word >>> 16).toUInt8 (word >>> 24).toUInt8 =
      word := by
  have bound := word.toNat_lt
  rw [← UInt32.toNat_inj, toNat_word32]
  simp [Nat.shiftRight_eq_div_pow]
  omega

/-! ## The sizes of the packets -/

theorem length_deviceInfo (s : Controller) : (deviceInfo s).length = 16 := by
  simp [deviceInfo]

theorem length_sensorFlowInfo (s : Controller) : (sensorFlowInfo s).length = 31 := rfl

theorem length_sensorPressureInfo (s : Controller) : (sensorPressureInfo s).length = 4 := by
  simp [sensorPressureInfo]

theorem length_controlIrrigationInfo (now : Nat) (irrigation : Irrigation) :
    (controlIrrigationInfo now irrigation).length = 43 := rfl

end BlueberryIrrigation
