import Mathlib.Data.Nat.Digits.Defs
import BlueberryIrrigation.Interface.Serial
import BlueberryIrrigation.Server.Udp

/-!
# The operator's command line (`main.c`)

`user_input_process_data` reads a command line and sends the packet of its command. All reads of a
line come before the packet is sent, so it is two functions here: `consoleAction` reads the line,
`userInputProcessData` does what it says. The readers of the server are those of the Arduino, line
for line; what `user_input_get` cannot read is -1, as `Serial.read()` has it.
-/

namespace BlueberryIrrigation

open Semantics

/-- What a command line asks for. -/
inductive ConsoleAction where
  /-- The packet with this body is sent. -/
  | send (body : List UInt8)
  | print (isPrint : Flag)
  | ignore
deriving DecidableEq, Repr

/-- The second loop of `serial_number_read_32`, from the last digit to the first. -/
def serialNumber32 (digits : List UInt16) : UInt32 :=
  digits.reverse.zipIdx.foldl (fun number digit =>
    number + digit.1.toUInt32 * mathPower 10 (UInt8.ofNat digit.2)) 0

/-- `serial_number_read_32()` -/
def serialNumberRead32 (reads : SerialReads) : Except OutOfBounds (UInt32 × SerialReads) := do
  let (digits, rest) ← serialDigits 0 reads
  return (serialNumber32 digits, rest)

/-- The lines that begin with `c`. -/
def consoleIrrigation (reads : SerialReads) : Except OutOfBounds ConsoleAction :=
  match serialChar reads with
  | (some 'a', rest) =>
      let (program, rest) := serialDigit rest
      let (isCleaning, _) := serialDigit rest
      .ok (.send [83, program.toUInt8, isCleaning.toUInt8])
  | (some 's', _) => .ok (.send [84])
  | (some 'r', _) => .ok (.send [92])
  | (some 'v', rest) => do
      let (volume, _) ← serialNumberRead rest
      return .send (85 :: bytes16 volume)
  | (some 't', rest) => do
      let (time, _) ← serialNumberRead rest
      return .send (86 :: bytes16 time)
  | (some 'd', rest) => do
      let (duration, _) ← serialNumberRead32 rest
      return .send (88 :: bytes32 duration)
  | (some 'i', _) => .ok (.send [82])
  | (some 'p', rest) => .ok (.send [91, (serialDigit rest).1.toUInt8])
  | (some 'f', rest) => .ok (.send [93, (serialDigit rest).1.toUInt8])
  | _ => .ok .ignore

/-- `user_input_process_data()`, up to the assignments to the packet. -/
def consoleAction (reads : SerialReads) : Except OutOfBounds ConsoleAction :=
  match serialChar reads with
  | (some 'r', _) => .ok (.send [101])
  | (some 'd', rest) => do
      let (index, rest) ← serialNumberRead rest
      return .send [42, index.toUInt8, (serialDigit rest).1.toUInt8]
  | (some 'p', rest) => .ok (.print (serialDigit rest).1.toUInt8)
  | (some 'i', _) => .ok (.send [211, 10])
  | (some 'c', rest) => consoleIrrigation rest
  | _ => .ok .ignore

namespace Server

/-- The assignments to `internet_packet_body` and `server_udp_send()`. -/
def sendCommand (body : List UInt8) (s : Server) : Except OutOfBounds (Server × List UInt8) := do
  let data ← Memory.storeAll s.packet.data 0 body
  { s with packet.data := data, packet.size := UInt8.ofNat body.length }.serverUdpSend

/-- `user_input_process_data()` on an available line: the state it leaves, the frame it sends, if
any, and what it assigns to `is_print`, if anything. -/
def userInputProcessData (reads : SerialReads) (s : Server) :
    Except OutOfBounds (Server × Option (List UInt8) × Option Flag) := do
  match ← consoleAction reads with
  | .send body => do
      let (sent, frame) ← s.sendCommand body
      return (sent, some frame, none)
  | .print isPrint => return (s, none, some isPrint)
  | .ignore => return (s, none, none)

end Server

/-! ## Reading a numeral -/

/-- A typed digit as the byte that is read. -/
def digitByte (digit : Fin 10) : UInt8 := 48 + UInt8.ofNat digit

/-- A numeral of one to nine digits, the most significant one first. -/
structure Numeral where
  digits : List (Fin 10)
  nonempty : 1 ≤ digits.length
  short : digits.length ≤ 9

/-- The number that the digits denote. -/
def Numeral.value (numeral : Numeral) : Nat :=
  Nat.ofDigits 10 (numeral.digits.reverse.map Fin.val)

/-- What is read when the numeral is typed. -/
def Numeral.reads (numeral : Numeral) : SerialReads :=
  numeral.digits.map fun digit => some (digitByte digit)

/-- The bytes that end a numeral. -/
abbrev Separator (byte : UInt8) : Prop := byte < 48 ∨ 57 < byte

theorem mathPower_ten (exponential : UInt8) :
    mathPower 10 exponential = UInt32.ofNat (10 ^ exponential.toNat) := by
  have repeated (count : Nat) :
      (List.range count).foldl (fun number _ => number * (10 : UInt8).toUInt32)
        (10 : UInt8).toUInt32 = UInt32.ofNat (10 ^ (count + 1)) := by
    induction count with
    | zero => rfl
    | succ count ih =>
        rw [List.range_succ, List.foldl_append, ih, List.foldl_cons, List.foldl_nil,
          pow_succ 10 (count + 1), UInt32.ofNat_mul]
        rfl
  unfold mathPower
  by_cases zero : exponential = 0
  · rw [if_pos zero, zero]
    rfl
  · have positive : exponential.toNat ≠ 0 := fun same => zero (UInt8.toNat_inj.mp same)
    rw [if_neg zero, repeated, Nat.sub_add_cancel (by omega)]

/-- A digit as the reader keeps it. -/
theorem digitByte_sub (digit : Fin 10) :
    (digitByte digit).toUInt16 - 48 = UInt16.ofNat digit.val := by
  revert digit
  decide

theorem not_separator_digitByte (digit : Fin 10) : ¬ Separator (digitByte digit) := by
  revert digit
  decide

/-- The sum from the last digit to the first is the positional value. -/
theorem serialNumber32_eq (digits : List (Fin 10)) (short : digits.length ≤ 9) :
    serialNumber32 (digits.map fun digit => UInt16.ofNat digit.val) =
      UInt32.ofNat (Nat.ofDigits 10 (digits.reverse.map Fin.val)) := by
  have summed : ∀ (places : List (Fin 10)) (place : Nat) (number : UInt32),
      place + places.length ≤ 9 →
      ((places.map fun digit => UInt16.ofNat digit.val).zipIdx place).foldl (fun number digit =>
        number + digit.1.toUInt32 * mathPower 10 (UInt8.ofNat digit.2)) number =
      number + UInt32.ofNat (10 ^ place * Nat.ofDigits 10 (places.map Fin.val)) := by
    intro places
    induction places with
    | nil =>
        intro place number _
        simp
    | cons digit rest ih =>
        intro place number few
        rw [List.length_cons] at few
        have exponent : (UInt8.ofNat place).toNat = place := by
          rw [UInt8.toNat_ofNat']
          exact Nat.mod_eq_of_lt (by omega)
        have word : (UInt16.ofNat digit.val).toUInt32 = UInt32.ofNat digit.val := by
          revert digit
          decide
        rw [List.map_cons, List.zipIdx_cons, List.foldl_cons, ih (place + 1) _ (by omega),
          mathPower_ten, exponent, word, List.map_cons, Nat.ofDigits_cons, ← UInt32.ofNat_mul,
          UInt32.add_assoc, ← UInt32.ofNat_add]
        congr 2
        ring
  unfold serialNumber32
  rw [← List.map_reverse, summed digits.reverse 0 0 (by simpa using short)]
  simp

/-- The 16-bit sum is the 32-bit sum, narrowed. -/
theorem serialNumber_eq (digits : List UInt16) :
    serialNumber digits = (serialNumber32 digits).toUInt16 := by
  have narrowed : ∀ (places : List (UInt16 × Nat)) (number : UInt32),
      places.foldl (fun number digit =>
        (number.toUInt32 + digit.1.toUInt32 * mathPower 10 (UInt8.ofNat digit.2)).toUInt16)
        number.toUInt16 =
      (places.foldl (fun number digit =>
        number + digit.1.toUInt32 * mathPower 10 (UInt8.ofNat digit.2)) number).toUInt16 := by
    intro places
    induction places with
    | nil => exact fun _ => rfl
    | cons digit rest ih =>
        intro number
        rw [List.foldl_cons, List.foldl_cons, ← ih]
        congr 1
        rw [UInt32.toUInt16_add, UInt16.toUInt16_toUInt32, ← UInt32.toUInt16_add]
  exact narrowed digits.reverse.zipIdx 0

/-- The reader takes a numeral and the byte that ends it. -/
theorem serialDigits_numeral (digits : List (Fin 10)) {separator : UInt8}
    (ends : Separator separator) (rest : SerialReads) {counter : Nat}
    (room : counter + digits.length < 10) :
    serialDigits counter
        (digits.map (fun digit => some (digitByte digit)) ++ some separator :: rest) =
      .ok (digits.map fun digit => UInt16.ofNat digit.val, rest) := by
  induction digits generalizing counter with
  | nil =>
      rw [List.length_nil] at room
      rw [List.map_nil, List.nil_append, serialDigits, Memory.element_inside (by omega)]
      simp only [bind, Except.bind]
      rw [if_pos ends]
      rfl
  | cons digit digits ih =>
      rw [List.length_cons] at room
      rw [List.map_cons, List.cons_append, serialDigits, Memory.element_inside (by omega)]
      simp only [bind, Except.bind]
      rw [if_neg (not_separator_digitByte digit), ih (by omega), digitByte_sub]
      rfl

section

variable (numeral : Numeral) {separator : UInt8} (ends : Separator separator) (rest : SerialReads)
include ends

/-- A typed numeral is read as its value. -/
theorem serialNumberRead32_numeral :
    serialNumberRead32 (numeral.reads ++ some separator :: rest) =
      .ok (UInt32.ofNat numeral.value, rest) := by
  have room : 0 + numeral.digits.length < 10 := by
    have short := numeral.short
    omega
  unfold serialNumberRead32
  rw [Numeral.reads, serialDigits_numeral numeral.digits ends rest room]
  simp only [bind, Except.bind, serialNumber32_eq numeral.digits numeral.short]
  rfl

/-- Sixteen bits keep its value modulo 65536. -/
theorem serialNumberRead_numeral :
    serialNumberRead (numeral.reads ++ some separator :: rest) =
      .ok (UInt16.ofNat numeral.value, rest) := by
  have room : 0 + numeral.digits.length < 10 := by
    have short := numeral.short
    omega
  unfold serialNumberRead
  rw [Numeral.reads, serialDigits_numeral numeral.digits ends rest room]
  simp only [bind, Except.bind, serialNumber_eq, serialNumber32_eq numeral.digits numeral.short]
  rw [UInt32.toUInt16_ofNat']
  rfl

end

/-- Nine digits fit 32 bits. -/
theorem Numeral.value_lt (numeral : Numeral) : numeral.value < UInt32.size := by
  have bound : Nat.ofDigits 10 (numeral.digits.reverse.map Fin.val) <
      10 ^ (numeral.digits.reverse.map Fin.val).length := by
    apply Nat.ofDigits_lt_base_pow_length (by decide)
    intro digit listed
    obtain ⟨_, -, rfl⟩ := List.mem_map.mp listed
    exact Fin.isLt _
  have power : 10 ^ (numeral.digits.reverse.map Fin.val).length ≤ 10 ^ 9 := by
    apply Nat.pow_le_pow_right (by decide)
    simpa using numeral.short
  have size : 10 ^ 9 < UInt32.size := by decide
  exact Nat.lt_of_lt_of_le bound power |>.trans size

end BlueberryIrrigation
