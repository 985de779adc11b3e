import BlueberryIrrigation.Server.UserInput

/-!
# The decimal readers

`serial_number_read` on both sides and `serial_number_read_32` keep every digit, and what ends
the number too, in `c`, which has ten entries. Nine digits and their end fill it.
-/

namespace BlueberryIrrigation

open Semantics

/-- A number as it is typed: decimal digits, and a read that is none. -/
structure DecimalInput where
  digits : List (Fin 10)
  terminator : Option UInt8
  ends : ∀ byte ∈ terminator, Separator byte

namespace DecimalInput

/-- A number that a byte ends. -/
def typed (digits : List (Fin 10)) (separator : UInt8) (ends : Separator separator) :
    DecimalInput where
  digits := digits
  terminator := some separator
  ends := by
    rintro byte ⟨⟩
    exact ends

/-- The number that the digits denote. -/
def value (input : DecimalInput) : Nat := Nat.ofDigits 10 (input.digits.reverse.map Fin.val)

/-- The reads, with what is typed behind them. -/
def reads (input : DecimalInput) (rest : SerialReads) : SerialReads :=
  input.digits.map (fun digit => some (digitByte digit)) ++ input.terminator :: rest

end DecimalInput

/-- The terminator is kept as well, when there is room for it. -/
theorem serialDigits_terminator {terminator : Option UInt8}
    (ends : ∀ byte ∈ terminator, Separator byte) (rest : SerialReads) {counter : Nat}
    (room : counter < 10) : serialDigits counter (terminator :: rest) = .ok ([], rest) := by
  cases terminator with
  | none =>
      rw [serialDigits, Memory.element_inside room]
      rfl
  | some byte =>
      rw [serialDigits, Memory.element_inside room]
      simp only [bind, Except.bind]
      rw [if_pos (ends byte rfl)]
      rfl

/-- One more digit. -/
theorem serialDigits_digit (digit : Fin 10) (rest : SerialReads) {counter : Nat}
    (room : counter < 10) :
    serialDigits counter (some (digitByte digit) :: rest) =
      (serialDigits (counter + 1) rest).map fun read =>
        (UInt16.ofNat digit.val :: read.1, read.2) := by
  rw [serialDigits, Memory.element_inside room]
  simp only [bind, Except.bind]
  rw [if_neg (not_separator_digitByte digit), digitByte_sub]
  cases serialDigits (counter + 1) rest <;> rfl

/-- With room for all digits and the terminator, exactly these are read. -/
theorem serialDigits_fits (digits : List (Fin 10)) {terminator : Option UInt8}
    (ends : ∀ byte ∈ terminator, Separator byte) (rest : SerialReads) {counter : Nat}
    (room : counter + digits.length < 10) :
    serialDigits counter
        (digits.map (fun digit => some (digitByte digit)) ++ terminator :: rest) =
      .ok (digits.map fun digit => UInt16.ofNat digit.val, rest) := by
  induction digits generalizing counter with
  | nil => exact serialDigits_terminator ends rest room
  | cons digit digits ih =>
      rw [List.length_cons] at room
      rw [List.map_cons, List.cons_append, serialDigits_digit digit _ (by omega), ih (by omega)]
      rfl

/-- Without it, the read that has no room is stored behind the array. -/
theorem serialDigits_overflows (digits : List (Fin 10)) (terminator : Option UInt8)
    (rest : SerialReads) {counter : Nat} (inside : counter ≤ 10)
    (full : 10 ≤ counter + digits.length) :
    serialDigits counter
        (digits.map (fun digit => some (digitByte digit)) ++ terminator :: rest) =
      .error ⟨10, 10⟩ := by
  induction digits generalizing counter with
  | nil =>
      rw [List.length_nil] at full
      obtain rfl : counter = 10 := by omega
      rfl
  | cons digit digits ih =>
      rw [List.length_cons] at full
      by_cases room : counter < 10
      · rw [List.map_cons, List.cons_append, serialDigits_digit digit _ room, ih room (by omega)]
        rfl
      · obtain rfl : counter = 10 := by omega
        rfl

/-- The readers take the digits and the terminator, stay inside `c` and return the value modulo
their width, exactly for up to nine digits. -/
theorem decimal_reader (input : DecimalInput) (rest : SerialReads) :
    (serialNumberRead (input.reads rest) = .ok (UInt16.ofNat input.value, rest) ∧
        serialNumberRead32 (input.reads rest) = .ok (UInt32.ofNat input.value, rest)) ↔
      input.digits.length ≤ 9 := by
  unfold serialNumberRead serialNumberRead32 DecimalInput.reads
  constructor
  · rintro ⟨read, -⟩
    by_contra long
    rw [serialDigits_overflows input.digits input.terminator rest (Nat.zero_le 10) (by omega)]
      at read
    nomatch read
  · intro short
    rw [serialDigits_fits input.digits input.ends rest (by omega)]
    simp only [bind, Except.bind, serialNumber_eq, serialNumber32_eq input.digits short]
    rw [UInt32.toUInt16_ofNat']
    exact ⟨rfl, rfl⟩

/-- The greatest 32-bit number and a line feed: the line feed is stored behind the array. -/
theorem decimal_reader_overflow :
    let input : DecimalInput := .typed [4, 2, 9, 4, 9, 6, 7, 2, 9, 5] 10 (by decide)
    input.value = 2 ^ 32 - 1 ∧
      ¬ (serialNumberRead (input.reads []) = .ok (UInt16.ofNat input.value, []) ∧
        serialNumberRead32 (input.reads []) = .ok (UInt32.ofNat input.value, [])) ∧
      serialNumberRead32 (input.reads []) = .error ⟨10, 10⟩ := by
  refine ⟨by decide, fun read => ?_, rfl⟩
  nomatch read.1

end BlueberryIrrigation
