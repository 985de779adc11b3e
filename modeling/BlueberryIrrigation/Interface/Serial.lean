import BlueberryIrrigation.Interface.Dispatch

/-!
# The serial interface (`interface_serial.cpp`)

`user_input` reads one command line character by character and runs it. All its reads come
before the operation, so it is two functions here: `userInput` reads the line, `performSerial`
does what it says. `flow_print` keeps its interval; its line goes to `debug_log`.
-/

namespace BlueberryIrrigation

open Semantics

/-- What consecutive calls of `Serial.read()` return, where none is -1. -/
abbrev SerialReads := List (Option UInt8)

/-- The operations of `user_input`, with the operands as they are assigned. -/
inductive SerialCommand where
  | ping
  | reset
  | deviceToggle (index isActive : UInt16)
  | pulsesTotalSet (index pulses : UInt16)
  | pulsesPerLiterSet (index pulses : UInt16)
  | print (isPrint : UInt16)
  | pulsesTotalAdd (index pulses : UInt16)
  | flowStart (index volume time : UInt16)
  | flowStop (index : UInt16)
  | flowPause (index isPause : UInt16)
  | start (program isCleaning : UInt16)
  | forceStop
  | resume
  | restartHard
  | restartSoft
  | ipRemoteUpdate
  | send (bytes : List UInt8)
deriving DecidableEq, Repr

/-! ## Reading -/

/-- `Serial.read()` -/
def serialRead : SerialReads → Option UInt8 × SerialReads
  | [] => (none, [])
  | read :: rest => (read, rest)

/-- `Serial.read()` as a `switch` compares it with its characters. -/
def serialChar (reads : SerialReads) : Option Char × SerialReads :=
  ((serialRead reads).1.map fun byte => Char.ofNat byte.toNat, (serialRead reads).2)

/-- `Serial.read()`, assigned to a `uint16_t`. -/
def serialCode (reads : SerialReads) : UInt16 × SerialReads :=
  ((serialRead reads).1.elim 65535 UInt8.toUInt16, (serialRead reads).2)

/-- `Serial.read() - 48`, assigned to a `uint16_t`. -/
def serialDigit (reads : SerialReads) : UInt16 × SerialReads :=
  ((serialCode reads).1 - 48, (serialCode reads).2)

/-- The first loop of `serial_number_read`: the digits it leaves in `c`. -/
def serialDigits (counter : Nat) : SerialReads → Except OutOfBounds (List UInt16 × SerialReads)
  | [] => do
      let _ ← Memory.element 10 counter
      return ([], [])
  | read :: rest => do
      -- What is read goes into `c` before it is compared, the terminator too.
      let _ ← Memory.element 10 counter
      match read with
      | none => return ([], rest)
      | some byte =>
          if byte < 48 ∨ 57 < byte then return ([], rest)
          else do
            let (digits, left) ← serialDigits (counter + 1) rest
            return ((byte.toUInt16 - 48) :: digits, left)

/-- `math_power(base, exponential)` -/
def mathPower (base exponential : UInt8) : UInt32 :=
  if exponential = 0 then 1
  else (List.range (exponential.toNat - 1)).foldl (fun number _ => number * base.toUInt32)
    base.toUInt32

/-- The second loop of `serial_number_read`, from the last digit to the first. -/
def serialNumber (digits : List UInt16) : UInt16 :=
  digits.reverse.zipIdx.foldl (fun number digit =>
    (number.toUInt32 + digit.1.toUInt32 * mathPower 10 (UInt8.ofNat digit.2)).toUInt16) 0

/-- `serial_number_read()` -/
def serialNumberRead (reads : SerialReads) : Except OutOfBounds (UInt16 × SerialReads) := do
  let (digits, rest) ← serialDigits 0 reads
  return (serialNumber digits, rest)

/-- The lines that begin with `f`. -/
def userInputFlow (reads : SerialReads) : Except OutOfBounds (Option SerialCommand) :=
  match serialChar reads with
  | (some 'r', rest) => do
      -- The one index that is not reduced by 48.
      let (index, rest) := serialCode rest
      let (pulses, _) ← serialNumberRead rest
      return some (.pulsesTotalSet index pulses)
  | (some 's', rest) => do
      let (index, rest) := serialDigit rest
      let (pulses, _) ← serialNumberRead rest
      return some (.pulsesPerLiterSet index pulses)
  | (some 'p', rest) => .ok (some (.print (serialDigit rest).1))
  | (some 'a', rest) => do
      let (index, rest) := serialDigit rest
      let (pulses, _) ← serialNumberRead rest
      return some (.pulsesTotalAdd index pulses)
  | _ => .ok none

/-- The lines that begin with `cf`. -/
def userInputControlFlow (reads : SerialReads) : Except OutOfBounds (Option SerialCommand) :=
  match serialChar reads with
  | (some 'a', rest) => do
      let (index, rest) := serialDigit rest
      let (volume, rest) ← serialNumberRead rest
      let (time, _) ← serialNumberRead rest
      return some (.flowStart index volume time)
  | (some 's', rest) => .ok (some (.flowStop (serialDigit rest).1))
  | (some 'p', rest) =>
      -- `bb = aa = Serial.read() - 48` overwrites the index that was read first.
      let (_, rest) := serialDigit rest
      let (flag, _) := serialDigit rest
      .ok (some (.flowPause flag flag))
  | _ => .ok none

/-- The lines that begin with `ca`. -/
def userInputIrrigation (reads : SerialReads) : Option SerialCommand :=
  match serialChar reads with
  | (some 'a', rest) =>
      let (program, rest) := serialDigit rest
      let (isCleaning, _) := serialDigit rest
      some (.start program isCleaning)
  | (some 's', _) => some .forceStop
  | (some 'r', _) => some .resume
  | _ => none

/-- The lines that begin with `i`. -/
def userInputInternet (reads : SerialReads) : Option SerialCommand :=
  match serialChar reads with
  | (some 'r', _) => some .restartHard
  | (some 'b', _) => some .restartSoft
  | (some 'p', _) => some .ipRemoteUpdate
  | (some 'o', rest) => some (.send [(serialDigit rest).1.toUInt8])
  | (some 't', rest) =>
      let (first, rest) := serialDigit rest
      let (second, _) := serialDigit rest
      some (.send [first.toUInt8, second.toUInt8])
  | _ => none

/-- `user_input()`, up to the operation. -/
def userInput (reads : SerialReads) : Except OutOfBounds (Option SerialCommand) :=
  match serialChar reads with
  | (some 'p', _) => .ok (some .ping)
  | (some 'r', _) => .ok (some .reset)
  | (some 'd', rest) => do
      let (index, rest) ← serialNumberRead rest
      return some (.deviceToggle index (serialDigit rest).1)
  | (some 'f', rest) => userInputFlow rest
  | (some 'c', rest) =>
      match serialChar rest with
      | (some 'f', rest) => userInputControlFlow rest
      | (some 'a', rest) => .ok (userInputIrrigation rest)
      | _ => .ok none
  | (some 'i', rest) => .ok (userInputInternet rest)
  | _ => .ok none

/-! ## Running -/

/-- What one call of `interface_serial_update` finds. -/
structure SerialInput where
  /-- `Serial.available()` -/
  isAvailable : Bool
  reads : SerialReads
  answers : ChipAnswers

/-- `TIME_LOOP_INTERVAL` -/
def timeLoopInterval : UInt32 := 2000

namespace System

/-- `flow_print()` -/
def flowPrint (now : Nat) (s : System) : System :=
  if millis now - s.interfaceSerial.timePrintLast < timeLoopInterval then s
  else { s with interfaceSerial.timePrintLast := millis now }

theorem flowPrint_network (now : Nat) (s : System) : (s.flowPrint now).network = s.network := by
  unfold flowPrint
  split <;> rfl

theorem flowPrint_controller (now : Nat) (s : System) :
    (s.flowPrint now).controller = s.controller := by
  unfold flowPrint
  split <;> rfl

variable [FlowArithmetic]

/-- The operation of a command line. -/
def performSerial (now : Nat) (answers : ChipAnswers) (s : System) :
    SerialCommand → Except OutOfBounds System
  | .ping => do
      let n ← s.network.sendBody answers.isSent
        [internetCommandPing, internetCommandPingValueRequest]
      return { s with network := n }
  | .reset => .ok { s with pinReset := 0 }
  | .deviceToggle index isActive => do
      let device ← Memory.element 15 index.toNat
      return s.operate now (.deviceToggle device isActive.toUInt8)
  | .pulsesTotalSet index pulses => do
      let sensor ← Memory.element 5 index.toNat
      return s.operate now (.pulsesTotalSet sensor pulses.toUInt32)
  | .pulsesPerLiterSet index pulses => do
      let sensor ← Memory.element 5 index.toNat
      return s.operate now (.assign (.pulsesPerLiter sensor pulses))
  | .print isPrint => .ok { s with interfaceSerial.isPrint := isPrint.toUInt8 }
  | .pulsesTotalAdd index pulses => do
      let sensor ← Memory.element 5 index.toNat
      let total := (s.controller.sensorFlowArray sensor).pulsesTotal
      return s.operate now (.pulsesTotalSet sensor (total + pulses.toUInt32))
  | .flowStart index volume time => do
      let flow ← Memory.element 6 index.toNat
      return s.operate now (.flowStart flow volume time)
  | .flowStop index => do
      let flow ← Memory.element 6 index.toNat
      return s.operate now (.flowStop flow)
  | .flowPause index isPause => do
      let flow ← Memory.element 6 index.toNat
      return s.operate now (.flowPause flow isPause.toUInt8)
  | .start program isCleaning =>
      .ok (s.operate now (.start (Program.ofNumber program.toNat) isCleaning.toUInt8))
  | .forceStop => .ok (s.operate now .forceStop)
  | .resume => .ok (s.operate now .resume)
  | .restartHard => .ok { s with network := s.network.internetRestartHard now }
  | .restartSoft => .ok { s with network := s.network.internetRestartSoft now answers }
  | .ipRemoteUpdate =>
      .ok { s with network := (s.network.internetIpRemoteUpdate answers.resolved).1 }
  | .send bytes => do
      let n ← s.network.sendBody answers.isSent bytes
      return { s with network := n }

/-- `user_input()` -/
def runUserInput (now : Nat) (input : SerialInput) (s : System) : Except OutOfBounds System :=
  if input.isAvailable = false then .ok s
  else do
    match ← userInput input.reads with
    | none => return s
    | some command => s.performSerial now input.answers command

/-- `interface_serial_update()` -/
def interfaceSerialUpdate (now : Nat) (input : SerialInput) (s : System) :
    Except OutOfBounds System := do
  let s ← s.runUserInput now input
  return if s.interfaceSerial.isPrint ≠ 0 then s.flowPrint now else s

/-- What holds before, after each command line and after a print holds after the call. -/
theorem interfaceSerialUpdate_allows {now : Nat} {input : SerialInput} {s : System}
    {property : System → Prop} (before : property s)
    (performed : ∀ command, Memory.Allows (s.performSerial now input.answers command) property)
    (printed : ∀ after, property after → property (after.flowPrint now)) :
    Memory.Allows (s.interfaceSerialUpdate now input) property := by
  have ran : Memory.Allows (s.runUserInput now input) property := by
    unfold runUserInput
    rw [Memory.allows_ite, Memory.allows_bind]
    refine ⟨fun _ => (Memory.allows_ok _).mpr before, fun _ command _ => ?_⟩
    cases command with
    | none => exact (Memory.allows_pure _).mpr before
    | some command => exact performed command
  unfold interfaceSerialUpdate
  rw [Memory.allows_bind]
  refine ran.mono fun after held => (Memory.allows_pure _).mpr ?_
  split
  · exact printed after held
  · exact held

end System
end BlueberryIrrigation
