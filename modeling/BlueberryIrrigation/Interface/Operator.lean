import BlueberryIrrigation.Interface.Decimal
import BlueberryIrrigation.Server.Commands

/-!
# The operator's lines at the Arduino

The lines of `user_input` that name a device, a sensor, a flow or a program, as they are typed,
and the operation that each of them names. Two of the lines act on something else.
-/

namespace BlueberryIrrigation

open Semantics

/-- A numeral and the byte behind it. -/
structure Operand where
  numeral : Numeral
  separator : UInt8
  ends : Separator separator

namespace Operand

def reads (operand : Operand) (rest : SerialReads) : SerialReads :=
  operand.numeral.reads ++ some operand.separator :: rest

/-- The typed value modulo 65536. -/
def word (operand : Operand) : UInt16 := UInt16.ofNat operand.numeral.value

end Operand

/-- A typed figure. -/
def figure (number : Nat) : Option UInt8 := some (48 + UInt8.ofNat number)

/-- A line with an existing index and its operands. -/
inductive TypedLine where
  | deviceToggle (device : Operand) (existing : device.numeral.value < 15) (isActive : Fin 2)
  | pulsesTotalSet (sensor : Fin 5) (pulses : Operand)
  | pulsesPerLiterSet (sensor : Fin 5) (pulses : Operand)
  | pulsesTotalAdd (sensor : Fin 5) (pulses : Operand)
  | flowStart (flow : Fin 6) (volume time : Operand)
  | flowStop (flow : Fin 6)
  | flowPause (flow : Fin 6) (isPause : Fin 2)
  | start (program : Fin 5) (isCleaning : Fin 2)

namespace TypedLine

/-- `d`, `fr`, `fs`, `fa`, `cfa`, `cfs`, `cfp` and `caa` as they are typed. -/
def reads (rest : SerialReads) : TypedLine → SerialReads
  | .deviceToggle device _ isActive => letter 'd' :: device.reads (figure isActive :: rest)
  | .pulsesTotalSet sensor pulses => letter 'f' :: letter 'r' :: figure sensor :: pulses.reads rest
  | .pulsesPerLiterSet sensor pulses =>
      letter 'f' :: letter 's' :: figure sensor :: pulses.reads rest
  | .pulsesTotalAdd sensor pulses => letter 'f' :: letter 'a' :: figure sensor :: pulses.reads rest
  | .flowStart flow volume time =>
      letter 'c' :: letter 'f' :: letter 'a' :: figure flow :: volume.reads (time.reads rest)
  | .flowStop flow => letter 'c' :: letter 'f' :: letter 's' :: figure flow :: rest
  | .flowPause flow isPause =>
      letter 'c' :: letter 'f' :: letter 'p' :: figure flow :: figure isPause :: rest
  | .start program isCleaning =>
      letter 'c' :: letter 'a' :: letter 'a' :: figure program :: figure isCleaning :: rest

/-- The operation that a line names, on the typed index and with the typed operands. -/
def operation (s : Controller) : TypedLine → Operation
  | .deviceToggle device existing isActive =>
      .deviceToggle ⟨device.numeral.value, existing⟩ (UInt8.ofNat isActive)
  | .pulsesTotalSet sensor pulses => .pulsesTotalSet sensor pulses.word.toUInt32
  | .pulsesPerLiterSet sensor pulses => .assign (.pulsesPerLiter sensor pulses.word)
  | .pulsesTotalAdd sensor pulses =>
      .pulsesTotalSet sensor ((s.sensorFlowArray sensor).pulsesTotal + pulses.word.toUInt32)
  | .flowStart flow volume time => .flowStart flow volume.word time.word
  | .flowStop flow => .flowStop flow
  | .flowPause flow isPause => .flowPause flow (UInt8.ofNat isPause)
  | .start program isCleaning => .start (.ofNumber program) (UInt8.ofNat isCleaning)

/-- What `user_input` makes of a line: `fr` keeps the character of its index, and `cfp` takes
its flag for the index. -/
def command : TypedLine → SerialCommand
  | .deviceToggle device _ isActive =>
      .deviceToggle device.word (UInt16.ofNat isActive)
  | .pulsesTotalSet sensor pulses => .pulsesTotalSet (UInt16.ofNat (48 + sensor)) pulses.word
  | .pulsesPerLiterSet sensor pulses => .pulsesPerLiterSet (UInt16.ofNat sensor) pulses.word
  | .pulsesTotalAdd sensor pulses => .pulsesTotalAdd (UInt16.ofNat sensor) pulses.word
  | .flowStart flow volume time => .flowStart (UInt16.ofNat flow) volume.word time.word
  | .flowStop flow => .flowStop (UInt16.ofNat flow)
  | .flowPause _ isPause => .flowPause (UInt16.ofNat isPause) (UInt16.ofNat isPause)
  | .start program isCleaning => .start (UInt16.ofNat program) (UInt16.ofNat isCleaning)

/-- No `fr` line, and a `cfp` line whose index is its flag. -/
def Routed : TypedLine → Prop
  | .pulsesTotalSet _ _ => False
  | .flowPause flow isPause => flow.val = isPause.val
  | _ => True

end TypedLine

/-- A chip that answers nothing. -/
def noAnswers : ChipAnswers where
  ethernetBegins := false
  udpBegins := false
  resolved := none
  isSent := false
  arrived := none
  later := 0

/-- A memory in which every flow is paused, with a flag that no line can type. -/
def pausedSystem : System :=
  { System.setup 0 noAnswers with
    controller := { boot with
      controlFlowArray := fun flow => { boot.controlFlowArray flow with isPause := 2 } } }

/-! ## Reading the line -/

/-- A figure is read as its number. -/
theorem serialDigit_figure {number : Nat} (single : number < 10) (rest : SerialReads) :
    serialDigit (figure number :: rest) = (UInt16.ofNat number, rest) := by
  have read := digitByte_sub ⟨number, single⟩
  exact congrArg (·, rest) read

/-- Without the reduction by 48 it is read as its character. -/
theorem serialCode_figure {number : Nat} (single : number < 10) (rest : SerialReads) :
    serialCode (figure number :: rest) = (UInt16.ofNat (48 + number), rest) := by
  have read : ∀ digit : Fin 10, (digitByte digit).toUInt16 = UInt16.ofNat (48 + digit.val) := by
    decide
  exact congrArg (·, rest) (read ⟨number, single⟩)

/-- An operand is read as its value. -/
theorem serialNumberRead_operand (operand : Operand) (rest : SerialReads) :
    serialNumberRead (operand.reads rest) = .ok (operand.word, rest) :=
  serialNumberRead_numeral operand.numeral operand.ends rest

theorem userInput_line (line : TypedLine) (rest : SerialReads) :
    userInput (line.reads rest) = .ok (some line.command) := by
  cases line with
  | deviceToggle device existing isActive =>
      change (serialNumberRead (device.reads (figure isActive :: rest)) >>= fun read =>
        .ok (some (SerialCommand.deviceToggle read.1 (serialDigit read.2).1))) = _
      rw [serialNumberRead_operand]
      change Except.ok (some (SerialCommand.deviceToggle device.word
        (serialDigit (figure isActive :: rest)).1)) = _
      rw [serialDigit_figure (by omega)]
      rfl
  | pulsesTotalSet sensor pulses =>
      change (serialNumberRead (serialCode (figure sensor :: pulses.reads rest)).2 >>= fun read =>
        .ok (some (SerialCommand.pulsesTotalSet
          (serialCode (figure sensor :: pulses.reads rest)).1 read.1))) = _
      rw [serialCode_figure (by omega), serialNumberRead_operand]
      rfl
  | pulsesPerLiterSet sensor pulses =>
      change (serialNumberRead (serialDigit (figure sensor :: pulses.reads rest)).2 >>= fun read =>
        .ok (some (SerialCommand.pulsesPerLiterSet
          (serialDigit (figure sensor :: pulses.reads rest)).1 read.1))) = _
      rw [serialDigit_figure (by omega), serialNumberRead_operand]
      rfl
  | pulsesTotalAdd sensor pulses =>
      change (serialNumberRead (serialDigit (figure sensor :: pulses.reads rest)).2 >>= fun read =>
        .ok (some (SerialCommand.pulsesTotalAdd
          (serialDigit (figure sensor :: pulses.reads rest)).1 read.1))) = _
      rw [serialDigit_figure (by omega), serialNumberRead_operand]
      rfl
  | flowStart flow volume time =>
      change (serialNumberRead (serialDigit
          (figure flow :: volume.reads (time.reads rest))).2 >>= fun first =>
        serialNumberRead first.2 >>= fun second =>
          .ok (some (SerialCommand.flowStart
            (serialDigit (figure flow :: volume.reads (time.reads rest))).1
            first.1 second.1))) = _
      rw [serialDigit_figure (by omega), serialNumberRead_operand]
      change (serialNumberRead (time.reads rest) >>= fun second =>
        .ok (some (SerialCommand.flowStart (UInt16.ofNat flow) volume.word second.1))) = _
      rw [serialNumberRead_operand]
      rfl
  | flowStop flow =>
      change Except.ok (some (SerialCommand.flowStop
        (serialDigit (figure flow :: rest)).1)) = _
      rw [serialDigit_figure (by omega)]
      rfl
  | flowPause flow isPause =>
      change Except.ok (some (SerialCommand.flowPause (serialDigit (figure isPause :: rest)).1
        (serialDigit (figure isPause :: rest)).1)) = _
      rw [serialDigit_figure (by omega)]
      rfl
  | start program isCleaning =>
      change Except.ok (some (SerialCommand.start
        (serialDigit (figure program :: figure isCleaning :: rest)).1
        (serialDigit (figure isCleaning :: rest)).1)) = _
      rw [serialDigit_figure (by omega), serialDigit_figure (by omega)]
      rfl

/-! ## Running it -/

/-- An index that fits its array is the element that is taken. -/
theorem element_ofNat {length index : Nat} (inside : index < length) (small : index < 65536) :
    Memory.element length (UInt16.ofNat index).toNat = .ok ⟨index, inside⟩ := by
  rw [UInt16.toNat_ofNat', Nat.mod_eq_of_lt small, Memory.element_inside inside]

/-- A pause is written to its own flow alone. -/
theorem Controller.controlFlowPause_isPause (now : Nat) (flow other : Fin 6) (isPause : Flag)
    (s : Controller) :
    ((s.controlFlowPause now flow isPause).controlFlowArray other).isPause =
      if other = flow then isPause else (s.controlFlowArray other).isPause := by
  unfold controlFlowPause
  dsimp only
  by_cases same : other = flow
  · subst same
    split <;> simp [setFlow]
  · split <;> simp [setFlow, same]

section

variable [FlowArithmetic]

/-- An available line runs the operation of its command. -/
theorem System.runUserInput_line (now : Nat) (answers : ChipAnswers) (s : System)
    (line : TypedLine) (rest : SerialReads) :
    s.runUserInput now ⟨true, line.reads rest, answers⟩ =
      s.performSerial now answers line.command := by
  unfold System.runUserInput
  rw [if_neg Bool.true_eq_false.mp, userInput_line]
  rfl

/-- A `cfp` line pauses the flow whose number is the flag. -/
theorem System.performSerial_flowPause (now : Nat) (answers : ChipAnswers) (s : System)
    (flow : Fin 6) (isPause : Fin 2) :
    s.performSerial now answers (TypedLine.flowPause flow isPause).command =
      .ok (s.operate now (.flowPause (isPause.castLE (by decide)) (UInt8.ofNat isPause))) := by
  simp only [TypedLine.command, performSerial]
  rw [element_ofNat (isPause.isLt.trans (by decide)) (by omega), UInt16.toUInt8_ofNat']
  rfl

/-- An `fr` line looks for a sensor behind the array. -/
theorem System.performSerial_pulsesTotalSet (now : Nat) (answers : ChipAnswers) (s : System)
    (sensor : Fin 5) (pulses : Operand) :
    s.performSerial now answers (TypedLine.pulsesTotalSet sensor pulses).command =
      .error ⟨5, 48 + sensor⟩ := by
  have index : (UInt16.ofNat (48 + sensor)).toNat = 48 + sensor.val := by
    rw [UInt16.toNat_ofNat']
    exact Nat.mod_eq_of_lt (by omega)
  simp only [TypedLine.command, performSerial]
  rw [index, Memory.element_outside (by omega)]
  rfl

/-- A line that is routed right runs the operation that it names. -/
theorem System.performSerial_routed (now : Nat) (answers : ChipAnswers) (s : System)
    {line : TypedLine} (routed : line.Routed) :
    s.performSerial now answers line.command =
      .ok (s.operate now (line.operation s.controller)) := by
  have flag (isActive : Fin 2) :
      (UInt16.ofNat isActive).toUInt8 = UInt8.ofNat isActive := UInt16.toUInt8_ofNat' _
  cases line with
  | deviceToggle device existing isActive =>
      simp only [TypedLine.command, performSerial, Operand.word]
      rw [element_ofNat existing (by omega), flag]
      rfl
  | pulsesTotalSet sensor pulses => exact routed.elim
  | pulsesPerLiterSet sensor pulses | pulsesTotalAdd sensor pulses =>
      simp only [TypedLine.command, performSerial]
      rw [element_ofNat sensor.isLt (by omega)]
      rfl
  | flowStart flow volume time | flowStop flow =>
      simp only [TypedLine.command, performSerial]
      rw [element_ofNat flow.isLt (by omega)]
      rfl
  | flowPause flow isPause =>
      have same : isPause.castLE (by decide) = flow := Fin.ext (Eq.symm routed)
      rw [performSerial_flowPause, same]
      rfl
  | start program isCleaning =>
      have number : (UInt16.ofNat program).toNat = program.val := by
        rw [UInt16.toNat_ofNat']
        exact Nat.mod_eq_of_lt (by omega)
      simp only [TypedLine.command, performSerial]
      rw [flag, number]
      rfl

/-- Serial operator commands act on what was typed, except `fr`, whose index keeps its character,
and `cfp` of a flow that is not its flag. -/
theorem line_acts_as_typed (line : TypedLine) (rest : SerialReads) :
    (∀ now answers (s : System), s.runUserInput now ⟨true, line.reads rest, answers⟩ =
        .ok (s.operate now (line.operation s.controller))) ↔
      line.Routed := by
  simp only [System.runUserInput_line]
  constructor
  · intro acts
    cases line with
    | pulsesTotalSet sensor pulses =>
        have acted := acts 0 noAnswers (.setup 0 noAnswers)
        rw [System.performSerial_pulsesTotalSet] at acted
        nomatch acted
    | flowPause flow isPause =>
        by_contra elsewhere
        have other : flow ≠ isPause.castLE (by decide) :=
          fun same => elsewhere (congrArg Fin.val same)
        have acted := acts 0 noAnswers pausedSystem
        rw [System.performSerial_flowPause] at acted
        have paused := congrArg
          (fun s : System => (s.controller.controlFlowArray flow).isPause) (Except.ok.inj acted)
        change ((pausedSystem.controller.controlFlowPause 0 _ _).controlFlowArray flow).isPause =
          ((pausedSystem.controller.controlFlowPause 0 flow _).controlFlowArray flow).isPause
          at paused
        rw [Controller.controlFlowPause_isPause, Controller.controlFlowPause_isPause,
          if_neg other, if_pos rfl] at paused
        have untyped : ∀ flag : Fin 2, (2 : Flag) ≠ UInt8.ofNat flag := by decide
        exact untyped isPause paused
    | _ => trivial
  · exact fun routed now answers s => s.performSerial_routed now answers routed

end

/-- `fr0`, with five pulses: the sensor is looked for at 48. `cfp31`: flow 1 is paused instead of
flow 3. -/
theorem line_acts_as_typed_misrouted :
    let reset : TypedLine := .pulsesTotalSet 0 ⟨⟨[5], by decide, by decide⟩, 10, by decide⟩
    let pause : TypedLine := .flowPause 3 1
    reset.reads [] = [some 102, some 114, some 48, some 53, some 10] ∧
      pause.reads [] = [some 99, some 102, some 112, some 51, some 49] ∧
      (∀ now answers (s : System),
        s.runUserInput now ⟨true, reset.reads [], answers⟩ = .error ⟨5, 48⟩) ∧
      (∀ now answers (s : System), s.runUserInput now ⟨true, pause.reads [], answers⟩ =
        .ok (s.operate now (.flowPause 1 1))) ∧
      ¬ (∀ line rest now answers (s : System),
        s.runUserInput now ⟨true, TypedLine.reads rest line, answers⟩ =
          .ok (s.operate now (line.operation s.controller))) := by
  intro reset pause
  have failed (now : Nat) (answers : ChipAnswers) (s : System) :
      s.runUserInput now ⟨true, reset.reads [], answers⟩ = .error ⟨5, 48⟩ :=
    (s.runUserInput_line now answers reset []).trans
      (s.performSerial_pulsesTotalSet now answers 0 _)
  refine ⟨rfl, rfl, failed, fun now answers s => ?_, fun acts => ?_⟩
  · exact (s.runUserInput_line now answers pause []).trans
      (s.performSerial_flowPause now answers 3 1)
  · have acted := (failed 0 noAnswers (.setup 0 noAnswers)).symm.trans
      (acts reset [] 0 noAnswers (.setup 0 noAnswers))
    nomatch acted

end BlueberryIrrigation
