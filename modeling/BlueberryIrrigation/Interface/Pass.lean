import BlueberryIrrigation.Interface.Drives

/-!
# One iteration of the loop, as the controller sees it

Of an iteration of `loop()` the controller sees its five periodic calls, the interrupts between
them, and at most one operation from each interface. `Controller.pass` is that function, and
`loop_pass` says that an iteration is nothing else: the network enters only through the command
that `Network.command` finds in its packet.
-/

namespace BlueberryIrrigation

open Semantics

/-! ## Commands as operations -/

/-- The operation that a case runs with the operands in the packet. -/
def Command.operation (data : Fin bodyDataSize → UInt8) : Command → Option Operation
  | .controlSafetyReset | .isSendInfo | .infoAll | .ping => none
  | .deviceToggle =>
      (Memory.element 15 (data 1).toNat).toOption.map fun device => .deviceToggle device (data 2)
  | .deviceTimeSwitchMinimum =>
      (Memory.element 15 (data 1).toNat).toOption.map fun device =>
        .assign (.timeSwitchMinimum device (data 2))
  | .sensorFlowPulsesPerLiter =>
      (Memory.element 5 (data 1).toNat).toOption.map fun sensor =>
        .assign (.pulsesPerLiter sensor (word16 (data 2) (data 3)))
  | .isFaultyDetectionActive => some (.faultyDetectionToggle (data 1))
  | .start => some (.start (Program.ofNumber (data 1).toNat) (data 2))
  | .stop => some .forceStop
  | .resume => some .resume
  | .deliverVolume => some (.assign (.deliverVolume (word16 (data 1) (data 2))))
  | .deliverTime => some (.assign (.deliverTime (word16 (data 1) (data 2))))
  | .generatorWaitTime =>
      some (.assign (.generatorWait (word32 (data 1) (data 2) (data 3) (data 4))))
  | .programDuration =>
      some (.assign (.programDuration (word32 (data 1) (data 2) (data 3) (data 4))))
  | .cleaningGroup3Duration =>
      some (.assign (.cleaningGroup3Duration (word32 (data 1) (data 2) (data 3) (data 4))))
  | .cleaningGroup12Duration =>
      some (.assign (.cleaningGroup12Duration (word32 (data 1) (data 2) (data 3) (data 4))))

/-- The operation that the packet waiting in the network asks for. -/
def Network.command (n : Network) : Option Operation :=
  if n.isReceiveWait = 0 then none
  else
    (Command.ofByte (n.packet.data 0)).bind fun command =>
      if 1 + command.operands = n.packet.size then command.operation n.packet.data else none

/-- The operation of a command line. -/
def SerialCommand.operation (s : Controller) : SerialCommand → Option Operation
  | .ping | .reset | .print _ | .restartHard | .restartSoft | .ipRemoteUpdate | .send _ => none
  | .deviceToggle index isActive =>
      (Memory.element 15 index.toNat).toOption.map fun device =>
        .deviceToggle device isActive.toUInt8
  | .pulsesTotalSet index pulses =>
      (Memory.element 5 index.toNat).toOption.map fun sensor =>
        .pulsesTotalSet sensor pulses.toUInt32
  | .pulsesPerLiterSet index pulses =>
      (Memory.element 5 index.toNat).toOption.map fun sensor =>
        .assign (.pulsesPerLiter sensor pulses)
  | .pulsesTotalAdd index pulses =>
      (Memory.element 5 index.toNat).toOption.map fun sensor =>
        .pulsesTotalSet sensor ((s.sensorFlowArray sensor).pulsesTotal + pulses.toUInt32)
  | .flowStart index volume time =>
      (Memory.element 6 index.toNat).toOption.map fun flow => .flowStart flow volume time
  | .flowStop index => (Memory.element 6 index.toNat).toOption.map fun flow => .flowStop flow
  | .flowPause index isPause =>
      (Memory.element 6 index.toNat).toOption.map fun flow => .flowPause flow isPause.toUInt8
  | .start program isCleaning =>
      some (.start (Program.ofNumber program.toNat) isCleaning.toUInt8)
  | .forceStop => some .forceStop
  | .resume => some .resume

/-- The operation of the line that is typed, if there is one. -/
def SerialInput.operation (s : Controller) (input : SerialInput) : Option Operation :=
  if input.isAvailable = false then none
  else
    match userInput input.reads with
    | .ok (some command) => command.operation s
    | _ => none

/-! ## The iteration -/

/-- The interrupts before a call. -/
def Moment.interrupt (moment : Moment) (s : Controller) : Controller :=
  moment.interrupts.foldl (fun s sensor => s.sensorFlowInterrupt sensor) s

namespace Controller

variable [FlowArithmetic]

/-- An interface runs the operation that it has been asked for, if any. -/
def obey (now : Nat) (command : Option Operation) (s : Controller) : Controller :=
  command.elim s fun operation => operation.run now s

/-- The controller when `control_flow_update` is called. -/
def atControlFlow (input : LoopInput) (s : Controller) : Controller :=
  let devices := (input.device.interrupt s).deviceUpdate input.device.now
  let flows := (input.sensorFlow.interrupt devices).sensorFlowUpdate input.sensorFlow.now
  let pressures := (input.sensorPressure.interrupt flows).sensorPressureUpdate
    input.sensorPressure.now input.readings
  input.controlFlow.interrupt pressures

/-- The controller when `control_irrigation_temp_update` is called. -/
def atIrrigation (input : LoopInput) (s : Controller) : Controller :=
  input.irrigation.interrupt ((s.atControlFlow input).controlFlowUpdate input.controlFlow.now)

/-- The controller when `interface_process_data` is called. -/
def atDispatch (input : LoopInput) (s : Controller) : Controller :=
  let updated := (s.atIrrigation input).controlIrrigationTempUpdate input.irrigation.now
  input.interface.interrupt (input.internet.interrupt updated)

/-- One iteration of `loop()` in which the network asks for `command`. -/
def pass (input : LoopInput) (command : Option Operation) (s : Controller) : Controller :=
  let served := input.interfaceSerial.interrupt
    ((s.atDispatch input).obey input.interface.now command)
  served.obey input.interfaceSerial.now (input.serial.operation served)

end Controller

namespace System

variable [FlowArithmetic]

/-- The operation that the network asks for in an iteration. -/
def networkCommand (input : LoopInput) (s : System) : Option Operation :=
  match s.network.internetUpdate input.internet.now input.chip with
  | .ok n => n.command
  | .error _ => none

@[simp] theorem interrupted_controller (moment : Moment) (s : System) :
    (s.interrupted moment).controller = moment.interrupt s.controller := by
  unfold interrupted Moment.interrupt
  induction moment.interrupts generalizing s with
  | nil => rfl
  | cons sensor rest ih => exact ih (s.operate moment.now (.sensorInterrupt sensor))

theorem call_controller (moment : Moment) (operation : Operation) (s : System) :
    (s.call moment operation).controller =
      operation.run moment.now (moment.interrupt s.controller) := by
  rw [← interrupted_controller]
  rfl

theorem control_controller (input : LoopInput) (s : System) :
    (s.control input).controller =
      (s.controller.atIrrigation input).controlIrrigationTempUpdate input.irrigation.now := by
  simp only [control, call_controller]
  rfl

/-! ## The interfaces run these operations -/

variable {s : System} (now : Nat)

/-- A case that takes an index runs its operation with the entry, or fails. -/
theorem entry_obeys {length index : Nat} (operation : Fin length → Operation) :
    Memory.Allows
      (do let entry ← Memory.element length index; return s.operate now (operation entry))
      fun after => after.controller =
        s.controller.obey now ((Memory.element length index).toOption.map operation) := by
  by_cases inside : index < length
  · rw [Memory.element_inside inside]
    exact (Memory.allows_ok _).mpr rfl
  · rw [Memory.element_outside inside]
    exact Memory.allows_error _

theorem perform_obeys (answers : InterfaceAnswers) (command : Command) :
    Memory.Allows (s.perform now answers command) fun after =>
      after.controller = s.controller.obey now (command.operation s.network.packet.data) := by
  cases command with
  | deviceToggle | deviceTimeSwitchMinimum | sensorFlowPulsesPerLiter => exact entry_obeys now _
  | infoAll => exact sendInfoAll_controller answers s
  | ping => exact answerPing_controller answers s
  | _ => exact (Memory.allows_ok _).mpr rfl

theorem processPacket_obeys (answers : InterfaceAnswers) :
    Memory.Allows (s.processPacket now answers) fun after => after.controller =
      s.controller.obey now ((Command.ofByte (s.network.packet.data 0)).bind fun command =>
        if 1 + command.operands = s.network.packet.size then
          command.operation s.network.packet.data
        else none) := by
  refine allows_processPacket (· = _) ?_
  unfold interfaceSwitch
  cases taken : Command.ofByte (s.network.packet.data 0) with
  | none => exact (Memory.allows_ok _).mpr rfl
  | some command =>
      dsimp only
      rw [Memory.allows_ite, Memory.allows_bind, Option.bind_some]
      constructor
      · intro wrong
        rw [if_neg wrong]
        exact (Memory.allows_ok _).mpr rfl
      · intro right
        rw [if_pos (not_not.mp right)]
        exact (perform_obeys now answers command).mono fun performed reached =>
          (Memory.allows_pure _).mpr reached

omit [FlowArithmetic] in
/-- The telemetry puts its command byte into the packet. -/
theorem fillBody_telemetry (n : Network) :
    Memory.Allows (n.fillBody [82]) fun filled => filled.packet.data 0 = 82 := by
  refine Memory.Ensures.allows ?_
  unfold Network.fillBody
  rw [Memory.ensures_bind, Memory.ensures_storeAll (Nat.zero_le _)]
  exact ⟨by decide, (Memory.ensures_pure _).mpr rfl⟩

/-- `interface_process_data` runs the operation of the packet that waits, and no other. -/
theorem interfaceProcessData_obeys (answers : InterfaceAnswers) :
    Memory.Allows (s.interfaceProcessData now answers) fun after =>
      after.controller = s.controller.obey now s.network.command := by
  unfold interfaceProcessData Network.command
  by_cases waiting : s.network.isReceiveWait = 0
  · rw [if_neg (not_not_intro waiting), if_pos waiting, Memory.allows_ite, Memory.allows_ite,
      Memory.allows_bind]
    refine ⟨fun _ => (Memory.allows_ok _).mpr rfl, fun _ =>
      ⟨fun _ => (Memory.allows_ok _).mpr rfl, fun _ => ?_⟩⟩
    refine (fillBody_telemetry s.network).mono fun filled byte => ?_
    refine (processPacket_obeys now answers).mono fun after reached => reached.trans ?_
    dsimp only
    rw [byte, Command.ofByte_eq_infoAll.mpr rfl, Option.bind_some]
    split <;> rfl
  · rw [if_pos waiting, if_neg waiting]
    exact processPacket_obeys now answers

theorem performSerial_obeys (answers : ChipAnswers) (command : SerialCommand) :
    Memory.Allows (s.performSerial now answers command) fun after =>
      after.controller = s.controller.obey now (command.operation s.controller) := by
  cases command with
  | deviceToggle | pulsesTotalSet | pulsesPerLiterSet | pulsesTotalAdd | flowStart | flowStop
  | flowPause => exact entry_obeys now _
  | ping | send => exact Memory.allows_bind.mpr fun n _ => (Memory.allows_pure _).mpr rfl
  | _ => exact (Memory.allows_ok _).mpr rfl

/-- `interface_serial_update` runs the operation of the line that is typed, and no other. -/
theorem interfaceSerialUpdate_obeys (input : SerialInput) :
    Memory.Allows (s.interfaceSerialUpdate now input) fun after =>
      after.controller = s.controller.obey now (input.operation s.controller) := by
  have ran : Memory.Allows (s.runUserInput now input) fun after =>
      after.controller = s.controller.obey now (input.operation s.controller) := by
    unfold runUserInput SerialInput.operation
    by_cases silent : input.isAvailable = false
    · rw [if_pos silent, if_pos silent]
      exact (Memory.allows_ok s).mpr rfl
    · rw [if_neg silent, if_neg silent, Memory.allows_bind]
      intro line read
      rw [read]
      cases line with
      | none => exact (Memory.allows_pure _).mpr rfl
      | some command => exact performSerial_obeys now input.answers command
  unfold interfaceSerialUpdate
  rw [Memory.allows_bind]
  refine ran.mono fun after reached => (Memory.allows_pure _).mpr ?_
  split
  · rw [flowPrint_controller, reached]
  · exact reached

/-- An iteration of `loop()` is a pass of the controller. -/
theorem loop_pass (input : LoopInput) (s : System) :
    Memory.Allows (s.loop input) fun after =>
      after.controller = s.controller.pass input (s.networkCommand input) := by
  have network : ((s.control input).interrupted input.internet).network = s.network := by
    rw [interrupted_network, control_network]
  unfold loop networkCommand
  dsimp only
  rw [Memory.allows_bind, network]
  intro n updated
  rw [updated, Memory.allows_bind]
  refine (interfaceProcessData_obeys input.interface.now input.answers).mono
    fun processed reached => ?_
  refine (interfaceSerialUpdate_obeys input.interfaceSerial.now input.serial).mono
    fun after served => ?_
  rw [interrupted_network, withNetwork_network, interrupted_controller] at reached
  have dispatched : processed.controller =
      (s.controller.atDispatch input).obey input.interface.now n.command := by
    rw [reached]
    simp only [withNetwork, interrupted_controller, control_controller]
    rfl
  rw [served, interrupted_controller, dispatched]
  rfl

end System

end BlueberryIrrigation
