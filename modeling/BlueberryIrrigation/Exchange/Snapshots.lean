import BlueberryIrrigation.Exchange.Storm
import BlueberryIrrigation.Interface.Pass
import BlueberryIrrigation.Server.UserInput

/-!
# What the server shows has been so

The Arduino's telemetry travels in four packets that the network may lose, repeat and reorder, and
the server overwrites what it shows with whatever arrives. `World.Run` is a run of both ends;
`shows_snapshots` is what an operator may conclude: each part of what the server shows is what that
part of the Arduino's memory was at the dispatch of one of its iterations, though two parts may
come from two iterations.
-/

namespace BlueberryIrrigation

open Semantics

/-- The Arduino's memory when the dispatcher runs, and the clock when it sends. -/
structure Snapshot where
  time : Nat
  controller : Controller

/-! ## What a byte keeps of a program -/

theorem Program.number_ofNumber (number : Nat) : (Program.ofNumber number).number = number := by
  match number with
  | 0 | 1 | 2 | 3 | 4 => rfl
  | excess + 5 => rfl

/-- The packet has one byte for each program number. -/
def Irrigation.inBytes (i : Irrigation) : Irrigation :=
  { i with
    program := .ofNumber (i.program.number % 256)
    programCurrent := .ofNumber (i.programCurrent.number % 256) }

theorem Irrigation.controlIrrigationInfo_inBytes (now : Nat) (i : Irrigation) :
    controlIrrigationInfo now i.inBytes = controlIrrigationInfo now i := by
  have byte (number : Nat) : UInt8.ofNat (number % 256) = UInt8.ofNat number := by
    rw [← UInt8.toNat_inj, UInt8.toNat_ofNat', UInt8.toNat_ofNat', Nat.mod_mod]
  simp only [controlIrrigationInfo, inBytes, Program.number_ofNumber, byte]

/-- The memory that the telemetry can tell. -/
def Controller.told (s : Controller) : Controller :=
  { s with irrigation := s.irrigation.inBytes }

theorem Part.body_told (now : Nat) (s : Controller) (part : Part) :
    part.body now s.told = part.body now s := by
  cases part with
  | irrigation => exact s.irrigation.controlIrrigationInfo_inBytes now
  | _ => rfl

namespace Part

/-- The server shows this part as it is in the snapshot. -/
def Shows (part : Part) (snapshot : Snapshot) (d : IrrigationData) : Prop :=
  Mirrored snapshot.time snapshot.controller.told d part

/-- The two mirrors agree on this part. -/
def Same (before after : IrrigationData) : Part → Prop
  | .devices => after.deviceArray = before.deviceArray
  | .sensorFlows => after.sensorFlowArray = before.sensorFlowArray
  | .sensorPressures => after.sensorPressureArray = before.sensorPressureArray
  | .irrigation =>
      after = { before with
        deviceArray := after.deviceArray
        sensorFlowArray := after.sensorFlowArray
        sensorPressureArray := after.sensorPressureArray }

theorem Same.of_eq {before after : IrrigationData} (same : after = before) (part : Part) :
    part.Same before after := by
  subst same
  cases part <;> rfl

theorem Same.trans {first second third : IrrigationData} {part : Part}
    (before : part.Same first second) (after : part.Same second third) :
    part.Same first third := by
  cases part with
  | irrigation =>
      change third = _
      rw [show third = _ from after, show second = _ from before]
  | _ => exact Eq.trans after before

theorem Shows.of_same {part : Part} {snapshot : Snapshot} {before after : IrrigationData}
    (same : part.Same before after) (shows : part.Shows snapshot before) :
    part.Shows snapshot after := by
  cases part with
  | devices => exact fun device => (congrFun same device).trans (shows device)
  | sensorFlows =>
      intro sensor
      rw [show after.sensorFlowArray = _ from same]
      exact shows sensor
  | sensorPressures => exact Eq.trans same shows
  | irrigation =>
      change IrrigationMirrored _ _ after
      rw [show after = _ from same]
      exact { show IrrigationMirrored _ _ before from shows with }

theorem same_of_onlyPart {part other : Part} {before after : IrrigationData}
    (only : IrrigationData.OnlyPart part before after) (different : part ≠ other) :
    other.Same before after := by
  cases other with
  | devices => exact only.devices different
  | sensorFlows => exact only.sensorFlows different
  | sensorPressures => exact only.sensorPressures different
  | irrigation => exact only.irrigation different

end Part

/-! ## What the Arduino sends -/

/-- The body is too short for telemetry, or it is about a part of this snapshot. -/
def Snapshot.Tells (snapshot : Snapshot) (body : List UInt8) : Prop :=
  body.length ≤ 2 ∨ ∃ part : Part, body = part.body snapshot.time snapshot.controller

namespace Network

/-- The frames sent on the way have such bodies. -/
def SendsOnly (tells : List UInt8 → Prop) (before after : Network) : Prop :=
  ∀ frame ∈ after.sentFrames, frame ∈ before.sentFrames ∨
    ∃ id body, frame = frameOf id body ∧ tells body

variable {tells : List UInt8 → Prop}

namespace SendsOnly

variable {first second third : Network}

theorem of_eq (same : second.sentFrames = first.sentFrames) : SendsOnly tells first second := by
  intro frame sent
  rw [same] at sent
  exact .inl sent

theorem trans (before : SendsOnly tells first second) (after : SendsOnly tells second third) :
    SendsOnly tells first third := by
  intro frame sent
  rcases after frame sent with earlier | framed
  · exact before frame earlier
  · exact .inr framed

end SendsOnly

theorem internetSend_only (isSent : Bool) (n : Network) (told : tells n.packet.body) :
    Memory.Allows (n.internetSend isSent) (SendsOnly tells n) := by
  unfold internetSend
  rw [Memory.allows_ite, Memory.allows_ite]
  refine ⟨fun _ => (Memory.allows_ok _).mpr (.of_eq rfl), fun _ =>
    ⟨fun _ => Memory.allows_error _, fun fits => (Memory.allows_ok _).mpr fun other sent => ?_⟩⟩
  rcases List.mem_cons.mp sent with rfl | earlier
  · exact .inr ⟨n.packet.id, n.packet.body, frame_eq (Nat.not_lt.mp fits), told⟩
  · exact .inl earlier

theorem sendBody_only (isSent : Bool) {bytes : List UInt8} (fits : bytes.length ≤ bodyDataSize)
    (told : tells bytes) (n : Network) :
    Memory.Allows (n.sendBody isSent bytes) (SendsOnly tells n) := by
  unfold sendBody
  rw [Memory.allows_bind]
  refine (n.fillBody_fits fits).allows.mono fun filled filling => ?_
  obtain ⟨body, -, data, size, rfl⟩ := filling
  exact internetSend_only isSent _ (body.symm ▸ told)

/-- A reception sends nothing. -/
theorem internetReceive_only (now : Nat) (n : Network) :
    Memory.Allows (n.internetReceive now) (SendsOnly tells n) := by
  have quiet {after : Network} (same : after.events = n.events) : SendsOnly tells n after :=
    .of_eq (by rw [sentFrames, sentFrames, same])
  unfold internetReceive
  simp only [Memory.allows_bind, Memory.allows_ite, Memory.allows_pure]
  simp only [readNext, Packet.shrink_size]
  refine ⟨fun _ => quiet rfl, fun _ => ⟨fun _ => quiet rfl, fun _ => ⟨fun _ => quiet rfl, fun _ =>
    ⟨fun _ => quiet rfl, fun _ => ⟨fun _ => quiet rfl, fun _ => ⟨fun _ => quiet rfl, fun _ =>
    ⟨fun _ => quiet rfl, fun _ => ⟨fun _ => quiet rfl, fun _ =>
    (allows_receiveBody (Nat.zero_le _)).mono fun copied => ?_⟩⟩⟩⟩⟩⟩⟩⟩
  rintro ⟨-, rfl⟩
  exact ⟨fun _ => quiet rfl, fun _ => .of_eq rfl⟩

theorem internetIpRemoteUpdate_sentFrames (resolved : Option UInt32) (n : Network) :
    (n.internetIpRemoteUpdate resolved).1.sentFrames = n.sentFrames := by
  unfold internetIpRemoteUpdate
  split
  · rfl
  · cases resolved <;> rfl

theorem internetRestartSoft_sentFrames (now : Nat) (answers : ChipAnswers) (n : Network) :
    (n.internetRestartSoft now answers).sentFrames = n.sentFrames := by
  unfold internetRestartSoft internetIpRemoteUpdate
  dsimp only
  split
  · rfl
  · split
    · rfl
    · simp only [ne_eq, not_true_eq_false, if_false]
      cases answers.resolved <;> rfl

/-- `internet_update` sends pings. -/
theorem internetUpdate_only (now : Nat) (answers : ChipAnswers) (n : Network)
    (ping : tells [internetCommandPing, internetCommandPingValueRequest]) :
    Memory.Allows (n.internetUpdate now answers) (SendsOnly tells n) := by
  have quiet {after : Network} (same : after.sentFrames = n.sentFrames) :
      Memory.Allows (.ok after) (SendsOnly tells n) := (Memory.allows_ok _).mpr (.of_eq same)
  unfold internetUpdate
  cases n.status with
  | restarting =>
      rw [Memory.allows_ite]
      exact ⟨fun _ => quiet rfl, fun _ => quiet rfl⟩
  | initializing =>
      rw [Memory.allows_ite]
      exact ⟨fun _ => quiet rfl, fun _ => quiet (internetRestartSoft_sentFrames now answers n)⟩
  | uninitialized =>
      rw [Memory.allows_ite]
      exact ⟨fun _ => quiet rfl, fun _ => quiet rfl⟩
  | ready =>
      rw [Memory.allows_ite, Memory.allows_ite, Memory.allows_bind]
      refine ⟨fun _ => quiet rfl, fun _ => ⟨fun _ => quiet rfl, fun _ => ?_⟩⟩
      have pinged : Memory.Allows (n.internetPing now answers) (SendsOnly tells n) := by
        unfold internetPing
        rw [Memory.allows_ite]
        refine ⟨fun _ => ?_, fun _ => quiet rfl⟩
        have sends := sendBody_only answers.isSent (by decide) ping n
        unfold sendBody at sends
        rw [Memory.allows_bind] at sends ⊢
        refine sends.mono fun filled sending => Memory.allows_bind.mpr ?_
        exact sending.mono fun sent only => (Memory.allows_pure _).mpr (only.trans (.of_eq rfl))
      refine pinged.mono fun after only => ?_
      unfold internetPoll
      dsimp only
      rw [Memory.allows_ite]
      refine ⟨fun _ => ?_, fun _ => (Memory.allows_ok _).mpr (only.trans (.of_eq rfl))⟩
      have receives : Memory.Allows ((after.parsePacket answers.arrived).internetReceive
          answers.later) (SendsOnly tells (after.parsePacket answers.arrived)) :=
        internetReceive_only answers.later _
      exact receives.mono fun received nothing => (only.trans (.of_eq rfl)).trans nothing

end Network

namespace System

theorem sendInfoAll_only (answers : InterfaceAnswers) (s : System) :
    Memory.Allows (s.sendInfoAll answers) fun after =>
      Network.SendsOnly (Snapshot.Tells ⟨answers.later, s.controller⟩) s.network
        after.network := by
  have fits (part : Part) : (part.body answers.later s.controller).length ≤ bodyDataSize :=
    (part.length_body answers.later s.controller).2.trans (by decide)
  have sends (part : Part) (isSent : Bool) (n : Network) :
      Memory.Allows (n.sendBody isSent (part.body answers.later s.controller))
        (n.SendsOnly (Snapshot.Tells ⟨answers.later, s.controller⟩)) :=
    Network.sendBody_only isSent (fits part) (.inr ⟨part, rfl⟩) n
  unfold sendInfoAll
  rw [Memory.allows_bind]
  refine (sends .devices _ s.network).mono fun n1 devices => ?_
  rw [Memory.allows_bind]
  refine (sends .sensorFlows _ n1).mono fun n2 flows => ?_
  rw [Memory.allows_bind]
  refine (sends .sensorPressures _ n2).mono fun n3 pressures => ?_
  rw [Memory.allows_bind]
  refine (sends .irrigation _ n3).mono fun n4 irrigation => ?_
  exact (Memory.allows_pure _).mpr (((devices.trans flows).trans pressures).trans irrigation)

theorem answerPing_only {snapshot : Snapshot} (answers : InterfaceAnswers) {s : System}
    (size : s.network.packet.size = 2) :
    Memory.Allows (s.answerPing answers) fun after =>
      Network.SendsOnly snapshot.Tells s.network after.network := by
  unfold answerPing
  rw [Memory.allows_ite, Memory.allows_bind]
  refine ⟨fun _ => ?_, fun _ => (Memory.allows_ok _).mpr (.of_eq rfl)⟩
  generalize answering : ({ s.network with
    packet.data := Function.update s.network.packet.data 1 internetCommandPingValueAnswer } :
      Network) = answered
  have pair : answered.packet.size = 2 := by rw [← answering, ← size]
  have short : answered.packet.body.length ≤ 2 := by
    rw [Packet.length_body (by rw [pair]; decide), pair]
    decide
  have told : snapshot.Tells answered.packet.body := .inl short
  refine (Network.internetSend_only _ answered told).mono fun n only => ?_
  refine (Memory.allows_pure _).mpr (Network.SendsOnly.trans (.of_eq ?_) only)
  rw [← answering]
  rfl

variable [FlowArithmetic]

/-- The dispatcher sends answers to pings, and telemetry about the memory that it finds. -/
theorem processPacket_only (now : Nat) (answers : InterfaceAnswers) (s : System) :
    Memory.Allows (s.processPacket now answers) fun after =>
      Network.SendsOnly (Snapshot.Tells ⟨answers.later, s.controller⟩) s.network
        after.network := by
  unfold processPacket interfaceSwitch
  rw [Memory.allows_bind]
  cases Command.ofByte (s.network.packet.data 0) with
  | none => exact (Memory.allows_ok _).mpr ((Memory.allows_pure _).mpr (.of_eq rfl))
  | some command =>
      dsimp only
      rw [Memory.allows_ite, Memory.allows_bind]
      constructor
      · intro wrong
        refine (Memory.allows_ok _).mpr ?_
        split <;> exact (Memory.allows_pure _).mpr (.of_eq rfl)
      · intro right
        have size := not_not.mp right
        have performs : Memory.Allows (s.perform now answers command) fun after =>
            Network.SendsOnly (Snapshot.Tells ⟨answers.later, s.controller⟩) s.network
              after.network := by
          by_cases infoAll : command = .infoAll
          · rw [infoAll]
            exact sendInfoAll_only answers s
          · by_cases ping : command = .ping
            · subst ping
              exact answerPing_only answers size.symm
            · exact (perform_silent now answers s infoAll ping).mono fun after same =>
                .of_eq (congrArg Network.sentFrames same)
        exact performs.mono fun after only => (Memory.allows_pure _).mpr
          ((Memory.allows_pure _).mpr (only.trans (.of_eq rfl)))

theorem interfaceProcessData_only (now : Nat) (answers : InterfaceAnswers) (s : System) :
    Memory.Allows (s.interfaceProcessData now answers) fun after =>
      Network.SendsOnly (Snapshot.Tells ⟨answers.later, s.controller⟩) s.network
        after.network := by
  unfold interfaceProcessData
  rw [Memory.allows_ite, Memory.allows_ite, Memory.allows_ite, Memory.allows_bind]
  refine ⟨fun _ => ?_, fun _ => ⟨fun _ => (Memory.allows_ok _).mpr (.of_eq rfl), fun _ =>
    ⟨fun _ => (Memory.allows_ok _).mpr (.of_eq rfl), fun _ => ?_⟩⟩⟩
  · refine (processPacket_only now answers _).mono fun after only => ?_
    exact Network.SendsOnly.trans (.of_eq rfl) only
  · have fills : Memory.Allows (s.network.fillBody [82]) (Network.Filled [82] s.network) :=
      (s.network.fillBody_fits (by decide)).allows
    refine fills.mono fun filled filling => ?_
    obtain ⟨-, -, data, size, rfl⟩ := filling
    refine (processPacket_only now answers _).mono fun after only => ?_
    exact Network.SendsOnly.trans (.of_eq rfl) only

omit [FlowArithmetic] in
/-- Of what is typed, the network sends one or two bytes. -/
theorem userInput_send (reads : SerialReads) :
    Memory.Allows (userInput reads) fun line =>
      ∀ bytes, line = some (.send bytes) → bytes.length ≤ 2 := by
  have other {line : Option SerialCommand} (silent : ∀ bytes, line ≠ some (.send bytes)) :
      ∀ bytes, line = some (.send bytes) → bytes.length ≤ 2 :=
    fun bytes same => absurd same (silent bytes)
  unfold userInput
  split
  · exact (Memory.allows_ok _).mpr (other (by simp))
  · exact (Memory.allows_ok _).mpr (other (by simp))
  · exact Memory.allows_bind.mpr fun _ _ => (Memory.allows_pure _).mpr (other (by simp))
  · unfold userInputFlow
    split
    · exact Memory.allows_bind.mpr fun _ _ => (Memory.allows_pure _).mpr (other (by simp))
    · exact Memory.allows_bind.mpr fun _ _ => (Memory.allows_pure _).mpr (other (by simp))
    · exact (Memory.allows_ok _).mpr (other (by simp))
    · exact Memory.allows_bind.mpr fun _ _ => (Memory.allows_pure _).mpr (other (by simp))
    · exact (Memory.allows_ok _).mpr (other (by simp))
  · split
    · unfold userInputControlFlow
      split
      · exact Memory.allows_bind.mpr fun _ _ => Memory.allows_bind.mpr fun _ _ =>
          (Memory.allows_pure _).mpr (other (by simp))
      · exact (Memory.allows_ok _).mpr (other (by simp))
      · exact (Memory.allows_ok _).mpr (other (by simp))
      · exact (Memory.allows_ok _).mpr (other (by simp))
    · unfold userInputIrrigation
      split <;> exact (Memory.allows_ok _).mpr (other (by simp))
    · exact (Memory.allows_ok _).mpr (other (by simp))
  · refine (Memory.allows_ok _).mpr fun bytes sent => ?_
    unfold userInputInternet at sent
    split at sent <;> simp only [Option.some.injEq, SerialCommand.send.injEq, reduceCtorEq] at sent
    · exact sent ▸ (by decide : 1 ≤ 2)
    · exact sent ▸ (by decide : 2 ≤ 2)
  · exact (Memory.allows_ok _).mpr (other (by simp))

theorem interfaceSerialUpdate_only (snapshot : Snapshot) (now : Nat) (input : SerialInput)
    (s : System) :
    Memory.Allows (s.interfaceSerialUpdate now input) fun after =>
      Network.SendsOnly snapshot.Tells s.network after.network := by
  have runs : Memory.Allows (s.runUserInput now input) fun after =>
      Network.SendsOnly snapshot.Tells s.network after.network := by
    unfold runUserInput
    rw [Memory.allows_ite, Memory.allows_bind]
    refine ⟨fun _ => (Memory.allows_ok _).mpr (.of_eq rfl), fun _ => ?_⟩
    refine (userInput_send input.reads).mono fun line short => ?_
    cases line with
    | none => exact (Memory.allows_pure _).mpr (.of_eq rfl)
    | some command =>
        cases command with
        | deviceToggle | pulsesTotalSet | pulsesPerLiterSet | pulsesTotalAdd | flowStart
        | flowStop | flowPause => exact Memory.allows_entry fun _ => .of_eq rfl
        | ping =>
            exact Memory.allows_bind.mpr ((Network.sendBody_only _ (by decide)
              (.inl (by decide)) s.network).mono fun n only => (Memory.allows_pure _).mpr only)
        | send bytes =>
            have fits := short bytes rfl
            exact Memory.allows_bind.mpr ((Network.sendBody_only _
              (fits.trans (by decide)) (.inl fits) s.network).mono fun n only =>
                (Memory.allows_pure _).mpr only)
        | restartSoft =>
            exact (Memory.allows_ok _).mpr
              (.of_eq (Network.internetRestartSoft_sentFrames now input.answers s.network))
        | ipRemoteUpdate =>
            refine (Memory.allows_ok _).mpr (.of_eq ?_)
            exact s.network.internetIpRemoteUpdate_sentFrames input.answers.resolved
        | _ => exact (Memory.allows_ok _).mpr (.of_eq rfl)
  unfold interfaceSerialUpdate
  rw [Memory.allows_bind]
  refine runs.mono fun after only => (Memory.allows_pure _).mpr ?_
  split
  · rw [flowPrint_network]
    exact only
  · exact only

/-- All that an iteration sends tells its own dispatch. -/
theorem loop_only (input : LoopInput) (s : System) :
    Memory.Allows (s.loop input) fun after =>
      Network.SendsOnly (Snapshot.Tells ⟨input.answers.later, s.controller.atDispatch input⟩)
        s.network after.network := by
  generalize telling : (Snapshot.mk input.answers.later (s.controller.atDispatch input)) = snapshot
  unfold loop
  dsimp only
  rw [Memory.allows_bind, interrupted_network, control_network]
  have updates : Memory.Allows (s.network.internetUpdate input.internet.now input.chip)
      (Network.SendsOnly snapshot.Tells s.network) :=
    Network.internetUpdate_only _ _ _ (.inl (by decide))
  refine updates.mono fun n updated => ?_
  rw [Memory.allows_bind]
  refine (interfaceProcessData_only _ _ _).mono fun processed dispatched => ?_
  have serves := interfaceSerialUpdate_only snapshot input.interfaceSerial.now
    input.serial (processed.interrupted input.interfaceSerial)
  refine serves.mono fun after served => ?_
  rw [interrupted_network] at served dispatched
  have controller : (((s.control input).interrupted input.internet).withNetwork
      n |>.interrupted input.interface).controller = s.controller.atDispatch input := by
    simp only [withNetwork, interrupted_controller, control_controller]
    rfl
  rw [controller, telling] at dispatched
  exact (updated.trans dispatched).trans served

end System

/-! ## What the server takes -/

namespace ServerMemory

/-- A body of one or two bytes changes nothing that the server shows. -/
theorem serverProcessReceivedData_short {s : ServerMemory} (short : s.udp.packet.size.toNat ≤ 2) :
    Memory.Allows s.serverProcessReceivedData fun after => after.data = s.data := by
  have kept {frames : List (List UInt8)} {udp : Server} :
      Memory.Allows (.ok ({ s with udp := udp }, frames)) fun processed =>
        Memory.Allows (pure processed.1) fun after : ServerMemory => after.data = s.data :=
    (Memory.allows_ok _).mpr ((Memory.allows_pure _).mpr rfl)
  unfold serverProcessReceivedData serverProcessSending
  rw [Memory.allows_bind]
  dsimp only
  split
  case h_5 =>
    unfold answerPing
    rw [Memory.allows_ite, Memory.allows_ite, Memory.allows_bind]
    exact ⟨fun _ => kept, fun _ => ⟨fun _ (_, _) _ => kept, fun _ => kept⟩⟩
  case h_6 => exact kept
  -- a part of the data takes more bytes
  all_goals
    rw [if_pos (by omega)]
    exact kept

/-- A packet about a part of a snapshot shows that part, and keeps the others. -/
theorem serverProcessReceivedData_shows {s : ServerMemory} {snapshot : Snapshot} {part : Part}
    (carries : s.udp.packet.Carries (part.body snapshot.time snapshot.controller)) :
    Memory.Allows s.serverProcessReceivedData fun after =>
      part.Shows snapshot after.data ∧ ∀ other : Part, part ≠ other →
        other.Same s.data after.data := by
  have inside (number : Nat) : (Program.ofNumber (number % 256)).number < 256 := by
    rw [Program.number_ofNumber]
    omega
  have mirrors : Memory.Ensures s.serverProcessReceivedData fun after =>
      Mirrored snapshot.time snapshot.controller.told after.data part ∧
        ∀ other, Mirrored snapshot.time snapshot.controller.told s.data other →
          Mirrored snapshot.time snapshot.controller.told after.data other :=
    serverProcessReceivedData_mirrors (inside _) (inside _) (by rwa [Part.body_told])
  have command : s.udp.packet.data 0 = part.command := by
    refine data_of_carries carries ?_ (by decide)
    cases part <;> rfl
  have size : s.udp.packet.size.toNat = part.size := by
    rw [carries.2]
    cases part with
    | devices => exact length_deviceInfo _
    | sensorFlows => exact length_sensorFlowInfo _
    | sensorPressures => exact length_sensorPressureInfo _
    | irrigation => exact length_controlIrrigationInfo _ _
  obtain ⟨data, sends, only⟩ := serverProcessSending_part command size
  have processed : s.serverProcessReceivedData = .ok { s with data := data } := by
    rw [serverProcessReceivedData, sends]
    rfl
  rw [processed] at mirrors ⊢
  have shown := ((Memory.ensures_ok _).mp mirrors).1
  exact (Memory.allows_ok _).mpr ⟨shown, fun other different =>
    Part.same_of_onlyPart only different⟩

/-- A frame is refused, or its body is processed. -/
theorem serverUdpUpdate_frame {s : ServerMemory} {datagram : Datagram} {id : UInt8}
    {body : List UInt8} (time : UInt32) (bytes : datagram.bytes = frameOf id body)
    (short : body.length ≤ largestBody) :
    Memory.Allows (s.serverUdpUpdate datagram time) fun after =>
      after.data = s.data ∨ ∃ udp : Server, udp.packet.Carries body ∧
        ({ s with udp := udp, timeReceivedLast := time } : ServerMemory).serverProcessReceivedData =
          .ok after := by
  have largest : largestBody = 61 := rfl
  have declared : wrapperByteSizeMax = 65 := rfl
  have fits : datagram.bytes.length ≤ wrapperByteSizeMax := by
    rw [bytes, length_frameOf]
    omega
  have sound : datagram.bytes ≠ [wrapperByteStart, 0, arduinoId] := by
    intro hollow
    have length := congrArg List.length (bytes.symm.trans hollow)
    rw [length_frameOf] at length
    simp at length
  unfold serverUdpUpdate
  rw [Memory.allows_bind]
  refine ((s.udp.ensures_serverUdpReceive datagram).mpr ⟨fits, sound⟩).allows.mono
    fun received recognised => ?_
  obtain ⟨udp, accepted⟩ := received
  dsimp only at recognised ⊢
  rw [Memory.allows_ite]
  refine ⟨fun _ => (Memory.allows_pure _).mpr (.inl rfl), fun accepts => ?_⟩
  obtain ⟨carried, frame⟩ := recognised.1.mp (Bool.not_eq_false _ ▸ accepts)
  have same : carried = body := by
    rw [← between_frameOf arduinoId carried, ← frame.bytes, bytes, between_frameOf]
  rw [same] at frame
  exact fun after processed => .inr ⟨udp, recognised.2 body frame, processed⟩

end ServerMemory

/-! ## Runs -/

/-- Both ends. -/
structure World where
  arduino : System
  server : ServerMemory

/-- A run of both ends in which no access leaves its array, with the snapshots of the Arduino's
iterations, newest first. The network delivers the Arduino's frames as often and in whatever order
it likes, and the Arduino whatever it likes. -/
inductive World.Run [FlowArithmetic] (start : World) : List Snapshot → World → Prop
  | start : Run start [] start
  | iterate {seen : List Snapshot} {w : World} {input : LoopInput} {s : System}
      (prior : Run start seen w) (loops : w.arduino.loop input = .ok s) :
      Run start (⟨input.answers.later, w.arduino.controller.atDispatch input⟩ :: seen)
        { w with arduino := s }
  | arrive {seen : List Snapshot} {w : World} {datagram : Datagram} {time : UInt32}
      {s : ServerMemory} (prior : Run start seen w)
      (sent : datagram.bytes ∈ w.arduino.network.sentFrames)
      (updates : w.server.serverUdpUpdate datagram time = .ok s) :
      Run start seen { w with server := s }
  /-- The server's operator types a line. -/
  | command {seen : List Snapshot} {w : World} {reads : SerialReads} {udp : Server}
      {frame : Option (List UInt8)} {isPrint : Option Flag} (prior : Run start seen w)
      (processed : w.server.udp.userInputProcessData reads = .ok (udp, frame, isPrint)) :
      Run start seen { w with server.udp := udp }

section

variable [FlowArithmetic] {start w : World} {seen : List Snapshot}

/-- Every frame that is or has been on its way tells a snapshot. -/
theorem World.Run.sentFrames (quiet : start.arduino.network.sentFrames = [])
    (run : World.Run start seen w) : ∀ frame ∈ w.arduino.network.sentFrames,
      ∃ id body, frame = frameOf id body ∧ (body.length ≤ 2 ∨ ∃ snapshot ∈ seen, ∃ part : Part,
        body = part.body snapshot.time snapshot.controller) := by
  induction run with
  | start =>
      intro frame sent
      rw [quiet] at sent
      exact absurd sent List.not_mem_nil
  | @iterate _ before input _ _ loops ih =>
      intro frame sent
      rcases before.arduino.loop_only input _ loops frame sent with earlier |
        ⟨id, body, framed, short | told⟩
      · obtain ⟨id, body, framed, tells⟩ := ih frame earlier
        refine ⟨id, body, framed, tells.imp_right fun ⟨snapshot, listed, told⟩ => ?_⟩
        exact ⟨snapshot, List.mem_cons_of_mem _ listed, told⟩
      · exact ⟨id, body, framed, .inl short⟩
      · exact ⟨id, body, framed, .inr ⟨_, List.mem_cons_self, told⟩⟩
  | arrive _ _ _ ih | command _ _ ih => exact ih

/-- In every run of both ends in which no access leaves its array, with any commands typed at either
of them and any network that brings the server only frames which have been sent, each part of what
the server shows is as it was at the start or as that part of the Arduino's memory was at one of
its dispatches. -/
theorem shows_snapshots (quiet : start.arduino.network.sentFrames = [])
    (run : World.Run start seen w) (part : Part) :
    part.Same start.server.data w.server.data ∨
      ∃ snapshot ∈ seen, part.Shows snapshot w.server.data := by
  induction run with
  | start => exact .inl (.of_eq rfl part)
  | command _ _ ih =>
      refine ih.imp (·.trans (.of_eq rfl part)) fun ⟨snapshot, listed, shows⟩ => ?_
      exact ⟨snapshot, listed, .of_same (.of_eq rfl part) shows⟩
  | iterate _ _ ih =>
      refine ih.imp_right fun ⟨snapshot, listed, shows⟩ => ?_
      exact ⟨snapshot, List.mem_cons_of_mem _ listed, shows⟩
  | @arrive seen before datagram time after prior sent updates ih =>
      have keeps (same : part.Same before.server.data after.data) :
          part.Same start.server.data after.data ∨
            ∃ snapshot ∈ seen, part.Shows snapshot after.data := by
        refine ih.imp (·.trans same) fun ⟨snapshot, listed, shows⟩ => ?_
        exact ⟨snapshot, listed, .of_same same shows⟩
      obtain ⟨id, body, framed, tells⟩ := prior.sentFrames quiet _ sent
      have short : body.length ≤ largestBody := by
        rcases tells with short | ⟨snapshot, -, told, rfl⟩
        · exact short.trans (by decide)
        · exact (told.length_body _ _).2
      rcases ServerMemory.serverUdpUpdate_frame time framed short _ updates with unmoved |
        ⟨udp, carries, processed⟩
      · exact keeps (.of_eq unmoved part)
      · rcases tells with brief | ⟨snapshot, listed, told, rfl⟩
        · have small : udp.packet.size.toNat ≤ 2 := by
            rw [carries.2]
            exact brief
          have same : after.data = before.server.data :=
            ServerMemory.serverProcessReceivedData_short
              (s := { before.server with udp := udp, timeReceivedLast := time }) small _ processed
          exact keeps (.of_eq same part)
        · obtain ⟨shows, others⟩ := ServerMemory.serverProcessReceivedData_shows
            (s := { before.server with udp := udp, timeReceivedLast := time }) carries _ processed
          by_cases own : told = part
          · subst own
            exact .inr ⟨snapshot, listed, shows⟩
          · exact keeps (others part own)

end

/-- The telemetry of an Arduino that has just been set up, of which two packets arrive. -/
theorem shows_snapshots_setup :
    let infoAll : Datagram := ⟨167772161, internetRemotePort, [2, 2, 170, 82, 4], by decide⟩
    let input := onlyReceives 4000 infoAll
    let start : World := ⟨System.setup 3000 input.chip, .unset⟩
    ∃ seen w, World.Run start seen w ∧ (w.server.data.sensorFlowArray 0).pulsesPerLiter = 5880 ∧
      ∀ part : Part, part.Same start.server.data w.server.data ∨
        ∃ snapshot ∈ seen, part.Shows snapshot w.server.data := by
  intro infoAll input start
  have sends : (start.arduino.loop input).map (fun s => s.network.sentFrames[2]?) =
      .ok (some (frameOf arduinoId (sensorFlowInfo boot))) := by decide +kernel
  let flows : Datagram := ⟨1, internetRemotePort, frameOf arduinoId (sensorFlowInfo boot),
    by decide⟩
  have reads : (start.server.serverUdpUpdate flows 7).map (fun m =>
      (m.data.sensorFlowArray 0).pulsesPerLiter) = .ok 5880 := by decide +kernel
  cases loops : start.arduino.loop input with
  | error place =>
      rw [loops] at sends
      exact absurd sends (by simp [Except.map])
  | ok s =>
      rw [loops] at sends
      have sent := Except.ok.inj sends
      cases updates : start.server.serverUdpUpdate flows 7 with
      | error place =>
          rw [updates] at reads
          exact absurd reads (by simp [Except.map])
      | ok m =>
          rw [updates] at reads
          have run : World.Run start _ _ :=
            .arrive (.iterate .start loops) (List.mem_of_getElem? sent) updates
          exact ⟨_, _, run, Except.ok.inj reads, fun part => shows_snapshots rfl run part⟩

end BlueberryIrrigation
