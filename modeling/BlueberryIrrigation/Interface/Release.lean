import BlueberryIrrigation.Interface.Loop
import BlueberryIrrigation.Network.Channel

/-!
# Accepted frames are dispatched once

Every exit of the dispatcher but one releases the packet: the INFO_ALL case returns on a wrong
size. `Clear` is the state between iterations as long as no such frame is accepted. From the
first one on the channel is `Jammed`: its body is dispatched in every iteration, and nothing is
received until a serial command has overwritten the packet.
-/

namespace BlueberryIrrigation

open Semantics

/-- A frame with an INFO_ALL command that has more than its command byte. -/
def Jams (frame : List UInt8) : Prop :=
  (frameBody frame).head? = some 82 ∧ (frameBody frame).length ≠ 1

namespace Network

theorem Outgoing.sendBody (isSent : Bool) (bytes : List UInt8) (n : Network) :
    Memory.Allows (n.sendBody isSent bytes) (Outgoing n) := by
  unfold Network.sendBody
  rw [Memory.allows_bind]
  refine (Outgoing.fillBody bytes n).mono fun filled filling => ?_
  exact (Outgoing.internetSend isSent filled).mono fun sent sending => filling.trans sending

theorem ChannelKept.sendBody (isSent : Bool) (bytes : List UInt8) (n : Network) :
    Memory.Allows (n.sendBody isSent bytes) (ChannelKept n) :=
  (Outgoing.sendBody isSent bytes n).mono fun _ outgoing => outgoing.channelKept

end Network

namespace System

/-- Everything but the channel's own functions leaves the channel alone. -/
abbrev Beside (s after : System) : Prop := Network.ChannelKept s.network after.network

theorem sendInfoAll_beside (answers : InterfaceAnswers) (s : System) :
    Memory.Allows (s.sendInfoAll answers) s.Beside := by
  unfold sendInfoAll
  rw [Memory.allows_bind]
  refine (Network.ChannelKept.sendBody _ _ s.network).mono fun devices first => ?_
  rw [Memory.allows_bind]
  refine (Network.ChannelKept.sendBody _ _ devices).mono fun flows second => ?_
  rw [Memory.allows_bind]
  refine (Network.ChannelKept.sendBody _ _ flows).mono fun pressures third => ?_
  rw [Memory.allows_bind]
  refine (Network.ChannelKept.sendBody _ _ pressures).mono fun irrigation fourth => ?_
  exact (Memory.allows_pure _).mpr (((first.trans second).trans third).trans fourth)

theorem answerPing_beside (answers : InterfaceAnswers) (s : System) :
    Memory.Allows (s.answerPing answers) s.Beside := by
  unfold answerPing
  rw [Memory.allows_ite, Memory.allows_bind]
  refine ⟨fun _ => (Network.ChannelKept.internetSend _ _).mono fun sent kept => ?_, fun _ =>
    (Memory.allows_ok _).mpr (.refl _)⟩
  have answered : Network.ChannelKept s.network
      { s.network with
        packet.data :=
          Function.update s.network.packet.data 1 internetCommandPingValueAnswer } :=
    .of_eq rfl rfl
  exact (Memory.allows_pure _).mpr (answered.trans kept)

variable [FlowArithmetic]

theorem perform_beside (now : Nat) (answers : InterfaceAnswers) (s : System) (command : Command) :
    Memory.Allows (s.perform now answers command) s.Beside := by
  cases command with
  | deviceToggle | deviceTimeSwitchMinimum | sensorFlowPulsesPerLiter =>
      exact Memory.allows_entry fun _ => .refl _
  | infoAll => exact sendInfoAll_beside answers s
  | ping => exact answerPing_beside answers s
  | _ => exact (Memory.allows_ok _).mpr (.refl _)

/-- The `switch` is left by a `return` in one case only. -/
theorem interfaceSwitch_exit (now : Nat) (answers : InterfaceAnswers) (s : System) :
    Memory.Allows (s.interfaceSwitch now answers) fun left =>
      s.Beside left.1 ∧ (left.2 = .returned ↔
        s.network.packet.data 0 = 82 ∧ s.network.packet.size ≠ 1) := by
  unfold interfaceSwitch
  split
  · next unknown =>
      have other : s.network.packet.data 0 ≠ 82 := by
        intro same
        rw [Command.ofByte_eq_infoAll.mpr same] at unknown
        exact absurd unknown (Option.some_ne_none _)
      exact (Memory.allows_ok _).mpr ⟨.refl _, by simp [other]⟩
  · next command taken =>
      have infoAll : command = .infoAll ↔ s.network.packet.data 0 = 82 := by
        rw [← Command.ofByte_eq_infoAll, taken, Option.some_inj]
      rw [Memory.allows_ite, Memory.allows_bind]
      constructor
      · intro wrong
        refine (Memory.allows_ok _).mpr ⟨.refl _, ?_⟩
        by_cases same : command = .infoAll
        · subst same
          have size : s.network.packet.size ≠ 1 := Ne.symm wrong
          simp [infoAll.mp rfl, size]
        · have other : s.network.packet.data 0 ≠ 82 := fun byte => same (infoAll.mpr byte)
          simp [same, other]
      · intro right
        refine (perform_beside now answers s command).mono fun performed kept =>
          (Memory.allows_pure _).mpr ⟨kept, ?_⟩
        have released : ¬ (s.network.packet.data 0 = 82 ∧ s.network.packet.size ≠ 1) := by
          rintro ⟨byte, wrong⟩
          obtain rfl := infoAll.mpr byte
          exact right (Ne.symm wrong)
        simp [released]

/-- The packet is released unless the `switch` returns. -/
theorem processPacket_release (now : Nat) (answers : InterfaceAnswers) (s : System) :
    Memory.Allows (s.processPacket now answers) fun after =>
      after.network.accepted = s.network.accepted ∧
        after.network.dispatched = s.network.dispatched ∧
        after.network.isReceiveWait =
          if s.network.packet.data 0 = 82 ∧ s.network.packet.size ≠ 1 then s.network.isReceiveWait
          else 0 := by
  unfold processPacket
  rw [Memory.allows_bind]
  refine (interfaceSwitch_exit now answers s).mono fun left exit => ?_
  obtain ⟨processed, exit⟩ := left
  obtain ⟨kept, returned⟩ := exit
  cases exit with
  | broke =>
      rw [if_neg fun held => Exit.noConfusion (returned.mpr held)]
      exact (Memory.allows_pure _).mpr ⟨kept.accepted, kept.dispatched, rfl⟩
  | returned =>
      rw [if_pos (returned.mp rfl)]
      exact (Memory.allows_pure _).mpr ⟨kept.accepted, kept.dispatched, kept.waiting⟩

/-- Without a packet, the telemetry leaves the channel alone. -/
theorem interfaceProcessData_idle (now : Nat) (answers : InterfaceAnswers) {s : System}
    (idle : s.network.isReceiveWait = 0) :
    Memory.Allows (s.interfaceProcessData now answers) s.Beside := by
  unfold interfaceProcessData
  rw [if_neg (not_not_intro idle), Memory.allows_ite, Memory.allows_ite, Memory.allows_bind]
  refine ⟨fun _ => (Memory.allows_ok _).mpr (.refl _), fun _ =>
    ⟨fun _ => (Memory.allows_ok _).mpr (.refl _), fun _ => ?_⟩⟩
  refine (Network.ChannelKept.fillBody [82] s.network).mono fun filled kept => ?_
  refine (processPacket_release now answers _).mono fun after released => ?_
  obtain ⟨accepted, dispatched, waiting⟩ := released
  refine ⟨?_, accepted.trans kept.accepted, dispatched.trans kept.dispatched⟩
  rw [waiting, kept.waiting, idle, ite_self]

/-- A waiting packet is dispatched, and released unless it holds a longer INFO_ALL. -/
theorem interfaceProcessData_waiting (now : Nat) (answers : InterfaceAnswers) {s : System}
    (waits : s.network.isReceiveWait ≠ 0) :
    Memory.Allows (s.interfaceProcessData now answers) fun after =>
      after.network.accepted = s.network.accepted ∧
        after.network.dispatched = s.network.packet.body :: s.network.dispatched ∧
        after.network.isReceiveWait =
          if s.network.packet.data 0 = 82 ∧ s.network.packet.size ≠ 1 then s.network.isReceiveWait
          else 0 := by
  unfold interfaceProcessData
  rw [if_pos waits]
  exact processPacket_release now answers _

theorem performSerial_beside (now : Nat) (answers : ChipAnswers) (s : System)
    (command : SerialCommand) : Memory.Allows (s.performSerial now answers command) s.Beside := by
  cases command with
  | deviceToggle | pulsesTotalSet | pulsesPerLiterSet | pulsesTotalAdd | flowStart | flowStop
  | flowPause => exact Memory.allows_entry fun _ => .refl _
  | ping | send =>
      refine Memory.allows_bind.mpr ((Network.ChannelKept.sendBody _ _ _).mono fun sent kept => ?_)
      exact (Memory.allows_pure _).mpr kept
  | restartHard => exact (Memory.allows_ok _).mpr (.internetRestartHard now s.network)
  | restartSoft => exact (Memory.allows_ok _).mpr (.internetRestartSoft now answers s.network)
  | ipRemoteUpdate =>
      exact (Memory.allows_ok _).mpr (.internetIpRemoteUpdate answers.resolved s.network)
  | _ => exact (Memory.allows_ok _).mpr (.refl _)

/-- The serial interface leaves the channel alone. -/
theorem interfaceSerialUpdate_beside (now : Nat) (input : SerialInput) (s : System) :
    Memory.Allows (s.interfaceSerialUpdate now input) s.Beside := by
  refine interfaceSerialUpdate_allows (.refl _) (performSerial_beside now input.answers s)
    fun after kept => ?_
  rw [Beside, flowPrint_network]
  exact kept

/-! ## Iterations -/

/-- An iteration that finds no packet waiting takes at most one frame, dispatches its body, and
releases the packet unless the frame jams it. -/
theorem loop_idle (input : LoopInput) {s : System} (idle : s.network.isReceiveWait = 0) :
    Memory.Allows (s.loop input) fun after => s.Beside after ∨ ∃ frame,
      after.network.accepted = frame :: s.network.accepted ∧
        after.network.dispatched = frameBody frame :: s.network.dispatched ∧
        (after.network.isReceiveWait = 0 ↔ ¬ Jams frame) := by
  unfold loop
  simp only [Memory.allows_bind, interrupted_network, control_network]
  refine (Network.internetUpdate_accepts _ _ _).mono fun n updated => ?_
  rcases updated with quiet | ⟨-, datagram, -, accepts⟩
  · have waiting : ((((s.control input).interrupted input.internet).withNetwork
        n).interrupted input.interface).network.isReceiveWait =
        0 := by
      rw [interrupted_network, withNetwork_network]
      exact quiet.waiting.trans idle
    refine (interfaceProcessData_idle _ _ waiting).mono fun processed kept => ?_
    refine (interfaceSerialUpdate_beside _ _ _).mono fun after serial => .inl ?_
    rw [Beside, interrupted_network] at kept serial
    rw [withNetwork_network] at kept
    exact (quiet.trans kept).trans serial
  · have waiting : ((((s.control input).interrupted input.internet).withNetwork
        n).interrupted input.interface).network.isReceiveWait ≠
        0 := by
      rw [interrupted_network, withNetwork_network, accepts.waiting]
      decide
    refine (interfaceProcessData_waiting _ _ waiting).mono fun processed release => ?_
    refine (interfaceSerialUpdate_beside _ _ _).mono fun after serial =>
      .inr ⟨datagram.bytes, ?_⟩
    simp only [interrupted_network, withNetwork_network] at release
    rw [Beside, interrupted_network] at serial
    obtain ⟨accepted, dispatched, released⟩ := release
    have jams : Jams datagram.bytes ↔ n.packet.data 0 = 82 ∧ n.packet.size ≠ 1 := by
      have one : n.packet.size = 1 ↔ n.packet.size.toNat = 1 := UInt8.toNat_inj.symm
      rw [Jams, ← accepts.body, Packet.head_body accepts.nonempty,
        Packet.length_body accepts.fits, Option.some_inj, Ne, Ne, one]
    refine ⟨?_, ?_, ?_⟩
    · rw [serial.accepted, accepted, accepts.accepted]
    · rw [serial.dispatched, dispatched, accepts.dispatched, ← accepts.body]
    · rw [serial.waiting, released, accepts.waiting, jams]
      by_cases held : n.packet.data 0 = 82 ∧ n.packet.size ≠ 1 <;> simp [held]

/-- An iteration that finds a packet waiting receives nothing and dispatches the packet again. -/
theorem loop_waiting (input : LoopInput) {s : System} (waits : s.network.isReceiveWait ≠ 0) :
    Memory.Allows (s.loop input) fun after =>
      after.network.accepted = s.network.accepted ∧
        ∃ body, after.network.dispatched = body :: s.network.dispatched := by
  unfold loop
  simp only [Memory.allows_bind, interrupted_network, control_network]
  refine (Network.internetUpdate_accepts _ _ _).mono fun n updated => ?_
  rcases updated with quiet | ⟨idle, -⟩
  · have waiting : ((((s.control input).interrupted input.internet).withNetwork
        n).interrupted input.interface).network.isReceiveWait ≠
        0 := by
      rw [interrupted_network, withNetwork_network, quiet.waiting]
      exact waits
    refine (interfaceProcessData_waiting _ _ waiting).mono fun processed release => ?_
    refine (interfaceSerialUpdate_beside _ _ _).mono fun after serial => ?_
    simp only [interrupted_network, withNetwork_network] at release
    rw [Beside, interrupted_network] at serial
    obtain ⟨accepted, dispatched, -⟩ := release
    refine ⟨?_, n.packet.body, ?_⟩
    · rw [serial.accepted, accepted, quiet.accepted]
    · rw [serial.dispatched, dispatched, quiet.dispatched]
  · exact absurd idle waits

/-! ## Runs -/

end System

namespace Network

/-- No packet waits, and each frame accepted has been dispatched once. -/
structure Clear (n : Network) : Prop where
  waiting : n.isReceiveWait = 0
  once : n.dispatched = n.accepted.map frameBody
  released : ∀ frame ∈ n.accepted, ¬ Jams frame

/-- A frame has jammed the channel: it waits, or it has been dispatched too often. -/
structure Jammed (n : Network) : Prop where
  jams : ∃ frame ∈ n.accepted, Jams frame
  behind : n.accepted.length ≤ n.dispatched.length
  stuck : n.isReceiveWait ≠ 0 ∨ n.accepted.length < n.dispatched.length

end Network

namespace System

variable [FlowArithmetic]

theorem clear_loop (input : LoopInput) {s : System} (clear : s.network.Clear) :
    Memory.Allows (s.loop input) fun after => after.network.Clear ∨ after.network.Jammed := by
  refine (loop_idle input clear.waiting).mono fun after iteration => ?_
  rcases iteration with kept | ⟨frame, accepted, dispatched, released⟩
  · left
    constructor
    · exact kept.waiting.trans clear.waiting
    · rw [kept.dispatched, kept.accepted, clear.once]
    · rw [kept.accepted]
      exact clear.released
  · have once : after.network.dispatched = after.network.accepted.map frameBody := by
      rw [dispatched, accepted, clear.once, List.map_cons]
    by_cases jams : Jams frame
    · right
      constructor
      · exact ⟨frame, by simp [accepted], jams⟩
      · rw [once, List.length_map]
      · exact .inl fun waiting => released.mp waiting jams
    · left
      constructor
      · exact released.mpr jams
      · exact once
      · rw [accepted, List.forall_mem_cons]
        exact ⟨jams, clear.released⟩

theorem jammed_loop (input : LoopInput) {s : System} (jammed : s.network.Jammed) :
    Memory.Allows (s.loop input) fun after => after.network.Jammed := by
  obtain ⟨⟨jamming, before, jams⟩, behind, stuck⟩ := jammed
  by_cases idle : s.network.isReceiveWait = 0
  · have ahead : s.network.accepted.length < s.network.dispatched.length := by
      rcases stuck with waits | ahead
      · exact absurd idle waits
      · exact ahead
    refine (loop_idle input idle).mono fun after iteration => ?_
    rcases iteration with kept | ⟨frame, accepted, dispatched, -⟩
    · have still : after.network.accepted.length < after.network.dispatched.length := by
        rw [kept.accepted, kept.dispatched]
        exact ahead
      refine ⟨⟨jamming, ?_, jams⟩, still.le, .inr still⟩
      rw [kept.accepted]
      exact before
    · have still : after.network.accepted.length < after.network.dispatched.length := by
        rw [accepted, dispatched, List.length_cons, List.length_cons]
        omega
      refine ⟨⟨jamming, ?_, jams⟩, still.le, .inr still⟩
      rw [accepted]
      exact List.mem_cons_of_mem frame before
  · refine (loop_waiting input idle).mono fun after iteration => ?_
    obtain ⟨accepted, body, dispatched⟩ := iteration
    have still : after.network.accepted.length < after.network.dispatched.length := by
      rw [accepted, dispatched, List.length_cons]
      omega
    refine ⟨⟨jamming, ?_, jams⟩, still.le, .inr still⟩
    rw [accepted]
    exact before

omit [FlowArithmetic] in
theorem setup_clear (now : Nat) (answers : ChipAnswers) :
    (System.setup now answers).network.Clear := by
  have initialised : Network.ChannelKept Network.unset (System.setup now answers).network :=
    .internetInit now answers Network.unset
  constructor
  · exact initialised.waiting
  · rw [initialised.accepted, initialised.dispatched]
    rfl
  · rw [initialised.accepted]
    exact List.forall_mem_nil _

/-- In a run of `loop()`, the channel is free after an iteration, with every accepted frame
dispatched once and in order, exactly as long as no access has left its array and no accepted frame
jams the channel. -/
theorem channel_released (now : Nat) (answers : ChipAnswers) (inputs : List LoopInput) :
    Memory.Ensures ((System.setup now answers).after inputs) (fun s =>
        s.network.isReceiveWait = 0 ∧ s.network.dispatched = s.network.accepted.map frameBody) ↔
      Memory.Ensures ((System.setup now answers).after inputs) fun s =>
        ∀ frame ∈ s.network.accepted, ¬ Jams frame := by
  have reached : Memory.Allows ((System.setup now answers).after inputs) fun s =>
      s.network.Clear ∨ s.network.Jammed := by
    refine after_allows (.inl (setup_clear now answers)) (fun s input channel => ?_) inputs
    rcases channel with clear | jammed
    · exact clear_loop input clear
    · exact (jammed_loop input jammed).mono fun after jammed => .inr jammed
  refine Memory.Allows.ensures_congr (reached.mono fun s channel => ?_)
  rcases channel with clear | jammed
  · exact ⟨fun _ => clear.released, fun _ => ⟨clear.waiting, clear.once⟩⟩
  · obtain ⟨⟨frame, accepted, jams⟩, -, stuck⟩ := jammed
    constructor
    · rintro ⟨waiting, once⟩
      rcases stuck with waits | ahead
      · exact absurd waiting waits
      · rw [once, List.length_map] at ahead
        exact absurd ahead (Nat.lt_irrefl _)
    · exact fun released => absurd jams (released frame accepted)

end System

/-- An iteration in which nothing happens but that this datagram arrives. -/
def onlyReceives (now : Nat) (datagram : Datagram) : LoopInput :=
  let moment : Moment := ⟨[], now⟩
  { device := moment
    sensorFlow := moment
    sensorPressure := moment
    controlFlow := moment
    irrigation := moment
    internet := moment
    interface := moment
    interfaceSerial := moment
    readings := fun _ => 0
    chip :=
      { ethernetBegins := true
        udpBegins := true
        resolved := some datagram.ip
        isSent := true
        arrived := some datagram
        later := now }
    answers := ⟨fun _ => true, now⟩
    serial := ⟨false, [], ⟨true, true, none, true, none, now⟩⟩ }

/-- An INFO_ALL frame with a second body byte keeps the flag, is dispatched again in the next
iteration, and keeps that iteration from receiving a STOP frame. -/
theorem channel_not_released :
    let infoAll : Datagram := ⟨167772161, internetRemotePort, [2, 3, 170, 82, 0, 4], by decide⟩
    let stop : Datagram := ⟨167772161, internetRemotePort, [2, 2, 170, 84, 4], by decide⟩
    let first := onlyReceives 4000 infoAll
    let second := onlyReceives 4100 stop
    (((System.setup 3000 first.chip).after [second, first]).map fun s =>
      (s.network.isReceiveWait, s.network.accepted, s.network.dispatched)) =
      .ok (1, [infoAll.bytes], [[82, 0], [82, 0]]) :=
  rfl

end BlueberryIrrigation
