import BlueberryIrrigation.Interface.Release
import BlueberryIrrigation.Network.Chip

/-!
# The reset discipline of the Ethernet chip

The main loop and the operator call the network in any order. The pin follows the status, and the
libraries are used only when the chip is ready for them, as long as `internet_restart_soft` is not
called while the status is RESTARTING: it alone leaves that status without raising the pin.
-/

namespace BlueberryIrrigation

open Semantics

/-- The calls of the network that `setup()`, `loop()` and the operator make. -/
inductive NetworkCall where
  | init (now : Nat) (answers : LibraryAnswers)
  | update (now : Nat) (answers : LibraryAnswers)
  | restartHard (now : Nat)
  | restartSoft (now : Nat) (answers : LibraryAnswers)
  | ipRemoteUpdate (answers : LibraryAnswers)
  | send (bytes : List UInt8) (answers : LibraryAnswers)
  /-- `interface_update` is done with the packet that waits. -/
  | packetTaken

namespace NetworkCall

def perform (n : Network) : NetworkCall → Except OutOfBounds Network
  | .init now answers => .ok (n.internetInit now answers.chip)
  | .update now answers => n.internetUpdate now answers.chip
  | .restartHard now => .ok (n.internetRestartHard now)
  | .restartSoft now answers => .ok (n.internetRestartSoft now answers.chip)
  | .ipRemoteUpdate answers => .ok (n.internetIpRemoteUpdate answers.resolved).1
  | .send bytes answers => n.sendBody answers.chip.isSent bytes
  | .packetTaken => .ok { n with isReceiveWait := 0 }

def chipEvents (n : Network) : NetworkCall → List ChipEvent
  | .init _ answers => n.internetInitEvents answers
  | .update now answers => n.internetUpdateEvents now answers
  | .restartHard _ => Network.internetRestartHardEvents
  | .restartSoft _ answers => n.internetRestartSoftEvents answers
  | .ipRemoteUpdate _ => n.internetIpRemoteUpdateEvents
  | .send bytes answers => n.sendBodyEvents answers bytes
  | .packetTaken => []

/-- `internet_restart_soft` is not called while the chip is held in reset. -/
def Waits (n : Network) : NetworkCall → Prop
  | .restartSoft _ _ => n.status ≠ .restarting
  | _ => True

end NetworkCall

namespace Network

/-- The network after these calls, the newest first. -/
def afterCalls : List NetworkCall → Except OutOfBounds Network
  | [] => .ok unset
  | call :: prior => do
      let n ← afterCalls prior
      call.perform n

/-- What these calls have done to the chip, the oldest first, up to the one that leaves an array
if one does. -/
def chipTrace : List NetworkCall → List ChipEvent
  | [] => []
  | call :: prior =>
      chipTrace prior ++
        match afterCalls prior with
        | .ok n => call.chipEvents n
        | .error _ => []

/-- Each soft restart among these calls has waited for the end of a hard one. -/
def RestartsWait : List NetworkCall → Prop
  | [] => True
  | call :: prior => RestartsWait prior ∧ ∀ n, afterCalls prior = .ok n → call.Waits n

/-- The discipline over a run. -/
structure Disciplined (calls : List NetworkCall) : Prop where
  /-- After every call the pin is LOW exactly when the status is RESTARTING. -/
  pin : ∀ earlier, earlier <:+ calls → ∀ n, afterCalls earlier = .ok n →
    (n.resetPins.head? = some false ↔ n.status = .restarting)
  /-- No library call is made while the pin is LOW. -/
  powered : ∀ before call later, chipTrace calls = before ++ .call call :: later →
    (chipMonitor.run .initial before).isLow = false
  /-- No UDP call sends or receives before both `begin` have succeeded. -/
  begun : ∀ before call later, chipTrace calls = before ++ .call call :: later →
    call.transfers = true →
      (chipMonitor.run .initial before).ethernetBegun = true ∧
        (chipMonitor.run .initial before).udpBegun = true

/-! ## The pin and the status -/

/-- Neither the status nor the pin has changed. -/
structure PinKept (before after : Network) : Prop where
  status : after.status = before.status
  resetPins : after.resetPins = before.resetPins

theorem Outgoing.pinKept {before after : Network} (outgoing : Outgoing before after) :
    PinKept before after :=
  ⟨outgoing.status, outgoing.events _ fun _ _ _ => rfl⟩

namespace PinKept

variable {first second third : Network}

theorem trans (before : PinKept first second) (after : PinKept second third) :
    PinKept first third :=
  ⟨after.status.trans before.status, after.resetPins.trans before.resetPins⟩

theorem of_eq (status : second.status = first.status) (events : second.events = first.events) :
    PinKept first second := by
  refine ⟨status, ?_⟩
  rw [Network.resetPins, Network.resetPins, events]

theorem internetReceive (now : Nat) (n : Network) :
    Memory.Allows (n.internetReceive now) (PinKept n) := by
  have untouched {after : Network} (status : after.status = n.status)
      (events : after.events = n.events) : PinKept n after := of_eq status events
  unfold Network.internetReceive
  simp only [Memory.allows_bind, Memory.allows_ite, Memory.allows_pure]
  refine ⟨fun _ => untouched rfl rfl, fun _ => ⟨fun _ => untouched rfl rfl, fun _ =>
    ⟨fun _ => untouched rfl rfl, fun _ => ⟨fun _ => untouched rfl rfl, fun _ =>
    ⟨fun _ => untouched rfl rfl, fun _ => ⟨fun _ => untouched rfl rfl, fun _ =>
    ⟨fun _ => untouched rfl rfl, fun _ => ⟨fun _ => untouched rfl rfl, fun _ =>
    (allows_receiveBody (Nat.zero_le _)).mono fun copied => ?_⟩⟩⟩⟩⟩⟩⟩⟩
  rintro ⟨-, rfl⟩
  exact ⟨fun _ => untouched rfl rfl, fun _ => ⟨rfl, rfl⟩⟩

theorem internetPoll (now : Nat) (arrived : Option Datagram) (n : Network) :
    Memory.Allows (n.internetPoll now arrived) (PinKept n) := by
  have parsing : PinKept n (n.parsePacket arrived) := of_eq rfl rfl
  unfold Network.internetPoll
  rw [Memory.allows_ite]
  exact ⟨fun _ => (internetReceive now _).mono fun after kept => parsing.trans kept, fun _ =>
    (Memory.allows_ok _).mpr parsing⟩

end PinKept

/-- A soft restart leaves the pin alone and has a status of its own. -/
theorem internetRestartSoft_pin (now : Nat) (answers : ChipAnswers) (n : Network) :
    (n.internetRestartSoft now answers).resetPins = n.resetPins ∧
      (n.internetRestartSoft now answers).status =
        if answers.ethernetBegins = true ∧ answers.udpBegins = true then .ready
        else .uninitialized := by
  unfold internetRestartSoft
  dsimp only
  split
  · next refused => exact ⟨rfl, by simp [refused]⟩
  · next begun =>
      split
      · next refused => exact ⟨rfl, by simp [refused]⟩
      · next listening =>
          rw [if_pos ⟨Bool.not_eq_false _ ▸ begun, Bool.not_eq_false _ ▸ listening⟩]
          generalize ready :
            ({ n with
              status := .ready
              timeReceiveLast := millis now
              udp.remaining := [] } : Network) = restarted
          have kept := (Outgoing.internetIpRemoteUpdate answers.resolved restarted).pinKept
          have pins : restarted.resetPins = n.resetPins := by rw [← ready]; rfl
          have status : restarted.status = .ready := by rw [← ready]
          rcases result : restarted.internetIpRemoteUpdate answers.resolved with ⟨after, success⟩
          rw [result] at kept
          cases success with
          | false => exact ⟨kept.resetPins.trans pins, kept.status.trans status⟩
          | true => exact ⟨kept.resetPins.trans pins, kept.status.trans status⟩

/-! ## What the chip sees -/

/-- Nothing but calls that send or receive. -/
def Transfers (events : List ChipEvent) : Prop :=
  ∀ event ∈ events, ∃ call : LibraryCall, event = .call call ∧ call.transfers = true

theorem Transfers.passes {c : ChipState} {events : List ChipEvent} (transfers : Transfers events)
    (powered : c.isLow = false) (begun : c.ethernetBegun = true ∧ c.udpBegun = true) :
    chipMonitor.Passes c events c := by
  refine .idle fun event member => ?_
  obtain ⟨call, rfl, isTransfer⟩ := transfers event member
  refine ⟨⟨powered, fun _ => begun⟩, ?_⟩
  cases call <;> first | rfl | cases isTransfer

theorem Transfers.append {events rest : List ChipEvent} (first : Transfers events)
    (second : Transfers rest) : Transfers (events ++ rest) := by
  intro event member
  rcases List.mem_append.mp member with before | after
  · exact first event before
  · exact second event after

theorem readEvents_transfers (reads : Nat) : Transfers (readEvents reads) := by
  intro event member
  simp only [readEvents, List.mem_cons, List.mem_append, List.mem_replicate, List.not_mem_nil,
    or_false] at member
  rcases member with rfl | rfl | ⟨-, rfl⟩ | rfl <;> exact ⟨_, rfl, rfl⟩

theorem internetReceiveEvents_transfers (n : Network) : Transfers n.internetReceiveEvents := by
  unfold internetReceiveEvents
  dsimp only
  split
  · simp [Transfers, LibraryCall.transfers]
  · split_ifs <;> exact readEvents_transfers _

theorem internetPollEvents_transfers (arrived : Option Datagram) (n : Network) :
    Transfers (n.internetPollEvents arrived) := by
  intro event member
  unfold internetPollEvents at member
  rcases List.mem_cons.mp member with rfl | received
  · exact ⟨_, rfl, rfl⟩
  · split at received
    · exact internetReceiveEvents_transfers _ event received
    · cases received

theorem internetSendEvents_transfers (answers : LibraryAnswers) (n : Network) :
    Transfers (n.internetSendEvents answers) := by
  unfold internetSendEvents
  split_ifs <;> simp [Transfers, LibraryCall.transfers]

theorem internetPingEvents_transfers (now : Nat) (answers : LibraryAnswers) (n : Network) :
    Transfers (n.internetPingEvents now answers) := by
  unfold internetPingEvents
  split
  · exact internetSendEvents_transfers answers n
  · exact fun _ member => absurd member List.not_mem_nil

/-- A soft restart, while the pin is HIGH. -/
theorem internetRestartSoftEvents_passes {c : ChipState} (answers : LibraryAnswers) (n : Network)
    (powered : c.isLow = false) :
    chipMonitor.Passes c (n.internetRestartSoftEvents answers)
      { c with
        ethernetBegun := c.ethernetBegun || answers.ethernetBegins
        udpBegun := c.udpBegun || (answers.ethernetBegins && answers.udpBegins) } := by
  unfold internetRestartSoftEvents internetIpRemoteUpdateEvents
  split_ifs <;> constructor <;>
    simp_all [chipMonitor, ChipState.next, ChipState.Permits, LibraryCall.transfers]

/-- The first call of a soft restart is refused while the pin is LOW. -/
theorem internetRestartSoftEvents_refused {c : ChipState} (answers : LibraryAnswers) (n : Network)
    (low : c.isLow = true) : ¬ chipMonitor.Accepts c (n.internetRestartSoftEvents answers) := by
  unfold internetRestartSoftEvents
  split <;> simp [chipMonitor, ChipState.Permits, low]

/-! ## One call -/

/-- The chip is in the state that the variables say. -/
structure Matches (n : Network) (c : ChipState) : Prop where
  pin : c.isLow = true ↔ n.resetPins.head? = some false
  restarting : c.isLow = true ↔ n.status = .restarting
  begun : n.status = .ready → c.ethernetBegun = true ∧ c.udpBegun = true

variable {n after : Network} {c : ChipState}

theorem Matches.kept (matched : Matches n c) (kept : PinKept n after) : Matches after c where
  pin := by rw [kept.resetPins, matched.pin]
  restarting := by rw [kept.status, matched.restarting]
  begun ready := matched.begun (kept.status ▸ ready)

/-- Outside RESTARTING the pin is HIGH. -/
theorem Matches.powered (matched : Matches n c) (other : n.status ≠ .restarting) :
    c.isLow = false :=
  Bool.eq_false_iff.mpr fun low => other (matched.restarting.mp low)

/-- A call may do these things to the chip and have this result. -/
def Keeps (c : ChipState) (events : List ChipEvent) (result : Except OutOfBounds Network) : Prop :=
  ∃ next, chipMonitor.Passes c events next ∧ Memory.Allows result (Matches · next)

/-- What is sent from READY needs nothing more. -/
theorem Matches.transfer {events : List ChipEvent} {result : Except OutOfBounds Network}
    (matched : Matches n c) (transfers : n.status = .ready → Transfers events)
    (silent : n.status ≠ .ready → events = []) (kept : Memory.Allows result (PinKept n)) :
    Keeps c events result := by
  refine ⟨c, ?_, kept.mono fun after same => matched.kept same⟩
  by_cases ready : n.status = .ready
  · exact (transfers ready).passes (matched.powered (by simp [ready])) (matched.begun ready)
  · rw [silent ready]
    exact .nil

theorem Keeps.restartHard (now : Nat) (c : ChipState) (n : Network) :
    Keeps c internetRestartHardEvents (.ok (n.internetRestartHard now)) := by
  refine ⟨⟨true, false, false⟩, .cons trivial .nil, (Memory.allows_ok _).mpr ?_⟩
  exact ⟨by simp [internetRestartHard, resetPins, record], by simp [internetRestartHard],
    fun ready => by cases ready⟩

/-- The pin is HIGH, whatever the status says: `internet_init` has just raised it. -/
theorem Keeps.restartSoft (now : Nat) (answers : LibraryAnswers)
    (high : n.resetPins.head? ≠ some false) (powered : c.isLow = false) :
    Keeps c (n.internetRestartSoftEvents answers)
      (.ok (n.internetRestartSoft now answers.chip)) := by
  obtain ⟨pins, status⟩ := internetRestartSoft_pin now answers.chip n
  refine ⟨_, internetRestartSoftEvents_passes answers n powered, (Memory.allows_ok _).mpr ?_⟩
  constructor
  · simp [pins, high, powered]
  · rw [status]
    split <;> simp [powered]
  · rw [status]
    split
    · next both =>
        obtain ⟨ethernet, udp⟩ := both
        change answers.ethernetBegins = true at ethernet
        change answers.udpBegins = true at udp
        simp [ethernet, udp]
    · exact fun ready => by cases ready

theorem Matches.internetUpdate (now : Nat) (answers : LibraryAnswers) (matched : Matches n c) :
    Keeps c (n.internetUpdateEvents now answers) (n.internetUpdate now answers.chip) := by
  have quiet : Keeps c [] (.ok n) := ⟨c, .nil, (Memory.allows_ok n).mpr matched⟩
  unfold Network.internetUpdate internetUpdateEvents
  cases status : n.status with
  | restarting =>
      dsimp only
      split
      · exact quiet
      · refine ⟨{ c with isLow := false }, .cons trivial .nil, (Memory.allows_ok _).mpr ?_⟩
        exact ⟨by simp [resetPins, record], by simp, fun ready => by cases ready⟩
  | initializing =>
      dsimp only
      split
      · exact quiet
      · have powered := matched.powered (by simp [status])
        exact .restartSoft now answers (by simp [← matched.pin, powered]) powered
  | uninitialized =>
      dsimp only
      split
      · exact .restartHard now c n
      · exact quiet
  | ready =>
      dsimp only
      split
      · exact .restartHard now c n
      · split
        · exact quiet
        · have pinging := (Outgoing.internetPing now answers.chip n).mono
            fun pinged outgoing => outgoing.pinKept
          refine matched.transfer (fun _ => ?_) (absurd status) ?_
          · refine (internetPingEvents_transfers now answers n).append ?_
            split
            · exact internetPollEvents_transfers answers.arrived _
            · exact fun _ member => absurd member List.not_mem_nil
          · rw [Memory.allows_bind]
            exact pinging.mono fun pinged kept =>
              (PinKept.internetPoll _ _ pinged).mono fun polled same => kept.trans same

/-- `internet_init` raises the pin before it restarts. -/
theorem Keeps.init (now : Nat) (answers : LibraryAnswers) (c : ChipState) (n : Network) :
    Keeps c (n.internetInitEvents answers) (.ok (n.internetInit now answers.chip)) := by
  have raised : chipMonitor.Passes c [.resetPin true, .call .ethernetInit]
      { c with isLow := false } :=
    .cons trivial (.cons ⟨rfl, fun transfers => by cases transfers⟩ .nil)
  obtain ⟨next, passes, matched⟩ := Keeps.restartSoft (c := { c with isLow := false })
    (n := { n.record (.resetPin true) with
      packet.port := internetRemotePort
      packet.id := arduinoId }) now answers (by simp [resetPins, record]) rfl
  exact ⟨next, raised.append passes, matched⟩

theorem Matches.ipRemoteUpdate (answers : LibraryAnswers) (matched : Matches n c) :
    Keeps c n.internetIpRemoteUpdateEvents (.ok (n.internetIpRemoteUpdate answers.resolved).1) := by
  have kept := (Outgoing.internetIpRemoteUpdate answers.resolved n).pinKept
  refine ⟨c, ?_, (Memory.allows_ok _).mpr (matched.kept kept)⟩
  unfold internetIpRemoteUpdateEvents
  split
  · exact .nil
  · next ready =>
      have powered := matched.powered (by simp [not_not.mp ready])
      exact .cons ⟨powered, fun transfers => by cases transfers⟩ .nil

theorem Matches.sendBody (answers : LibraryAnswers) (bytes : List UInt8) (matched : Matches n c) :
    Keeps c (n.sendBodyEvents answers bytes) (n.sendBody answers.chip.isSent bytes) := by
  refine matched.transfer (fun _ => ?_) (fun other => ?_)
    ((Outgoing.sendBody _ bytes n).mono fun sent outgoing => outgoing.pinKept)
  · unfold sendBodyEvents
    split
    · exact internetSendEvents_transfers answers _
    · exact fun _ member => absurd member List.not_mem_nil
  · unfold sendBodyEvents
    split
    · next filled same =>
        have status := (Outgoing.fillBody bytes n filled same).status
        rw [internetSendEvents, if_pos (status ▸ other)]
    · rfl

/-- The step lemma: a call that waits keeps the chip in step with the variables. -/
theorem Matches.call (matched : Matches n c) {call : NetworkCall} (waits : call.Waits n) :
    Keeps c (call.chipEvents n) (call.perform n) := by
  cases call with
  | init now answers => exact .init now answers c n
  | update now answers => exact matched.internetUpdate now answers
  | restartHard now => exact .restartHard now c n
  | restartSoft now answers =>
      have powered := matched.powered waits
      exact .restartSoft now answers (by simp [← matched.pin, powered]) powered
  | ipRemoteUpdate answers => exact matched.ipRemoteUpdate answers
  | send bytes answers => exact matched.sendBody answers bytes
  | packetTaken => exact ⟨c, .nil, (Memory.allows_ok _).mpr (matched.kept (.of_eq rfl rfl))⟩

/-! ## Every run -/

theorem RestartsWait.earlier {earlier calls : List NetworkCall} (waits : RestartsWait calls)
    (suffix : earlier <:+ calls) : RestartsWait earlier := by
  induction calls with
  | nil => rwa [List.suffix_nil.mp suffix]
  | cons call prior ih =>
      rcases List.suffix_cons_iff.mp suffix with rfl | shorter
      · exact waits
      · exact ih waits.1 shorter

/-- The run lemma: the chip stays in step with the variables. -/
theorem RestartsWait.keeps {calls : List NetworkCall} (waits : RestartsWait calls) :
    Keeps .initial (chipTrace calls) (afterCalls calls) := by
  induction calls with
  | nil =>
      refine ⟨.initial, .nil, (Memory.allows_ok unset).mpr ?_⟩
      exact ⟨by decide, by decide, fun ready => by cases ready⟩
  | cons call prior ih =>
      obtain ⟨c, passes, matched⟩ := ih waits.1
      rw [chipTrace, afterCalls]
      cases result : afterCalls prior with
      | error outside => exact ⟨c, passes.append .nil, Memory.allows_error _⟩
      | ok n =>
          obtain ⟨next, after, kept⟩ := (matched n result).call (waits.2 n result)
          exact ⟨next, passes.append after, kept⟩

/-- What the monitor accepts has no soft restart while the pin is LOW. -/
theorem restartsWait_of_accepts {calls : List NetworkCall}
    (accepted : chipMonitor.Accepts .initial (chipTrace calls)) : RestartsWait calls := by
  induction calls with
  | nil => trivial
  | cons call prior ih =>
      obtain ⟨before, here⟩ := Monitor.accepts_append.mp accepted
      have waits := ih before
      refine ⟨waits, fun n result => ?_⟩
      obtain ⟨c, passes, matched⟩ := waits.keeps
      rw [passes.reaches, result] at here
      cases call with
      | restartSoft now answers =>
          intro restarting
          have low := (matched n result).restarting.mpr restarting
          exact internetRestartSoftEvents_refused answers n low here
      | init | update | restartHard | ipRemoteUpdate | send | packetTaken => trivial

/-- The discipline holds over a run exactly when no `internet_restart_soft` is called while the
status is RESTARTING. -/
theorem reset_discipline (calls : List NetworkCall) : Disciplined calls ↔ RestartsWait calls := by
  constructor
  · intro disciplined
    refine restartsWait_of_accepts (Monitor.accepts_iff.mpr fun before event later split => ?_)
    cases event with
    | resetPin isHigh => trivial
    | call call =>
        exact ⟨disciplined.powered before call later split,
          disciplined.begun before call later split⟩
  · intro waits
    obtain ⟨c, passes, -⟩ := waits.keeps
    have permits := Monitor.accepts_iff.mp passes.accepted
    refine ⟨fun earlier suffix n result => ?_, fun before call later split => ?_,
      fun before call later split => ?_⟩
    · obtain ⟨chip, -, matched⟩ := (waits.earlier suffix).keeps
      have held := matched n result
      rw [← held.pin, held.restarting]
    · exact (permits before (.call call) later split).1
    · exact (permits before (.call call) later split).2

/-- Every library call succeeds, and nothing has arrived. -/
def connected : LibraryAnswers where
  ethernetBegins := true
  hasHardware := true
  udpBegins := true
  resolved := some 1
  packetBegins := true
  packetEnds := true
  arrived := none
  later := 0

/-- A soft restart one second after a hard one: `Ethernet.begin` is called while the pin is LOW,
and the status becomes READY there. -/
theorem restart_in_reset :
    let calls : List NetworkCall :=
      [.restartSoft 5000 connected, .restartHard 4000, .init 3000 connected]
    ¬ Disciplined calls ∧
      ∃ n, afterCalls calls = .ok n ∧ n.status = .ready ∧ n.resetPins.head? = some false := by
  refine ⟨fun disciplined => ?_, _, rfl, rfl, rfl⟩
  have low := disciplined.powered
    (chipTrace [.restartHard 4000, .init 3000 connected]) (.ethernetBegin true) _ rfl
  exact absurd low (by decide)

end Network
end BlueberryIrrigation
