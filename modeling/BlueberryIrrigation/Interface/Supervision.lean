import BlueberryIrrigation.Interface.Discipline

/-!
# The supervision of the network in real time

`internet_update` looks at two stamps: when the network last showed life, and when the reset pin
was last switched. `UpdateTurn` says all that one update can do with them. Whatever the operator
and the libraries do, the stamps are the real times of those events, so the chip is reset only
after 17 s of silence, held for 3 s and left alone for another 3 s.
-/

namespace BlueberryIrrigation

open Semantics

namespace Network

/-- Outside the two phases of a hard restart. -/
def Listening (n : Network) : Prop := n.status = .uninitialized ∨ n.status = .ready

/-- The wait since `time_restart_last` is over. -/
def RestartWaitOver (now : Nat) (n : Network) : Prop :=
  ¬ millis now - n.timeRestartLast < internetTimeRestartWait

/-- `INTERNET_TIME_RECEIVE_LAST_MAX` has passed since `time_receive_last`. -/
def Silent (now : Nat) (n : Network) : Prop :=
  internetTimeReceiveLastMax ≤ millis now - n.timeReceiveLast

/-- The update reaches the ping and the poll. -/
def Attends (now : Nat) (n : Network) : Prop :=
  n.status = .ready ∧ ¬ n.Silent now ∧ n.isReceiveWait = 0

/-- A datagram that is not empty has come from the server's address and port. -/
def FromServer (arrived : Option Datagram) (n : Network) : Prop :=
  ∃ datagram ∈ arrived, UInt8.ofNat datagram.bytes.length ≠ 0 ∧ datagram.ip = n.ipRemote ∧
    datagram.port = internetRemotePort

/-- The update hears the server. -/
def Hears (now : Nat) (arrived : Option Datagram) (n : Network) : Prop :=
  n.Attends now ∧ n.FromServer arrived

/-- The update pings the server. -/
def Pings (now : Nat) (n : Network) : Prop :=
  n.Attends now ∧ internetTimePingSendInterval ≤ millis now - n.timePingSendLast

/-- The update calls `internet_restart_soft`. -/
def Restarts (now : Nat) (n : Network) : Prop :=
  n.status = .initializing ∧ n.RestartWaitOver now

section

variable (now : Nat) (arrived : Option Datagram) (n : Network)

instance decidableSilent : Decidable (n.Silent now) :=
  inferInstanceAs (Decidable (internetTimeReceiveLastMax ≤ millis now - n.timeReceiveLast))

instance decidableFromServer : Decidable (n.FromServer arrived) :=
  inferInstanceAs (Decidable (∃ datagram ∈ arrived, UInt8.ofNat datagram.bytes.length ≠ 0 ∧
    datagram.ip = n.ipRemote ∧ datagram.port = internetRemotePort))

instance decidableAttends : Decidable (n.Attends now) :=
  inferInstanceAs (Decidable (_ ∧ _ ∧ _))

instance decidableHears : Decidable (n.Hears now arrived) := inferInstanceAs (Decidable (_ ∧ _))

instance decidablePings : Decidable (n.Pings now) := inferInstanceAs (Decidable (_ ∧ _))

instance decidableRestarts : Decidable (n.Restarts now) :=
  inferInstanceAs (Decidable (_ ∧ ¬ millis now - n.timeRestartLast < internetTimeRestartWait))

end

/-- The stamps of reception and ping are these; restart stamp and address are as before. -/
structure Stamped (before : Network) (received pinged : UInt32) (after : Network) : Prop where
  timeRestartLast : after.timeRestartLast = before.timeRestartLast
  ipRemote : after.ipRemote = before.ipRemote
  timeReceiveLast : after.timeReceiveLast = received
  timePingSendLast : after.timePingSendLast = pinged

/-! ## What one update does -/

/-- A reception is stamped when the sender is the server, whatever the frame. -/
theorem internetReceive_stamps (now : Nat) (n : Network) :
    Memory.Allows (n.internetReceive now) (Stamped n
      (if n.udp.remoteIp = n.ipRemote ∧ n.udp.remotePort = internetRemotePort then millis now
        else n.timeReceiveLast) n.timePingSendLast) := by
  unfold internetReceive
  simp only [Memory.allows_bind, Memory.allows_ite, Memory.allows_pure]
  refine ⟨fun other => ⟨rfl, rfl, ?_, rfl⟩, fun same => ⟨fun other => ⟨rfl, rfl, ?_, rfl⟩,
    fun port => ?_⟩⟩
  · rw [if_neg fun both => other both.1]
  · rw [if_neg fun both => other both.2]
  · rw [if_pos ⟨not_not.mp same, not_not.mp port⟩]
    refine ⟨fun _ => ⟨rfl, rfl, rfl, rfl⟩, fun _ => ⟨fun _ => ⟨rfl, rfl, rfl, rfl⟩, fun _ =>
      ⟨fun _ => ⟨rfl, rfl, rfl, rfl⟩, fun _ => ⟨fun _ => ⟨rfl, rfl, rfl, rfl⟩, fun _ =>
      ⟨fun _ => ⟨rfl, rfl, rfl, rfl⟩, fun _ => ⟨fun _ => ⟨rfl, rfl, rfl, rfl⟩, fun _ =>
      (allows_receiveBody (Nat.zero_le _)).mono fun copied => ?_⟩⟩⟩⟩⟩⟩
    rintro ⟨-, rfl⟩
    exact ⟨fun _ => ⟨rfl, rfl, rfl, rfl⟩, fun _ => ⟨rfl, rfl, rfl, rfl⟩⟩

/-- The poll of an update. -/
theorem internetPoll_stamps (now : Nat) (arrived : Option Datagram) (n : Network) :
    Memory.Allows (n.internetPoll now arrived) (Stamped n
      (if n.FromServer arrived then millis now else n.timeReceiveLast) n.timePingSendLast) := by
  unfold internetPoll
  rw [Memory.allows_ite]
  constructor
  · intro nonempty
    refine (internetReceive_stamps now (n.parsePacket arrived)).mono fun after stamps => ?_
    cases arrived with
    | none => exact absurd rfl nonempty
    | some datagram =>
        have server : n.FromServer (some datagram) ↔
            datagram.ip = n.ipRemote ∧ datagram.port = internetRemotePort := by
          constructor
          · rintro ⟨same, equal, -, sender⟩
            cases equal
            exact sender
          · exact fun sender => ⟨datagram, rfl, nonempty, sender⟩
        refine ⟨stamps.timeRestartLast, stamps.ipRemote, ?_, stamps.timePingSendLast⟩
        simp only [server]
        exact stamps.timeReceiveLast
  · intro empty
    refine (Memory.allows_ok _).mpr ⟨rfl, rfl, ?_, rfl⟩
    rw [if_neg]
    · rfl
    · rintro ⟨datagram, rfl, nonempty, -⟩
      exact empty nonempty

/-- The ping of an update. -/
theorem internetPing_stamps (now : Nat) (answers : ChipAnswers) (n : Network) :
    Memory.Allows (n.internetPing now answers) (Stamped n n.timeReceiveLast
      (if internetTimePingSendInterval ≤ millis now - n.timePingSendLast then
        millis answers.later else n.timePingSendLast)) := by
  unfold internetPing
  rw [Memory.allows_ite, Memory.allows_bind]
  refine ⟨fun due => ?_, fun early => (Memory.allows_ok _).mpr ⟨rfl, rfl, rfl, ?_⟩⟩
  · unfold fillBody
    rw [Memory.allows_bind]
    intro data _
    refine (Memory.allows_pure _).mpr ?_
    unfold internetSend
    rw [Memory.allows_bind, Memory.allows_ite, Memory.allows_ite]
    refine ⟨fun _ => (Memory.allows_ok _).mpr ((Memory.allows_pure _).mpr ?_), fun _ =>
      ⟨fun _ => Memory.allows_error _, fun _ =>
      (Memory.allows_ok _).mpr ((Memory.allows_pure _).mpr ?_)⟩⟩
    · exact ⟨rfl, rfl, rfl, (if_pos due).symm⟩
    · exact ⟨rfl, rfl, rfl, (if_pos due).symm⟩
  · rw [if_neg early]

/-- An update that attends stamps what it hears and its ping, and touches nothing else of the
supervision. -/
structure Listened (now : Nat) (answers : LibraryAnswers) (before after : Network) : Prop
    extends PinKept before after where
  timeRestartLast : after.timeRestartLast = before.timeRestartLast
  ipRemote : after.ipRemote = before.ipRemote
  timeReceiveLast : after.timeReceiveLast =
    if before.Hears now answers.arrived then millis answers.later else before.timeReceiveLast
  timePingSendLast : after.timePingSendLast =
    if before.Pings now then millis answers.later else before.timePingSendLast

/-- All that one `internet_update` does: to the chip, and to the network. -/
inductive UpdateTurn (now : Nat) (answers : LibraryAnswers) (n : Network) :
    List ChipEvent → Except OutOfBounds Network → Prop
  | waits (status : n.status = .restarting ∨ n.status = .initializing)
      (waiting : ¬ n.RestartWaitOver now) : UpdateTurn now answers n [] (.ok n)
  | raises (status : n.status = .restarting) (waited : n.RestartWaitOver now) :
      UpdateTurn now answers n [.resetPin true]
        (.ok { n.record (.resetPin true) with
          status := .initializing
          timeRestartLast := millis now })
  | restarts (due : n.Restarts now) :
      UpdateTurn now answers n (n.internetRestartSoftEvents answers)
        (.ok (n.internetRestartSoft now answers.chip))
  | lowers (listening : n.Listening) (silent : n.Silent now) :
      UpdateTurn now answers n internetRestartHardEvents (.ok (n.internetRestartHard now))
  | listens (listening : n.Listening) (recent : ¬ n.Silent now) {events : List ChipEvent}
      {result : Except OutOfBounds Network} (transfers : Transfers events)
      (listened : Memory.Allows result (Listened now answers n)) :
      UpdateTurn now answers n events result

theorem updateTurn (now : Nat) (answers : LibraryAnswers) (n : Network) :
    UpdateTurn now answers n (n.internetUpdateEvents now answers)
      (n.internetUpdate now answers.chip) := by
  have unmoved (out : ¬ n.Attends now) : Listened now answers n n :=
    ⟨.of_eq rfl rfl, rfl, rfl, (if_neg fun hears => out hears.1).symm,
      (if_neg fun pings => out pings.1).symm⟩
  have silence : Transfers [] := fun _ member => absurd member List.not_mem_nil
  unfold internetUpdate internetUpdateEvents
  cases status : n.status with
  | restarting =>
      dsimp only
      split
      · next waiting => exact .waits (.inl status) (not_not.mpr waiting)
      · next waited => exact .raises status waited
  | initializing =>
      dsimp only
      split
      · next waiting => exact .waits (.inr status) (not_not.mpr waiting)
      · next waited => exact .restarts ⟨status, waited⟩
  | uninitialized =>
      dsimp only
      split
      · next silent => exact .lowers (.inl status) silent
      · next recent =>
          have out : ¬ n.Attends now := fun attends => by
            rw [attends.1] at status
            cases status
          exact .listens (.inl status) recent silence ((Memory.allows_ok n).mpr (unmoved out))
  | ready =>
      dsimp only
      split
      · next silent => exact .lowers (.inr status) silent
      · next recent =>
          refine .listens (.inr status) recent ?_ ?_
          · split
            · exact silence
            · refine (internetPingEvents_transfers now answers n).append ?_
              split
              · exact internetPollEvents_transfers answers.arrived _
              · exact silence
          · rw [Memory.allows_ite]
            refine ⟨fun waits => (Memory.allows_ok n).mpr (unmoved fun attends =>
              waits attends.2.2), fun idle => ?_⟩
            have attends : n.Attends now := ⟨status, recent, not_not.mp idle⟩
            rw [Memory.allows_bind]
            intro pinged ping
            have pin := (Outgoing.internetPing now answers.chip n pinged ping).pinKept
            have stamps := internetPing_stamps now answers.chip n pinged ping
            intro polled poll
            have kept := PinKept.internetPoll _ _ pinged polled poll
            have polling := internetPoll_stamps _ _ pinged polled poll
            have server : pinged.FromServer answers.chip.arrived ↔
                n.Hears now answers.arrived := by
              unfold Hears FromServer
              rw [stamps.ipRemote]
              exact ⟨fun sender => ⟨attends, sender⟩, fun hears => hears.2⟩
            have due : internetTimePingSendInterval ≤ millis now - n.timePingSendLast ↔
                n.Pings now := ⟨fun late => ⟨attends, late⟩, fun pings => pings.2⟩
            constructor
            · exact pin.trans kept
            · exact polling.timeRestartLast.trans stamps.timeRestartLast
            · exact polling.ipRemote.trans stamps.ipRemote
            · rw [polling.timeReceiveLast, stamps.timeReceiveLast]
              simp only [server]
              rfl
            · rw [polling.timePingSendLast, stamps.timePingSendLast]
              simp only [due]
              rfl

/-- When a soft restart stamps `time_receive_last` for the last time. -/
def softStamp (now : Nat) (answers : LibraryAnswers) : Nat :=
  if answers.ethernetBegins = true ∧ answers.udpBegins = true ∧ answers.resolved.isSome then
    answers.later
  else now

theorem internetRestartSoft_timeReceiveLast (now : Nat) (answers : LibraryAnswers) (n : Network) :
    (n.internetRestartSoft now answers.chip).timeReceiveLast = millis (softStamp now answers) := by
  unfold internetRestartSoft softStamp internetIpRemoteUpdate LibraryAnswers.chip
  cases answers.ethernetBegins <;> cases answers.udpBegins <;> cases answers.resolved <;> rfl

end Network

/-! ## The events behind the stamps -/

def ChipEvent.isResetPin : ChipEvent → Bool
  | .resetPin _ => true
  | .call _ => false

namespace NetworkCall

/-- The clock at the beginning and at the end of a call that reads it. -/
def span : NetworkCall → Option (Nat × Nat)
  | .init now answers | .update now answers | .restartSoft now answers => some (now, answers.later)
  | .restartHard now => some (now, now)
  | .ipRemoteUpdate _ | .send _ _ | .packetTaken => none

/-- When the call shows life of the network: a soft restart, or a datagram from the server. -/
def life (n : Network) : NetworkCall → Option Nat
  | .init now answers | .restartSoft now answers => some (Network.softStamp now answers)
  | .update now answers =>
      if n.Restarts now then some (Network.softStamp now answers)
      else if n.Hears now answers.arrived then some answers.later
      else none
  | .restartHard _ | .ipRemoteUpdate _ | .send _ _ | .packetTaken => none

/-- When the call switches the reset pin. -/
def switches (n : Network) (call : NetworkCall) : Option Nat :=
  if (call.chipEvents n).any ChipEvent.isResetPin then call.span.map Prod.fst else none

end NetworkCall

namespace Network

/-- The clock after these calls. -/
def clockAfter (origin : Nat) : List NetworkCall → Nat
  | [] => origin
  | call :: prior => (call.span.map Prod.snd).getD (clockAfter origin prior)

/-- Calls whose clock never goes back. -/
def OrderedCalls (origin : Nat) : List NetworkCall → Prop
  | [] => True
  | call :: prior => OrderedCalls origin prior ∧
      ∀ span ∈ call.span, clockAfter origin prior ≤ span.1 ∧ span.1 ≤ span.2

/-- The newest mark on these calls. Before the first one the memory is zero. -/
def lastMark (mark : Network → NetworkCall → Option Nat) : List NetworkCall → Nat
  | [] => 0
  | call :: prior =>
      match afterCalls prior with
      | .ok n => (mark n call).getD (lastMark mark prior)
      | .error _ => lastMark mark prior

/-- When the network last showed life. -/
def lifeTime (calls : List NetworkCall) : Nat := lastMark (fun n call => call.life n) calls

/-- When the reset pin was last switched. -/
def pinTime (calls : List NetworkCall) : Nat := lastMark (fun n call => call.switches n) calls

theorem lifeTime_cons {call : NetworkCall} {prior : List NetworkCall} {n : Network}
    (reached : afterCalls prior = .ok n) :
    lifeTime (call :: prior) = (call.life n).getD (lifeTime prior) := by
  unfold lifeTime
  rw [lastMark, reached]

theorem pinTime_cons {call : NetworkCall} {prior : List NetworkCall} {n : Network}
    (reached : afterCalls prior = .ok n) :
    pinTime (call :: prior) = (call.switches n).getD (pinTime prior) := by
  unfold pinTime
  rw [lastMark, reached]

/-- The stamps are the real times of the newest events of their kinds. -/
structure OnRecord (clock life pin : Nat) (n : Network) : Prop where
  received : n.timeReceiveLast = millis life
  lifePast : life ≤ clock
  restart : n.status = .restarting ∨ n.status = .initializing → n.timeRestartLast = millis pin
  pinPast : pin ≤ clock

theorem internetRestartSoftEvents_pin (answers : LibraryAnswers) (n : Network) :
    (n.internetRestartSoftEvents answers).any ChipEvent.isResetPin = false := by
  unfold internetRestartSoftEvents internetIpRemoteUpdateEvents
  split_ifs <;> rfl

theorem Transfers.pin {events : List ChipEvent} (transfers : Transfers events) :
    events.any ChipEvent.isResetPin = false := by
  rw [List.any_eq_false]
  intro event member
  obtain ⟨call, rfl, -⟩ := transfers event member
  exact Bool.false_ne_true

/-- A soft restart leaves the phases of a hard one. -/
theorem OnRecord.restartSoft {pin now : Nat} {answers : LibraryAnswers} {n : Network}
    (pinPast : pin ≤ answers.later) (ordered : now ≤ answers.later) :
    OnRecord answers.later (softStamp now answers) pin
      (n.internetRestartSoft now answers.chip) where
  received := internetRestartSoft_timeReceiveLast now answers n
  lifePast := by
    unfold softStamp
    split
    · exact Nat.le_refl _
    · exact ordered
  restart phase := by
    rw [(internetRestartSoft_pin now answers.chip n).2] at phase
    split at phase <;> simp at phase
  pinPast := pinPast

/-- What is sent changes no stamp. -/
theorem sendBody_stamps (isSent : Bool) (bytes : List UInt8) (n : Network) :
    Memory.Allows (n.sendBody isSent bytes) (Stamped n n.timeReceiveLast n.timePingSendLast) := by
  unfold sendBody fillBody internetSend
  simp only [Memory.allows_bind, Memory.allows_pure, Memory.allows_ite]
  intro data _
  exact ⟨fun _ => (Memory.allows_ok _).mpr ⟨rfl, rfl, rfl, rfl⟩, fun _ =>
    ⟨fun _ => Memory.allows_error _, fun _ => (Memory.allows_ok _).mpr ⟨rfl, rfl, rfl, rfl⟩⟩⟩

/-- The step lemma: one call keeps the record. -/
theorem OnRecord.call {origin : Nat} {n : Network} {prior : List NetworkCall}
    (record : OnRecord (clockAfter origin prior) (lifeTime prior) (pinTime prior) n)
    (call : NetworkCall) (reached : afterCalls prior = .ok n)
    (ordered : ∀ span ∈ call.span, clockAfter origin prior ≤ span.1 ∧ span.1 ≤ span.2) :
    Memory.Allows (call.perform n) (OnRecord (clockAfter origin (call :: prior))
      (lifeTime (call :: prior)) (pinTime (call :: prior))) := by
  rw [lifeTime_cons reached, pinTime_cons reached]
  obtain ⟨received, lifePast, restart, pinPast⟩ := record
  cases call with
  | init now answers =>
      obtain ⟨later, ends⟩ := ordered _ rfl
      exact (Memory.allows_ok _).mpr (.restartSoft ends ends)
  | restartSoft now answers =>
      obtain ⟨later, ends⟩ := ordered _ rfl
      have unswitched : (NetworkCall.restartSoft now answers).switches n = none := by
        rw [NetworkCall.switches]
        exact if_neg (by simp [NetworkCall.chipEvents, internetRestartSoftEvents_pin])
      rw [unswitched]
      exact (Memory.allows_ok _).mpr (.restartSoft (pinPast.trans (later.trans ends)) ends)
  | restartHard now =>
      obtain ⟨later, -⟩ := ordered _ rfl
      exact (Memory.allows_ok _).mpr
        ⟨received, lifePast.trans later, fun _ => rfl, Nat.le_refl now⟩
  | ipRemoteUpdate answers =>
      have switched : (NetworkCall.ipRemoteUpdate answers).switches n = none := ite_self none
      rw [switched]
      refine (Memory.allows_ok _).mpr ?_
      unfold internetIpRemoteUpdate
      split
      · exact ⟨received, lifePast, restart, pinPast⟩
      · split <;> exact ⟨received, lifePast, restart, pinPast⟩
  | send bytes answers =>
      have switched : (NetworkCall.send bytes answers).switches n = none := ite_self none
      rw [switched]
      intro after sent
      have outgoing := Outgoing.sendBody _ bytes n after sent
      have stamps := sendBody_stamps _ bytes n after sent
      refine ⟨stamps.timeReceiveLast.trans received, lifePast, fun phase => ?_, pinPast⟩
      exact stamps.timeRestartLast.trans (restart (outgoing.status ▸ phase))
  | packetTaken =>
      have switched : NetworkCall.packetTaken.switches n = none := ite_self none
      rw [switched]
      exact (Memory.allows_ok _).mpr ⟨received, lifePast, restart, pinPast⟩
  | update now answers =>
      obtain ⟨later, ends⟩ := ordered _ rfl
      have life := lifePast.trans later
      have pin := pinPast.trans later
      have turn := updateTurn now answers n
      have switched : (NetworkCall.update now answers).switches n =
          if (n.internetUpdateEvents now answers).any ChipEvent.isResetPin then some now
          else none := rfl
      rw [switched, NetworkCall.life, NetworkCall.perform]
      generalize n.internetUpdateEvents now answers = events at turn
      generalize n.internetUpdate now answers.chip = result at turn
      have unheard (phase : n.status = .restarting ∨ n.status = .initializing) :
          ¬ n.Hears now answers.arrived := by
        rintro ⟨⟨ready, -⟩, -⟩
        simp [ready] at phase
      cases turn with
      | waits status waiting =>
          rw [if_neg fun due => waiting due.2, if_neg (unheard status)]
          exact (Memory.allows_ok _).mpr ⟨received, life.trans ends, restart, pin.trans ends⟩
      | raises status waited =>
          have elsewhere : ¬ n.Restarts now := fun due => by
            exact absurd (status.symm.trans due.1) (by decide)
          rw [if_neg elsewhere, if_neg (unheard (.inl status))]
          exact (Memory.allows_ok _).mpr ⟨received, life.trans ends, fun _ => rfl, ends⟩
      | restarts due =>
          rw [if_pos due, internetRestartSoftEvents_pin, if_neg Bool.false_ne_true]
          exact (Memory.allows_ok _).mpr (.restartSoft (pin.trans ends) ends)
      | lowers listening silent =>
          have elsewhere : ¬ n.Restarts now := by
            rintro ⟨status, -⟩
            rcases listening with other | other <;> rw [status] at other <;> cases other
          rw [if_neg elsewhere, if_neg fun hears => hears.1.2.1 silent]
          exact (Memory.allows_ok _).mpr ⟨received, life.trans ends, fun _ => rfl, ends⟩
      | listens listening recent transfers listened =>
          have elsewhere : ¬ n.Restarts now := by
            rintro ⟨status, -⟩
            rcases listening with other | other <;> rw [status] at other <;> cases other
          rw [if_neg elsewhere, transfers.pin, if_neg Bool.false_ne_true]
          refine listened.mono fun after heard => ⟨?_, ?_, fun phase => ?_, pin.trans ends⟩
          · rw [heard.timeReceiveLast]
            split
            · rfl
            · exact received
          · split
            · exact Nat.le_refl answers.later
            · exact life.trans ends
          · rw [heard.status] at phase
            rcases listening with other | other <;> simp [other] at phase

/-- The run lemma. -/
theorem OnRecord.run {origin : Nat} {calls : List NetworkCall}
    (ordered : OrderedCalls origin calls) :
    Memory.Allows (afterCalls calls)
      (OnRecord (clockAfter origin calls) (lifeTime calls) (pinTime calls)) := by
  induction calls with
  | nil =>
      exact (Memory.allows_ok unset).mpr
        ⟨rfl, Nat.zero_le origin, fun _ => rfl, Nat.zero_le origin⟩
  | cons call prior ih =>
      rw [afterCalls, Memory.allows_bind]
      exact fun n reached => (ih ordered.1 n reached).call call reached ordered.2

/-! ## Every run -/

/-- What the chip sees of an update tells what the update has done. -/
structure Shows (now : Nat) (n : Network) (events : List ChipEvent) : Prop where
  lowers : .resetPin false ∈ events ↔ n.Listening ∧ n.Silent now
  raises : .resetPin true ∈ events ↔ n.status = .restarting ∧ n.RestartWaitOver now
  restarts : (∃ succeeds, .call (.ethernetBegin succeeds) ∈ events) ↔ n.Restarts now

theorem not_mem_of_pin {events : List ChipEvent}
    (unswitched : events.any ChipEvent.isResetPin = false) (isHigh : Bool) :
    .resetPin isHigh ∉ events := fun member =>
  List.any_eq_false.mp unswitched (.resetPin isHigh) member rfl

theorem Transfers.not_mem_ethernetBegin {events : List ChipEvent} (transfers : Transfers events) :
    ¬ ∃ succeeds, .call (.ethernetBegin succeeds) ∈ events := by
  rintro ⟨succeeds, member⟩
  obtain ⟨call, same, transfer⟩ := transfers _ member
  cases same
  cases transfer

theorem updateShows (now : Nat) (answers : LibraryAnswers) (n : Network) :
    Shows now n (n.internetUpdateEvents now answers) := by
  have turn := updateTurn now answers n
  generalize n.internetUpdateEvents now answers = events at turn
  generalize n.internetUpdate now answers.chip = result at turn
  cases turn with
  | waits status waiting =>
      constructor
      · rcases status with status | status <;> simp [Listening, status]
      · simp [waiting]
      · simp [Restarts, waiting]
  | raises status waited => constructor <;> simp [Listening, Restarts, status, waited]
  | restarts due =>
      have begun : .call (.ethernetBegin answers.ethernetBegins) ∈
          n.internetRestartSoftEvents answers := by
        unfold internetRestartSoftEvents
        split <;> simp_all
      have unswitched := not_mem_of_pin (internetRestartSoftEvents_pin answers n)
      constructor
      · simp [Listening, due.1, unswitched]
      · simp [due.1, unswitched]
      · exact iff_of_true ⟨_, begun⟩ due
  | lowers listening silent =>
      constructor
      · exact iff_of_true List.mem_cons_self ⟨listening, silent⟩
      · rcases listening with status | status <;> simp [internetRestartHardEvents, status]
      · rcases listening with status | status <;>
          simp [internetRestartHardEvents, Restarts, status]
  | listens listening recent transfers listened =>
      have unswitched := not_mem_of_pin transfers.pin
      constructor
      · simp [recent, unswitched]
      · rcases listening with status | status <;> simp [status, unswitched]
      · rcases listening with status | status <;>
          simp [Restarts, status, transfers.not_mem_ethernetBegin]

/-- The network acts exactly when it watches and the 32-bit clock shows this wait as over. -/
structure ActsAfter (since wait now : Nat) (watches acts : Prop) : Prop where
  past : since ≤ now
  exactly : acts ↔ watches ∧ wait ≤ (now - since) % Clock.period

theorem ActsAfter.of_stamp {since now : Nat} (wait : UInt32) {stamp : UInt32}
    {watches acts : Prop} (past : since ≤ now) (stamped : watches → stamp = millis since)
    (shown : acts ↔ watches ∧ ¬ millis now - stamp < wait) :
    ActsAfter since wait.toNat now watches acts where
  past := past
  exactly := by
    refine shown.trans (and_congr_right fun watching => ?_)
    rw [stamped watching, UInt32.not_lt, UInt32.le_iff_toNat_le, Clock.toNat_reading_sub past]

/-- In every run, whatever the operator and the libraries do and however often the clock wraps,
`internet_update` pulls the reset pin down exactly when it listens and the clock shows 17 s without a
sign of life, and raises it and restarts the chip exactly when the clock shows 3 s since the pin was
switched. -/
theorem supervised_in_real_time {origin now : Nat} {answers : LibraryAnswers}
    {prior : List NetworkCall} {n : Network}
    (ordered : OrderedCalls origin (.update now answers :: prior))
    (reached : afterCalls prior = .ok n) :
    let events := n.internetUpdateEvents now answers
    ActsAfter (lifeTime prior) 17000 now n.Listening (.resetPin false ∈ events) ∧
    ActsAfter (pinTime prior) 3000 now (n.status = .restarting) (.resetPin true ∈ events) ∧
    ActsAfter (pinTime prior) 3000 now (n.status = .initializing)
      (∃ succeeds, .call (.ethernetBegin succeeds) ∈ events) := by
  have record := OnRecord.run ordered.1 n reached
  have shows := updateShows now answers n
  obtain ⟨later, -⟩ := ordered.2 _ rfl
  have life := record.lifePast.trans later
  have pin := record.pinPast.trans later
  refine ⟨.of_stamp internetTimeReceiveLastMax life (fun _ => record.received) ?_,
    .of_stamp internetTimeRestartWait pin (fun phase => record.restart (.inl phase)) shows.raises,
    .of_stamp internetTimeRestartWait pin (fun phase => record.restart (.inr phase))
      shows.restarts⟩
  rw [shows.lowers, UInt32.not_lt]
  rfl

/-- The libraries answer as in `connected`, and the call ends at this time. -/
def connectedAt (later : Nat) : LibraryAnswers := { connected with later }

/-- Connected at 3 s and never heard of again: the update at 20 s pulls the pin down. -/
theorem supervised_silence :
    let prior : List NetworkCall := [.init 3000 (connectedAt 3000)]
    let n := unset.internetInit 3000 (connectedAt 3000).chip
    lifeTime prior = 3000 ∧ .resetPin false ∈ n.internetUpdateEvents 20000 (connectedAt 20000) := by
  have ordered : OrderedCalls 3000
      [.update 20000 (connectedAt 20000), .init 3000 (connectedAt 3000)] := by
    refine ⟨⟨trivial, ?_⟩, ?_⟩ <;> rintro span ⟨⟩ <;> decide
  exact ⟨rfl, (supervised_in_real_time ordered rfl).1.exactly.mpr ⟨.inr rfl, by decide⟩⟩

end Network
end BlueberryIrrigation
