import BlueberryIrrigation.Exchange.Malformed
import BlueberryIrrigation.Semantics.Exchange

/-!
# No reply storm

The two dispatchers exchange bodies over a network that loses and reorders them. Both answer in
the packet that they have received, and both know the command numbers of the other. Only an
INFO_ALL command and a ping request have answers, and none of these has an answer in its turn.
-/

namespace BlueberryIrrigation

open Semantics

/-- A body on its way to one of the ends. -/
inductive Letter where
  | toArduino (body : List UInt8)
  | toServer (body : List UInt8)
deriving DecidableEq

namespace Letter

/-- What its delivery may still cost. -/
def weight : Letter → Nat
  | .toArduino [82] => 5
  | .toArduino [211, 10] => 2
  | .toServer [211, 10] => 2
  | _ => 1

/-- A well-formed ping request. -/
def IsRequest (letter : Letter) : Prop :=
  letter = .toArduino [211, 10] ∨ letter = .toServer [211, 10]

/-- A well-formed answer to a ping. -/
def IsAnswer (letter : Letter) : Prop :=
  letter = .toArduino [211, 20] ∨ letter = .toServer [211, 20]

instance decidableIsRequest : DecidablePred IsRequest := fun _ =>
  inferInstanceAs (Decidable (_ ∨ _))

instance decidableIsAnswer : DecidablePred IsAnswer := fun _ =>
  inferInstanceAs (Decidable (_ ∨ _))

end Letter

/-- The memories of both ends. -/
structure Ends where
  arduino : System
  server : ServerMemory

namespace Ends

/-- The reception has left a body in the packet, for the dispatcher. -/
structure TakesIn (body : List UInt8) (before after : Network) : Prop where
  idle : before.isReceiveWait = 0
  waiting : after.isReceiveWait ≠ 0
  carries : after.packet.Carries body
  sentFrames : after.sentFrames = before.sentFrames

variable [FlowArithmetic]

/-- An end takes a body, and these are the bodies that its dispatcher sends. -/
inductive Delivers : Ends → Letter → Ends → List Letter → Prop
  | arduino {ends : Ends} {body : List UInt8} {received : Network} {now : Nat}
      {answers : InterfaceAnswers} {after : System} {frames : List (List UInt8)}
      (takes : TakesIn body ends.arduino.network received)
      (processed :
        { ends.arduino with network := received }.interfaceProcessData now answers = .ok after)
      (sent : after.network.sentFrames = frames ++ received.sentFrames) :
      Delivers ends (.toArduino body) { ends with arduino := after }
        (frames.map fun frame => .toServer (frameBody frame))
  -- An index outside its array may leave anything in the memory, but its case sends nothing.
  | outside {ends : Ends} {body : List UInt8} {received : Network} {now : Nat}
      {answers : InterfaceAnswers} {place : OutOfBounds} {after : System}
      (takes : TakesIn body ends.arduino.network received)
      (processed :
        { ends.arduino with network := received }.interfaceProcessData now answers = .error place)
      (released : after.network.isReceiveWait = 0) :
      Delivers ends (.toArduino body) { ends with arduino := after } []
  | server {ends : Ends} {body : List UInt8} {udp : Server} {time : UInt32}
      {after : ServerMemory} {frames : List (List UInt8)}
      (carries : udp.packet.Carries body)
      (processed : { ends.server with udp := udp, timeReceivedLast := time }.serverProcessSending =
        .ok (after, frames)) :
      Delivers ends (.toServer body) { ends with server := after }
        (frames.map fun frame => .toArduino (frameBody frame))

/-- An end goes on without a body. -/
inductive Turns : Ends → Ends → List Letter → Prop
  /-- The dispatcher finds a packet that it has not released. -/
  | redispatch {ends : Ends} {now : Nat} {answers : InterfaceAnswers} {after : System}
      {frames : List (List UInt8)}
      (waiting : ends.arduino.network.isReceiveWait ≠ 0)
      (processed : ends.arduino.interfaceProcessData now answers = .ok after)
      (sent : after.network.sentFrames = frames ++ ends.arduino.network.sentFrames) :
      Turns ends { ends with arduino := after }
        (frames.map fun frame => .toServer (frameBody frame))
  /-- Everything else, as long as no timer comes and nobody types anything. -/
  | goOn {before after : Ends}
      (waiting : after.arduino.network.isReceiveWait = before.arduino.network.isReceiveWait)
      (data : after.arduino.network.packet.data = before.arduino.network.packet.data)
      (size : after.arduino.network.packet.size = before.arduino.network.packet.size) :
      Turns before after []

/-- The two dispatchers and the network between them. -/
def exchange : Exchange Ends Letter := ⟨Delivers, Turns⟩

end Ends

/-! ## What a dispatcher sends -/

theorem frameBody_frameOf {id : UInt8} {body : List UInt8} (fits : body.length ≤ bodyDataSize) :
    frameBody (frameOf id body) = body := by
  have room : bodyDataSize = 64 := rfl
  have second : (frameOf id body).getD 1 0 = UInt8.ofNat (body.length + 1) := rfl
  have count : (UInt8.ofNat (body.length + 1)).toNat - 1 = body.length := by
    rw [UInt8.toNat_ofNat', Nat.mod_eq_of_lt (by omega)]
    rfl
  rw [frameBody, second, count]
  simp [frameOf]

namespace Network

/-- Bodies from this list, and no others, have been sent; the newest comes first. -/
def SendsAmong (bodies : List (List UInt8)) (before after : Network) : Prop :=
  ∃ frames, after.sentFrames = frames ++ before.sentFrames ∧ (frames.map frameBody).Sublist bodies

namespace SendsAmong

variable {first second third : Network} {earlier later bodies : List (List UInt8)}

theorem of_eq (same : second.sentFrames = first.sentFrames) : SendsAmong bodies first second :=
  ⟨[], same, List.nil_sublist bodies⟩

theorem trans (before : SendsAmong earlier first second) (after : SendsAmong later second third) :
    SendsAmong (later ++ earlier) first third := by
  obtain ⟨frames, sent, among⟩ := before
  obtain ⟨further, resent, beyond⟩ := after
  refine ⟨further ++ frames, ?_, ?_⟩
  · rw [resent, sent, List.append_assoc]
  · rw [List.map_append]
    exact beyond.append among

end SendsAmong

/-- `internet_send` sends the packet's body, or nothing. -/
theorem internetSend_among (isSent : Bool) (n : Network) :
    Memory.Allows (n.internetSend isSent) (SendsAmong [n.packet.body] n) := by
  unfold internetSend
  rw [Memory.allows_ite, Memory.allows_ite]
  refine ⟨fun _ => (Memory.allows_ok _).mpr (.of_eq rfl), fun _ =>
    ⟨fun _ => Memory.allows_error _, fun fits => (Memory.allows_ok _).mpr ?_⟩⟩
  have short : n.packet.size.toNat ≤ bodyDataSize := Nat.not_lt.mp fits
  refine ⟨[frame n.packet], rfl, ?_⟩
  rw [frame_eq short, List.map_singleton, frameBody_frameOf]
  rwa [Packet.length_body short]

theorem sendBody_among (isSent : Bool) {bytes : List UInt8} (fits : bytes.length ≤ bodyDataSize)
    (n : Network) : Memory.Allows (n.sendBody isSent bytes) (SendsAmong [bytes] n) := by
  unfold sendBody
  rw [Memory.allows_bind]
  refine (n.fillBody_fits fits).allows.mono fun filled filling => ?_
  obtain ⟨body, -, data, size, rfl⟩ := filling
  rw [← body]
  exact internetSend_among isSent _

end Network

/-- What the dispatchers answer to a body, the newest answer first. -/
inductive Answered : List UInt8 → List (List UInt8) → Prop
  | silent (body : List UInt8) : Answered body []
  | ping : Answered [211, 10] [[211, 20]]

/-- What the Arduino's dispatcher answers to a body. -/
inductive Reported (s : Controller) : List UInt8 → List (List UInt8) → Prop
  | answered {body : List UInt8} {answers : List (List UInt8)} (answer : Answered body answers) :
      Reported s body answers
  | telemetry {bodies : List (List UInt8)} (now : Nat)
      (among : bodies.Sublist (Part.all.map fun part => part.body now s).reverse) :
      Reported s [82] bodies

/-! ## The Arduino -/

namespace Packet

variable {packet : Packet} {bytes : List UInt8}

/-- A packet with a one-byte body. -/
theorem Carries.eq_singleton (carries : packet.Carries bytes) (size : packet.size = 1) :
    bytes = [packet.data 0] := by
  obtain ⟨rfl, -⟩ := carries
  have room : 0 < bodyDataSize := by decide
  rw [body, size]
  change (List.ofFn packet.data).take 1 = _
  rw [List.ofFn_succ]
  rfl

/-- A packet with a two-byte body. -/
theorem Carries.eq_pair (carries : packet.Carries bytes) (size : packet.size = 2) :
    bytes = [packet.data 0, packet.data 1] := by
  obtain ⟨rfl, -⟩ := carries
  rw [body, size]
  change (List.ofFn packet.data).take 2 = _
  rw [List.ofFn_succ, List.ofFn_succ]
  rfl

end Packet

namespace System

theorem sendInfoAll_among (answers : InterfaceAnswers) (s : System) :
    Memory.Allows (s.sendInfoAll answers) fun after =>
      Network.SendsAmong (Part.all.map fun part => part.body answers.later s.controller).reverse
        s.network after.network := by
  have fits (part : Part) : (part.body answers.later s.controller).length ≤ bodyDataSize :=
    (part.length_body answers.later s.controller).2.trans (by decide)
  unfold sendInfoAll
  rw [Memory.allows_bind]
  refine (Network.sendBody_among _ (fits .devices) s.network).mono fun n1 devices => ?_
  rw [Memory.allows_bind]
  refine (Network.sendBody_among _ (fits .sensorFlows) n1).mono fun n2 flows => ?_
  rw [Memory.allows_bind]
  refine (Network.sendBody_among _ (fits .sensorPressures) n2).mono fun n3 pressures => ?_
  rw [Memory.allows_bind]
  refine (Network.sendBody_among _ (fits .irrigation) n3).mono fun n4 irrigation => ?_
  exact (Memory.allows_pure _).mpr (((devices.trans flows).trans pressures).trans irrigation)

variable [FlowArithmetic]

/-- The cases other than INFO_ALL and PING do not touch the network. -/
theorem perform_silent (now : Nat) (answers : InterfaceAnswers) (s : System) {command : Command}
    (infoAll : command ≠ .infoAll) (ping : command ≠ .ping) :
    Memory.Allows (s.perform now answers command) fun after => after.network = s.network := by
  cases command with
  | deviceToggle | deviceTimeSwitchMinimum | sensorFlowPulsesPerLiter =>
      exact Memory.allows_entry fun _ => rfl
  | infoAll => exact absurd rfl infoAll
  | ping => exact absurd rfl ping
  | _ => exact (Memory.allows_ok _).mpr rfl

/-- The frames sent on the way are what the body is answered with. -/
def Reports (s : System) (body : List UInt8) (after : System) : Prop :=
  ∃ frames, after.network.sentFrames = frames ++ s.network.sentFrames ∧
    Reported s.controller body (frames.map frameBody)

omit [FlowArithmetic] in
theorem Reports.of_eq {s after : System} {body : List UInt8}
    (same : after.network.sentFrames = s.network.sentFrames) : s.Reports body after :=
  ⟨[], same, .answered (.silent body)⟩

omit [FlowArithmetic] in
/-- A ping is answered once, if it is a request. -/
theorem answerPing_reports (answers : InterfaceAnswers) {s : System} {body : List UInt8}
    (carries : s.network.packet.Carries body) (command : s.network.packet.data 0 = 211)
    (size : s.network.packet.size = 2) :
    Memory.Allows (s.answerPing answers) (s.Reports body) := by
  unfold answerPing
  rw [Memory.allows_ite, Memory.allows_bind]
  refine ⟨fun request => ?_, fun _ => (Memory.allows_ok _).mpr (.of_eq rfl)⟩
  have asked : body = [211, 10] := by
    rw [carries.eq_pair size, command, request]
    rfl
  generalize answering : ({ s.network with
    packet.data := Function.update s.network.packet.data 1 internetCommandPingValueAnswer } :
      Network) = answered
  have reply : answered.packet.body = [211, 20] := by
    have pair : answered.packet.size = 2 := by rw [← answering, ← size]
    rw [Packet.Carries.eq_pair ⟨rfl, Packet.length_body (by rw [pair]; decide) |>.symm⟩ pair,
      ← answering]
    simp [Function.update, command, internetCommandPingValueAnswer]
  have kept : answered.sentFrames = s.network.sentFrames := by
    rw [← answering]
    rfl
  refine (Network.internetSend_among _ answered).mono fun n among => (Memory.allows_pure _).mpr ?_
  obtain ⟨frames, sent, sublist⟩ := among
  rw [reply] at sublist
  refine ⟨frames, by rw [← kept]; exact sent, ?_⟩
  rcases List.sublist_singleton.mp sublist with none | one
  · rw [none]
    exact .answered (.silent body)
  · rw [one, asked]
    exact .answered .ping

theorem perform_reports (now : Nat) (answers : InterfaceAnswers) {s : System} {body : List UInt8}
    (carries : s.network.packet.Carries body) {command : Command}
    (taken : Command.ofByte (s.network.packet.data 0) = some command)
    (size : 1 + command.operands = s.network.packet.size) :
    Memory.Allows (s.perform now answers command) (s.Reports body) := by
  by_cases infoAll : command = .infoAll
  · subst infoAll
    have byte := Command.ofByte_eq_infoAll.mp taken
    refine (sendInfoAll_among answers s).mono fun after among => ?_
    obtain ⟨frames, sent, sublist⟩ := among
    refine ⟨frames, sent, ?_⟩
    rw [carries.eq_singleton size.symm, byte]
    exact .telemetry answers.later sublist
  · by_cases ping : command = .ping
    · subst ping
      have byte : s.network.packet.data 0 = 211 := by
        simpa [Command.labels] using Command.label_of_ofByte taken
      exact answerPing_reports answers carries byte size.symm
    · exact (perform_silent now answers s infoAll ping).mono fun after same =>
        .of_eq (congrArg Network.sentFrames same)

/-- What the dispatcher sends for a body, and what it may leave waiting. -/
theorem processPacket_reports (now : Nat) (answers : InterfaceAnswers) (s : System) :
    Memory.Allows (s.processPacket now answers) fun after =>
      (∀ body, s.network.packet.Carries body → s.Reports body after) ∧
        (after.network.isReceiveWait ≠ 0 → after.network.packet.MalformedCommand) := by
  unfold processPacket interfaceSwitch
  rw [Memory.allows_bind]
  cases taken : Command.ofByte (s.network.packet.data 0) with
  | none =>
      refine (Memory.allows_ok _).mpr ((Memory.allows_pure _).mpr ⟨fun body _ => .of_eq rfl, ?_⟩)
      exact fun waiting => absurd rfl waiting
  | some command =>
      dsimp only
      rw [Memory.allows_ite, Memory.allows_bind]
      constructor
      · intro wrong
        refine (Memory.allows_ok _).mpr ?_
        split
        · exact (Memory.allows_pure _).mpr
            ⟨fun body _ => .of_eq rfl, fun waiting => absurd rfl waiting⟩
        · refine (Memory.allows_pure _).mpr ⟨fun body _ => .of_eq rfl, fun _ other case => ?_⟩
          obtain rfl := Option.some.inj (taken.symm.trans case)
          exact wrong
      · intro right
        have size := not_not.mp right
        cases performing : s.perform now answers command with
        | error place => exact Memory.allows_error _
        | ok performed =>
            refine (Memory.allows_ok _).mpr ((Memory.allows_pure _).mpr ((Memory.allows_pure _).mpr
              ⟨fun body carries => ?_, fun waiting => absurd rfl waiting⟩))
            have reports := perform_reports now answers carries taken size
            rw [performing, Memory.allows_ok] at reports
            exact reports

theorem interfaceProcessData_reports (now : Nat) (answers : InterfaceAnswers) {s : System}
    (waits : s.network.isReceiveWait ≠ 0) :
    Memory.Allows (s.interfaceProcessData now answers) fun after =>
      (∀ body, s.network.packet.Carries body → s.Reports body after) ∧
        (after.network.isReceiveWait ≠ 0 → after.network.packet.MalformedCommand) := by
  unfold interfaceProcessData
  rw [if_pos waits]
  exact processPacket_reports now answers _

end System

/-! ## The server -/

namespace ServerMemory

/-- The server's answer to a ping request is on its way, and nothing else is. -/
theorem answerPing_answers {s after : ServerMemory} {body : List UInt8}
    {frames : List (List UInt8)} (carries : s.udp.packet.Carries body)
    (command : s.udp.packet.data 0 = 211) (size : s.udp.packet.size = 2)
    (processed : s.answerPing = .ok (after, frames)) :
    Answered body (frames.map frameBody) := by
  unfold answerPing at processed
  split at processed
  · rename_i request
    have asked : body = [211, 10] := by rw [carries.eq_pair size, command, request]
    let answered : Server := { s.udp with packet.data := Function.update s.udp.packet.data 1 20 }
    have reply : answered.packet.body = [211, 20] := by
      have counted : answered.packet.body.length = answered.packet.size.toNat :=
        Packet.length_body (by rw [size]; decide)
      rw [Packet.Carries.eq_pair ⟨rfl, counted.symm⟩ size]
      simp [answered, Function.update, command]
    have sends := Server.serverUdpSend_sends (s := answered) (by rw [size]; decide)
    change (answered.serverUdpSend >>= fun sent => _) = _ at processed
    cases sent : answered.serverUdpSend with
    | error place =>
        rw [sent] at sends
        exact absurd sends (by simp)
    | ok result =>
        rw [sent] at sends processed
        obtain ⟨-, rfl⟩ := Prod.mk.inj (Except.ok.inj processed)
        have frame : result.2 = frameOf serverId [211, 20] := by
          rw [← reply]
          exact ((Memory.ensures_ok _).mp sends).2
        rw [List.map_singleton, frame, frameBody_frameOf (by decide), asked]
        exact .ping
  · obtain ⟨-, rfl⟩ := Prod.mk.inj (Except.ok.inj processed)
    exact .silent body

/-- The server answers a ping request, and nothing else. -/
theorem serverProcessSending_answers {s after : ServerMemory} {body : List UInt8}
    {frames : List (List UInt8)} (carries : s.udp.packet.Carries body)
    (processed : s.serverProcessSending = .ok (after, frames)) :
    Answered body (frames.map frameBody) := by
  have silent {kept : ServerMemory}
      (processed : (.ok (kept, []) : Except OutOfBounds _) = .ok (after, frames)) :
      Answered body (frames.map frameBody) := by
    obtain ⟨-, rfl⟩ := Prod.mk.inj (Except.ok.inj processed)
    exact .silent body
  unfold serverProcessSending at processed
  dsimp only at processed
  split at processed
  case h_5 command =>
    split at processed
    · exact silent processed
    · rename_i size
      have pair : s.udp.packet.size = 2 := UInt8.toNat_inj.mp (not_not.mp size).symm
      exact answerPing_answers carries command pair processed
  case h_6 => exact silent processed
  all_goals
    split at processed
    · exact silent processed
    · exact silent processed

end ServerMemory

/-! ## The exchange -/

/-- What a letter is answered with. -/
structure Letter.Answers (letter : Letter) (answers : List Letter) : Prop where
  asked : answers ≠ [] → letter.IsRequest ∨ letter = .toArduino [82]
  single : letter.IsRequest → answers.length ≤ 1
  few : answers.length < letter.weight
  light : ∀ answer ∈ answers, answer.weight = 1
  pongs : answers.countP (fun answer => answer.IsAnswer) ≤ if letter.IsRequest then 1 else 0

namespace Letter

theorem one_le_weight (letter : Letter) : 1 ≤ letter.weight := by
  unfold weight
  split <;> decide

theorem IsRequest.weight {letter : Letter} (request : letter.IsRequest) : letter.weight = 2 := by
  rcases request with rfl | rfl <;> rfl

theorem Answers.silent (letter : Letter) : letter.Answers [] where
  asked some := absurd rfl some
  single _ := Nat.zero_le 1
  few := letter.one_le_weight
  light _ member := absurd member (List.not_mem_nil)
  pongs := Nat.zero_le _

/-- The answers of either end, on their way to the other. -/
theorem Answers.of_answered {body : List UInt8} {bodies : List (List UInt8)}
    (answered : Answered body bodies) :
    (toArduino body).Answers (bodies.map toServer) ∧
      (toServer body).Answers (bodies.map toArduino) := by
  cases answered with
  | silent => exact ⟨.silent _, .silent _⟩
  | ping => exact ⟨⟨by decide, by decide, by decide, by decide, by decide⟩,
      ⟨by decide, by decide, by decide, by decide, by decide⟩⟩

/-- A packet about a part is no ping. -/
theorem weight_part (now : Nat) (s : Controller) (part : Part) :
    (toServer (part.body now s)).weight = 1 ∧ ¬ (toServer (part.body now s)).IsAnswer := by
  have first : (part.body now s).head? = some part.command := by
    cases part <;> rfl
  have other (behind : List UInt8) : part.body now s ≠ 211 :: behind := by
    intro same
    rw [same] at first
    exact absurd (Option.some.inj first) (by cases part <;> decide)
  constructor
  · unfold weight
    split
    · rename_i same
      cases same
    · rename_i same
      cases same
    · rename_i same
      exact absurd (toServer.inj same) (other _)
    · rfl
  · rintro (same | same)
    · cases same
    · exact other _ (toServer.inj same)

/-- The Arduino's answers. -/
theorem Answers.of_reported {s : Controller} {body : List UInt8} {bodies : List (List UInt8)}
    (reported : Reported s body bodies) : (toArduino body).Answers (bodies.map toServer) := by
  cases reported with
  | answered answer => exact (Answers.of_answered answer).1
  | telemetry now among =>
      have parts {answer : Letter} (member : answer ∈ bodies.map toServer) :
          answer.weight = 1 ∧ ¬ answer.IsAnswer := by
        obtain ⟨report, listed, rfl⟩ := List.mem_map.mp member
        obtain ⟨part, -, rfl⟩ := List.mem_map.mp (List.mem_reverse.mp (among.subset listed))
        exact weight_part now s part
      have four : bodies.length ≤ 4 := among.length_le
      refine ⟨fun _ => .inr rfl, fun request => ?_, ?_, fun answer member => (parts member).1, ?_⟩
      · exact absurd request (by decide)
      · rw [List.length_map]
        exact Nat.lt_succ_of_le four
      · rw [List.countP_eq_zero.mpr fun answer member => by simp [(parts member).2]]
        exact Nat.zero_le _

theorem Answers.lighter {letter : Letter} {answers : List Letter} (sent : letter.Answers answers) :
    ((answers : Multiset Letter).map weight).sum < letter.weight := by
  have ones : answers.map weight = List.replicate answers.length 1 :=
    List.map_eq_replicate_iff.mpr sent.light
  rw [Multiset.map_coe, Multiset.sum_coe, ones, List.sum_replicate_nat, Nat.mul_one]
  exact sent.few

theorem Answers.unasked {letter : Letter} {answers : List Letter} (sent : letter.Answers answers) :
    answers.countP (fun answer => answer.IsRequest) = 0 := by
  refine List.countP_eq_zero.mpr fun answer member => ?_
  have light := sent.light answer member
  simp only [decide_eq_true_eq]
  intro request
  rw [request.weight] at light
  exact absurd light (by decide)

end Letter

namespace Ends

/-- No packet waits for the dispatcher, apart from a malformed one that it has not released. -/
def Quiet (ends : Ends) : Prop :=
  ends.arduino.network.isReceiveWait ≠ 0 → ends.arduino.network.packet.MalformedCommand

variable [FlowArithmetic] {before after : Ends} {letter : Letter} {replies : List Letter}

theorem Delivers.answers (delivers : Delivers before letter after replies) :
    letter.Answers replies := by
  cases delivers with
  | @arduino _ received now answers _ _ takes processed sent =>
      have reports := System.interfaceProcessData_reports now answers takes.waiting _ processed
      obtain ⟨frames, handed, reported⟩ := reports.1 _ takes.carries
      obtain rfl := List.append_cancel_right (sent.symm.trans handed)
      have replies := Letter.Answers.of_reported reported
      rwa [List.map_map] at replies
  | outside => exact .silent _
  | server carries processed =>
      have answered := ServerMemory.serverProcessSending_answers carries processed
      have replies := (Letter.Answers.of_answered answered).2
      rwa [List.map_map] at replies

theorem Delivers.quiet (quiet : before.Quiet) (delivers : Delivers before letter after replies) :
    after.Quiet := by
  cases delivers with
  | @arduino _ received now answers _ _ takes processed sent =>
      have reports := System.interfaceProcessData_reports now answers takes.waiting _ processed
      exact reports.2
  | outside takes processed released => exact fun waiting => absurd released waiting
  | server => exact quiet

/-- The dispatcher has nothing to say about a packet that it has not released. -/
theorem Turns.silent (quiet : before.Quiet) (turns : Turns before after replies) :
    replies = [] := by
  cases turns with
  | @redispatch now answers _ _ waiting processed sent =>
      have inert := System.interfaceProcessData_malformed now answers waiting (quiet waiting)
      rw [processed, Memory.ensures_ok] at inert
      obtain rfl := List.append_left_eq_self.mp (sent.symm.trans inert.sentFrames)
      rfl
  | goOn => rfl

theorem Turns.quiet (quiet : before.Quiet) (turns : Turns before after answers) : after.Quiet := by
  cases turns with
  | @redispatch now answers _ _ waiting processed sent =>
      have reports := System.interfaceProcessData_reports now answers waiting
      rw [processed, Memory.allows_ok] at reports
      exact reports.2
  | goOn waiting data size =>
      intro waits
      rw [waiting] at waits
      have malformed := quiet waits
      unfold Packet.MalformedCommand at malformed ⊢
      rwa [data, size]

theorem settles : exchange.Settles Letter.weight Quiet where
  positive := Letter.one_le_weight
  lighter _ delivers := (Delivers.answers delivers).lighter
  delivered quiet delivers := Delivers.quiet quiet delivers
  silent quiet turns := Turns.silent quiet turns
  turned quiet turns := Turns.quiet quiet turns

end Ends

/-- From any bodies in flight, every delivery makes the load smaller. The load pays for all that is
ever delivered and sent, no more pings are answered than were asked, and only requests are
answered. -/
theorem no_reply_storm [FlowArithmetic] {start current : Exchange.Configuration Ends Letter}
    {events : List (Exchange.Event Letter)} (quiet : start.state.Quiet)
    (run : Ends.exchange.Run start events current) :
    Exchange.deliveries events + Exchange.load Letter.weight current ≤
        Exchange.load Letter.weight start ∧
      (events.flatMap Exchange.Event.sent).length + start.flight.card ≤
        Exchange.load Letter.weight start ∧
      (events.flatMap Exchange.Event.sent).countP (fun letter => letter.IsAnswer) +
          current.flight.countP Letter.IsRequest ≤ start.flight.countP Letter.IsRequest ∧
      ∀ letter answers next, Ends.exchange.Step current (.delivered letter answers) next →
        Exchange.load Letter.weight next < Exchange.load Letter.weight current ∧
          (letter.IsRequest → answers.length ≤ 1) ∧
          (answers ≠ [] → letter.IsRequest ∨ letter = .toArduino [82]) := by
  have settles : Ends.exchange.Settles Letter.weight Ends.Quiet := Ends.settles
  refine ⟨settles.deliveries_le quiet run, settles.sent_total_le quiet run, ?_,
    fun letter answers next step => ⟨settles.deliver_load (settles.run_inv quiet run) step, ?_⟩⟩
  · refine settles.answers_le quiet (fun _ delivers => ?_) run
    have sent := Ends.Delivers.answers delivers
    exact ⟨sent.pongs, sent.unasked⟩
  · cases step with
    | deliver delivers =>
        have sent := Ends.Delivers.answers delivers
        exact ⟨sent.single, sent.asked⟩

/-- A ping request reaches the server, whose answer is on its way back. -/
theorem no_reply_storm_ping :
    let start : Exchange.Configuration Ends Letter :=
      ⟨⟨{ received (fun _ => 0) 0 with network := readyNetwork }, .unset⟩,
        {Letter.toServer [211, 10]}⟩
    let events :=
      [Exchange.Event.delivered (Letter.toServer [211, 10]) [Letter.toArduino [211, 20]]]
    ∃ current, Ends.exchange.Run start events current ∧
      Exchange.deliveries events + Exchange.load Letter.weight current ≤
        Exchange.load Letter.weight start := by
  intro start events
  let udp : Server :=
    { ServerMemory.unset.udp with
      packet.data := fun index => if index = 0 then 211 else 10
      packet.size := 2 }
  have carries : udp.packet.Carries [211, 10] := ⟨by decide, by decide⟩
  obtain ⟨after, answered⟩ : ∃ after,
      { start.state.server with udp := udp, timeReceivedLast := 0 }.serverProcessSending =
        .ok (after, [frameOf serverId [211, 20]]) := ⟨_, rfl⟩
  have delivers : Ends.Delivers start.state (.toServer [211, 10])
      { start.state with server := after } [.toArduino [211, 20]] :=
    Ends.Delivers.server carries answered
  have run : Ends.exchange.Run start events ⟨{ start.state with server := after }, _⟩ :=
    .step .nil (.deliver delivers)
  exact ⟨_, run, (no_reply_storm (fun waiting => absurd rfl waiting) run).1⟩

end BlueberryIrrigation
